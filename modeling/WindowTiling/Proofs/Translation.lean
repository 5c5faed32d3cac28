import Mathlib.Algebra.Order.Group.Int
import Mathlib.Algebra.Order.Group.MinMax
import Mathlib.Tactic.SplitIfs
import WindowTiling.Fill
import WindowTiling.Proofs.Boxes
import WindowTiling.Resize.Reconcile
import WindowTiling.Resize.Resolve

/-!
# Translated layouts

Moving everything on a screen by the same offset moves what the layout makes of it by that offset.
There are two kinds of facts. What only looks at boxes (overlap, free space, adjacency, the choice
of a side) sees the same after a move; what makes boxes (clamping, cells, strips, cuts, growth)
makes the moved ones. Each function of the layout has one such fact, and the fact of a function
follows from those of the functions it is made of.

Main facts: `cells_shift`, `reconcile_shift`, `resolveResized_shift` and `fillFrom_shift`.
-/

namespace WindowTiling

/-- By how much something is moved along each axis. -/
structure Offset where
  dx : Int := 0
  dy : Int := 0
  deriving DecidableEq, Repr, Inhabited

/-! ## Boxes -/

namespace Box

/-- The box moved by an offset. -/
def shift (b : Box) (v : Offset) : Box := ⟨b.x + v.dx, b.y + v.dy, b.width, b.height⟩

variable (a b bounds : Box) (v : Offset)

@[simp] theorem x_shift : (b.shift v).x = b.x + v.dx := rfl

@[simp] theorem y_shift : (b.shift v).y = b.y + v.dy := rfl

@[simp] theorem width_shift : (b.shift v).width = b.width := rfl

@[simp] theorem height_shift : (b.shift v).height = b.height := rfl

@[simp] theorem right_shift : (b.shift v).right = b.right + v.dx := by
  simp only [right, x_shift, width_shift]; omega

@[simp] theorem bottom_shift : (b.shift v).bottom = b.bottom + v.dy := by
  simp only [bottom, y_shift, height_shift]; omega

theorem shift_ofEdges (l t r s : Int) : (ofEdges l t r s).shift v =
    ofEdges (l + v.dx) (t + v.dy) (r + v.dx) (s + v.dy) := by
  simp only [ofEdges, shift, mk.injEq, true_and]; omega

theorem shift_inj : a.shift v = b.shift v ↔ a = b := by
  cases a
  cases b
  simp only [shift, mk.injEq]
  omega

@[simp] theorem isEmpty_shift : (b.shift v).IsEmpty ↔ b.IsEmpty := Iff.rfl

@[simp] theorem area_shift : (b.shift v).area = b.area := rfl

theorem overlaps_shift : (a.shift v).Overlaps (b.shift v) ↔ a.Overlaps b := by
  simp only [overlaps_iff, x_shift, y_shift, right_shift, bottom_shift]
  omega

theorem expand_shift (m : Border) : (b.shift v).expand m = (b.expand m).shift v := by
  simp only [expand, shift, mk.injEq, and_true]; omega

theorem inset_shift (m : Border) : (b.shift v).inset m = (b.inset m).shift v := by
  simp only [inset, shift, mk.injEq, and_true]; omega

theorem clamp_shift : (b.shift v).clamp (bounds.shift v) = (b.clamp bounds).shift v :=
  congrArg₂ ofSpans (b.xs.clamp_shift bounds.xs v.dx) (b.ys.clamp_shift bounds.ys v.dy)

theorem union_shift : (a.shift v).union (b.shift v) = (a.union b).shift v := by
  simp only [union, ofSpans, Span.hull, Span.between, Span.stop, xs, ys, shift, mk.injEq]
  omega

theorem foldl_union_shift (bs : List Box) :
    (bs.map (·.shift v)).foldl union (a.shift v) = (bs.foldl union a).shift v := by
  induction bs generalizing a with
  | nil => rfl
  | cons b bs ih => rw [List.map_cons, List.foldl_cons, union_shift, ih, List.foldl_cons]

theorem bounding_shift (bs : List Box) :
    bounding (bs.map (·.shift v)) = (bounding bs).map (·.shift v) := by
  cases bs with
  | nil => rfl
  | cons b bs => exact congrArg some (foldl_union_shift b v bs)

end Box

open Box

/-! ## Sides and adjacency -/

section Sides

variable (a b full resized usable : Box) (gap : Int) (v : Offset)

@[simp] theorem freeSpace_shift (side : Side) :
    freeSpace (a.shift v) (b.shift v) side = freeSpace a b side := by
  cases side <;> simp only [freeSpace, x_shift, y_shift, right_shift, bottom_shift] <;> omega

theorem near_add (t x y d : Int) : Near t (x + d) (y + d) ↔ Near t x y := by
  simp only [Near]; omega

theorem adjacent_shift : Adjacent (full.shift v) (resized.shift v) gap ↔
    Adjacent full resized gap := by
  have hx : (full.shift v).xs.Overlaps (resized.shift v).xs ↔ full.xs.Overlaps resized.xs := by
    simp only [Span.Overlaps, Span.stop, xs, shift]; omega
  have hy : (full.shift v).ys.Overlaps (resized.shift v).ys ↔ full.ys.Overlaps resized.ys := by
    simp only [Span.Overlaps, Span.stop, ys, shift]; omega
  simp only [Adjacent, hx, hy, x_shift, y_shift, right_shift, bottom_shift, near_add]

theorem sidesOf_shift :
    sidesOf (full.shift v) (resized.shift v) gap = sidesOf full resized gap := by
  simp only [sidesOf, x_shift, y_shift, right_shift, bottom_shift,
    add_right_comm _ _ (gap + edgeTolerance), add_sub_right_comm _ _ (gap + edgeTolerance),
    add_le_add_iff_right]

theorem relativeSides_shift :
    relativeSides (full.shift v) (resized.shift v) = relativeSides full resized := by
  simp only [relativeSides, x_shift, y_shift, right_shift, bottom_shift, add_le_add_iff_right]

theorem blockedSides_shift (neighbours : List Box) :
    blockedSides (neighbours.map (·.shift v)) (full.shift v) gap =
      blockedSides neighbours full gap := by
  simp only [blockedSides, List.map_map]
  refine congrArg _ (List.map_congr_left fun other _ => ?_)
  simp only [Function.comp_apply, x_shift, y_shift, right_shift, bottom_shift,
    add_right_comm _ _ gap, add_sub_right_comm _ _ gap, add_le_add_iff_right]

theorem sideArea_shift (side : Side) :
    sideArea side (resized.shift v) (usable.shift v) = (sideArea side resized usable).shift v := by
  cases side <;>
    simp only [sideArea, x_shift, y_shift, right_shift, bottom_shift, shift_ofEdges]

theorem largestSide_shift :
    largestSide (resized.shift v) (usable.shift v) gap = largestSide resized usable gap := by
  have hbetter : betterSide (resized.shift v) (usable.shift v) gap =
      betterSide resized usable gap := by
    funext best side
    simp only [betterSide, sideArea_shift, area_shift, freeSpace_shift]
  rw [largestSide, hbetter, largestSide]

theorem adjacentSide_shift (sides : Sides) :
    adjacentSide sides (resized.shift v) (usable.shift v) gap =
      adjacentSide sides resized usable gap := by
  simp only [adjacentSide, freeSpace_shift, largestSide_shift]

theorem carveSide_shift : carveSide (resized.shift v) (usable.shift v) =
    ((carveSide resized usable).1.shift v, (carveSide resized usable).2) := by
  by_cases h : usable.height ≤ usable.width
  · simp only [carveSide, width_shift, height_shift, if_pos h, shift_ofEdges, x_shift, y_shift,
      bottom_shift, add_right_comm _ _ (usable.width.fdiv 2), max_add_add_right]
  · simp only [carveSide, width_shift, height_shift, if_neg h, shift_ofEdges, x_shift, y_shift,
      right_shift, add_right_comm _ _ (usable.height.fdiv 2), max_add_add_right]

theorem twoWindowChoice_shift (first second : Box) (side : Side) :
    twoWindowChoice (first.shift v) (second.shift v) side (resized.shift v) (usable.shift v) gap =
      twoWindowChoice first second side resized usable gap := by
  simp only [twoWindowChoice, relativeSides_shift, freeSpace_shift]

end Sides

/-! ## Grids -/

namespace Grid

variable (g : Grid) (area : Box) (gap : Int) (v : Offset)

theorem cellSize_shift : g.cellSize (area.shift v) gap = g.cellSize area gap := rfl

theorem cell_shift (size : Int × Int) (index : Int) :
    g.cell (area.shift v) gap size index = (g.cell area gap size index).shift v := by
  -- The place of a cell moves along; what is left to the far edge stays the same.
  have hx : ∀ a b : Int, area.x + v.dx + a + b = area.x + a + b + v.dx := fun a b => by omega
  have hy : ∀ a b : Int, area.y + v.dy + a + b = area.y + a + b + v.dy := fun a b => by omega
  have hrest : ∀ far d near : Int, far + d - gap - (near + d) = far - gap - near :=
    fun far d near => by omega
  simp only [cell, x_shift, y_shift, width_shift, right_shift, bottom_shift, hx, hy, hrest]
  rfl

theorem splitCells_shift :
    splitCells (area.shift v) gap = (splitCells area gap).map (·.shift v) := by
  have hx : ∀ a b : Int, area.x + v.dx + a + b = area.x + a + b + v.dx := fun a b => by omega
  have hy : ∀ a b : Int, area.y + v.dy + a + b = area.y + a + b + v.dy := fun a b => by omega
  have hrest : ∀ far d near : Int, far + d - gap - (near + d) = far - gap - near :=
    fun far d near => by omega
  simp only [splitCells, x_shift, y_shift, width_shift, height_shift, right_shift, bottom_shift,
    hx, hy, hrest, add_right_comm _ _ gap]
  rfl

theorem cells_shift (allowSplit : Bool) (count : Nat) :
    g.cells (area.shift v) gap allowSplit count =
      (g.cells area gap allowSplit count).map (List.map (·.shift v)) := by
  simp only [cells, cellSize_shift, cell_shift, splitCells_shift]
  split
  · rfl
  · split
    · rfl
    · split
      · simp only [Option.map_some, List.map_map, Function.comp_def]
      · rfl

end Grid

/-! ## The resized window -/

section Resized

variable (box other usable : Box) (gap : Int) (v : Offset)

theorem shrinkOff_shift :
    shrinkOff (box.shift v) (other.shift v) gap = (shrinkOff box other gap).shift v := by
  simp only [shrinkOff, x_shift, y_shift, right_shift, bottom_shift, add_right_comm _ _ gap,
    add_sub_right_comm _ _ gap, min_add_add_right, max_add_add_right, add_sub_add_right_eq_sub,
    add_lt_add_iff_right]
  split_ifs <;> rw [shift_ofEdges]

theorem shrinkOffAll_shift (others : List Box) :
    shrinkOffAll (box.shift v) (others.map (·.shift v)) gap =
      ((shrinkOffAll box others gap).1.shift v, (shrinkOffAll box others gap).2) := by
  unfold shrinkOffAll
  generalize false = overlapped
  induction others generalizing box overlapped with
  | nil => rfl
  | cons other others ih =>
    simp only [List.map_cons, List.foldl_cons, overlaps_shift]
    split
    · rw [shrinkOff_shift, ih]
    · exact ih box overlapped

theorem growResized_shift (blocked : Sides) :
    growResized (box.shift v) (usable.shift v) blocked gap =
      (growResized box usable blocked gap).shift v := by
  have hside : roomiestSide (box.shift v) (usable.shift v) blocked gap =
      roomiestSide box usable blocked gap := by
    simp only [roomiestSide, freeSpace_shift]
  rw [growResized, hside, growResized]
  cases roomiestSide box usable blocked gap with
  | none => rfl
  | some side =>
    cases side <;> simp only [growTo, x_shift, y_shift, right_shift, bottom_shift, shift_ofEdges,
      add_right_comm _ _ gap, add_sub_right_comm _ _ gap]

theorem any_overlaps_shift (others : List Box) :
    ((others.map (·.shift v)).any fun other => (box.shift v).Overlaps other) =
      others.any fun other => box.Overlaps other := by
  rw [List.any_map]
  refine congrArg _ (funext fun other => ?_)
  exact decide_eq_decide.2 (overlaps_shift box other v)

theorem resolveResized_shift (others neighbours : List Box) :
    resolveResized (box.shift v) (usable.shift v) (others.map (·.shift v))
        (neighbours.map (·.shift v)) gap =
      (resolveResized box usable others neighbours gap).shift v := by
  simp only [resolveResized, clamp_shift, shrinkOffAll_shift, blockedSides_shift,
    growResized_shift, ← List.map_append, any_overlaps_shift]
  split
  · exact clamp_shift _ _ _
  · split
    · exact clamp_shift _ _ _
    · exact clamp_shift _ _ _

end Resized

/-! ## Tiles -/

/-- The tile moved by an offset. -/
def Tile.shift (t : Tile) (v : Offset) : Tile := { t with box := t.box.shift v }

/-- The placement moved by an offset. -/
def Placement.shift (p : Placement) (v : Offset) : Placement := { p with box := p.box.shift v }

/-- The region moved by an offset. -/
def Region.shift (r : Region) (v : Offset) : Region :=
  ⟨r.usable.shift v, r.tiles.map (·.shift v)⟩

/-- How the others are fitted, moved by an offset. -/
def Reconciliation.shift (r : Reconciliation) (v : Offset) : Reconciliation where
  resized := r.resized.shift v
  area := r.area.shift v
  grid := r.grid
  placed := r.placed.map (·.shift v)
  adjacent := r.adjacent.map (·.shift v)

section Tiles

variable (t : Tile) (tiles : List Tile) (gap : Int) (v : Offset)

@[simp] theorem Tile.window_shift : (t.shift v).window = t.window := rfl

@[simp] theorem Tile.margins_shift : (t.shift v).margins = t.margins := rfl

theorem Tile.full_shift : (t.shift v).full = t.full.shift v := Box.expand_shift _ _ _

theorem Tile.map_full_shift :
    (tiles.map (·.shift v)).map Tile.full = (tiles.map Tile.full).map (·.shift v) := by
  simp only [List.map_map]
  exact List.map_congr_left fun t _ => t.full_shift v

theorem Tile.contentOf_shift (full usable : Box) :
    (t.shift v).contentOf (full.shift v) (usable.shift v) = (t.contentOf full usable).shift v := by
  rw [contentOf, Tile.margins_shift, inset_shift, clamp_shift, contentOf]

/-- Looking only at what a move keeps of a tile picks the moved ones of the same tiles. -/
theorem filter_shift {p q : Tile → Bool} (h : ∀ t ∈ tiles, p (t.shift v) = q t) :
    (tiles.map (·.shift v)).filter p = (tiles.filter q).map (·.shift v) := by
  rw [List.filter_map]
  exact congrArg _ (List.filter_congr h)

end Tiles

/-! ## Fitting the others -/

namespace Reconciliation

variable (resized usable : Box) (remaining : List Tile) (gap : Int) (v : Offset)

theorem adjacentTo_shift : adjacentTo (resized.shift v) gap (remaining.map (·.shift v)) =
    (adjacentTo resized gap remaining).map (·.shift v) :=
  filter_shift _ _ fun t _ => by simp only [Tile.full_shift, adjacent_shift]

theorem adjacentSides_shift : adjacentSides (resized.shift v) gap (remaining.map (·.shift v)) =
    adjacentSides resized gap remaining := by
  simp only [adjacentSides, adjacentTo_shift, List.map_map]
  refine congrArg _ (List.map_congr_left fun t _ => ?_)
  simp only [Function.comp_apply, Tile.full_shift, sidesOf_shift]

theorem toPlace_shift (area : Box) :
    toPlace (resized.shift v) (area.shift v) gap (remaining.map (·.shift v)) =
      (toPlace resized area gap remaining).map (·.shift v) :=
  filter_shift _ _ fun t _ => by simp only [Tile.full_shift, adjacent_shift, overlaps_shift]

theorem orCarve_shift (side : Option Side) : orCarve side (resized.shift v) (usable.shift v) =
    ((orCarve side resized usable).1.shift v, (orCarve side resized usable).2) := by
  cases side with
  | none => exact carveSide_shift resized usable v
  | some side => rfl

theorem aroundAdjacent_shift :
    aroundAdjacent (resized.shift v) (usable.shift v) (remaining.map (·.shift v)) gap =
      (aroundAdjacent resized usable remaining gap).shift v := by
  simp only [aroundAdjacent, adjacentSides_shift, adjacentSide_shift, orCarve_shift,
    sideArea_shift, toPlace_shift, adjacentTo_shift, List.length_map, shift]

theorem aroundNone_shift (grid : Option Grid) :
    aroundNone (resized.shift v) (usable.shift v) (remaining.map (·.shift v)) gap grid =
      (aroundNone resized usable remaining gap grid).shift v := by
  simp only [aroundNone, largestSide_shift]
  cases largestSide resized usable gap with
  | none => simp only [carveSide_shift, sideArea_shift, shift, List.map_nil]
  | some side =>
    rcases remaining with _ | ⟨first, _ | ⟨second, _ | ⟨third, rest⟩⟩⟩
    · simp only [List.map_nil, sideArea_shift, shift]
    · simp only [List.map_cons, List.map_nil, sideArea_shift, shift]
    · simp only [List.map_cons, List.map_nil, Tile.full_shift, twoWindowChoice_shift,
        sideArea_shift, shift]
    · simp only [List.map_cons, List.map_nil, sideArea_shift, shift]

end Reconciliation

/-- **Fitting the others around a moved window** moves the strip and what goes into it. -/
theorem reconcile_shift (resizedFull usable : Box) (remaining : List Tile) (gap : Int)
    (grid : Option Grid) (v : Offset) :
    reconcile (resizedFull.shift v) (usable.shift v) (remaining.map (·.shift v)) gap grid =
      (reconcile resizedFull usable remaining gap grid).shift v := by
  simp only [reconcile, clamp_shift, Reconciliation.adjacentTo_shift, List.isEmpty_map]
  split
  · exact Reconciliation.aroundNone_shift _ _ _ _ _ _
  · exact Reconciliation.aroundAdjacent_shift _ _ _ _ _

/-! ## Filling -/

theorem grow_shift (gap : Int) (usable occupied full : Box) (v : Offset) :
    grow gap (usable.shift v) (occupied.shift v) (full.shift v) =
      (grow gap usable occupied full).shift v := by
  simp only [grow, freeSpace_shift, x_shift, y_shift, right_shift, bottom_shift, near_add]
  rw [← clamp_shift, shift_ofEdges]
  refine congrArg (Box.clamp · _) ?_
  simp only [ofEdges, Box.mk.injEq]
  split_ifs <;> omega

theorem filled_shift (gap : Int) (usable occupied : Box) (v : Offset) :
    Filled gap (usable.shift v) (occupied.shift v) ↔ Filled gap usable occupied := by
  simp only [Filled, freeSpace_shift]

theorem fillFrom_shift (gap : Int) (skip : Option WindowRef) (usable occupied : Box)
    (tiles : List Tile) (v : Offset) :
    fillFrom gap skip (usable.shift v) (occupied.shift v) (tiles.map (·.shift v)) =
      (fillFrom gap skip usable occupied tiles).map (·.shift v) := by
  induction tiles generalizing occupied with
  | nil => rfl
  | cons t tiles ih =>
    simp only [List.map_cons, fillFrom, Tile.window_shift, Tile.full_shift, grow_shift, shift_inj,
      union_shift, Tile.contentOf_shift, ih]
    split
    · rfl
    · split <;> rfl

theorem fillRegion_shift (gap : Int) (skip : Option WindowRef) (r : Region) (v : Offset) :
    fillRegion gap skip (r.shift v) = (fillRegion gap skip r).map (·.shift v) := by
  simp only [fillRegion, Region.shift, Tile.map_full_shift, bounding_shift]
  cases Box.bounding (r.tiles.map Tile.full) with
  | none => rfl
  | some occupied =>
    simp only [Option.map_some, filled_shift, fillFrom_shift]
    split <;> rfl

end WindowTiling
