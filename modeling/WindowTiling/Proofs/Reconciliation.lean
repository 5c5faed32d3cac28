import WindowTiling.Proofs.Boxes
import WindowTiling.Proofs.GridCells
import WindowTiling.Resize.Reconcile

/-!
# Fitting the others around is a partition

What `reconcile` returns, whichever way it takes: the box kept by the resized window and the strip
for the placed windows are disjoint parts of the usable area, and the windows left in place lie
in neither.

Main facts: `reconcile_parts` says which two parts there can be. Either the clamped box is kept and
the strip lies on a side with more room than the gap, or no side has that much and the box is cut.
`reconcile_partition` adds what happens to the windows.

A window left in place is not adjacent to the *clamped* box. When that box is kept nothing more is
needed. When it is cut the box may even grow, along the axis of the cut, and the reason is another
one: a box that nearly fills the usable area has every window adjacent to it but those that lie
beyond the area on both axes, and these overlap nothing inside.
-/

namespace WindowTiling

/-! ## Strips -/

/-- How far a box reaches away from the given side of another one. -/
def depth (side : Side) (b : Box) : Int := if side.isHorizontal then b.width else b.height

theorem depth_sideArea (side : Side) (kept usable : Box) :
    depth side (sideArea side kept usable) = freeSpace kept usable side := by
  cases side <;> rfl

theorem sideArea_within {kept usable : Box} (h : kept.Within usable) (hk : kept.Nonneg)
    (side : Side) : (sideArea side kept usable).Within usable := by
  rw [Box.within_iff] at *
  rw [Box.nonneg_iff] at hk
  cases side <;> simp only [sideArea, Box.x_ofEdges, Box.y_ofEdges, Box.right_ofEdges,
    Box.bottom_ofEdges] <;> omega

theorem nonneg_sideArea {kept usable : Box} (h : kept.Within usable) (hu : usable.Nonneg)
    (side : Side) : (sideArea side kept usable).Nonneg := by
  rw [Box.within_iff] at h
  rw [Box.nonneg_iff] at *
  cases side <;> simp only [sideArea, Box.x_ofEdges, Box.y_ofEdges, Box.right_ofEdges,
    Box.bottom_ofEdges] <;> omega

theorem not_overlaps_sideArea (kept usable : Box) (side : Side) :
    ¬ kept.Overlaps (sideArea side kept usable) := by
  rw [Box.overlaps_iff]
  cases side <;> simp only [sideArea, Box.x_ofEdges, Box.y_ofEdges, Box.right_ofEdges,
    Box.bottom_ofEdges] <;> omega

theorem area_sideArea_pos {kept usable : Box} (hw : 0 < usable.width) (hh : 0 < usable.height)
    {gap : Int} (hg : 0 ≤ gap) {side : Side} (h : gap < freeSpace kept usable side) :
    0 < (sideArea side kept usable).area := by
  have hd : 0 < freeSpace kept usable side := by omega
  cases side with
  | top | bottom =>
    refine Int.mul_pos ?_ hd
    simp only [sideArea, Box.ofEdges, Box.right]
    omega
  | left | right =>
    refine Int.mul_pos hd ?_
    simp only [sideArea, Box.ofEdges, Box.bottom]
    omega

/-! ## The side with the most room -/

theorem foldl_betterSide_eq_none {resized usable : Box} {gap : Int} (l : List Side)
    (best : Option Side × Int)
    (h : (l.foldl (betterSide resized usable gap) best).1 = none) :
    best.1 = none ∧ ∀ side ∈ l, gap < freeSpace resized usable side →
      (sideArea side resized usable).area ≤ best.2 := by
  induction l generalizing best with
  | nil => exact ⟨h, by simp⟩
  | cons s l ih =>
    obtain ⟨hb, hl⟩ := ih _ h
    by_cases hs : gap < freeSpace resized usable s ∧ best.2 < (sideArea s resized usable).area
    · simp [betterSide, hs] at hb
    · have hstep : betterSide resized usable gap best s = best := by
        simp only [betterSide, if_neg hs]
      rw [hstep] at hb hl
      refine ⟨hb, fun side hm hgap => ?_⟩
      rcases List.mem_cons.1 hm with rfl | hm
      · exact Int.not_lt.1 fun hlt => hs ⟨hgap, hlt⟩
      · exact hl side hm hgap

theorem mem_sideOrder (side : Side) : side ∈ sideOrder := by cases side <;> decide

/-- No side is chosen exactly when none has more room than the gap. -/
theorem largestSide_eq_none_iff {resized usable : Box} (hw : 0 < usable.width)
    (hh : 0 < usable.height) {gap : Int} (hg : 0 ≤ gap) :
    largestSide resized usable gap = none ↔ ∀ side, freeSpace resized usable side ≤ gap := by
  constructor
  · intro h side
    obtain ⟨-, hall⟩ := foldl_betterSide_eq_none sideOrder (none, 0) h
    refine Int.not_lt.1 fun hlt => ?_
    have hle := hall side (mem_sideOrder side) hlt
    have hpos := area_sideArea_pos hw hh hg hlt
    simp only at hle
    omega
  · intro h
    cases hs : largestSide resized usable gap with
    | none => rfl
    | some side => exact absurd (largestSide_free hs) (Int.not_lt.2 (h side))

theorem free_of_adjacentSide_eq_none {sides : Sides} {resized usable : Box} {gap : Int}
    (h : adjacentSide sides resized usable gap = none) : largestSide resized usable gap = none := by
  simp only [adjacentSide] at h
  split at h
  · split at h
    · simp at h
    · exact h
  · exact h

theorem twoWindowChoice_free {first second resized usable : Box} {side : Side} {gap : Int}
    (h : gap < freeSpace resized usable side) :
    gap < freeSpace resized usable (twoWindowChoice first second side resized usable gap).1 := by
  simp only [twoWindowChoice, Bool.and_eq_true, decide_eq_true_eq]
  split
  · next h => exact h.2
  · split
    · next h => exact h.2
    · split
      · next h => exact h.2
      · split
        · next h => exact h.2
        · exact h

theorem twoWindowChoice_template (first second : Box) (side : Side) (resized usable : Box)
    (gap : Int) :
    (twoWindowChoice first second side resized usable gap).2 = .sideBySide ∨
      (twoWindowChoice first second side resized usable gap).2 = .stacked := by
  simp only [twoWindowChoice]
  repeat' split
  all_goals simp

/-! ## The cut -/

theorem carveSide_within {resized usable : Box} (h : resized.Within usable)
    (hn : resized.Nonneg) (hu : usable.Nonneg) :
    (carveSide resized usable).1.Within usable ∧ (carveSide resized usable).1.Nonneg := by
  obtain ⟨hw, hh⟩ := hu
  rw [Box.within_iff, Box.nonneg_iff] at *
  have hx : usable.width.fdiv 2 = usable.width / 2 := Int.fdiv_eq_ediv_of_nonneg _ (by decide)
  have hy : usable.height.fdiv 2 = usable.height / 2 := Int.fdiv_eq_ediv_of_nonneg _ (by decide)
  simp only [carveSide]
  split <;> simp only [Box.x_ofEdges, Box.y_ofEdges, Box.right_ofEdges, Box.bottom_ofEdges] <;>
    simp only [Box.right, Box.bottom] at * <;> omega

/-- A window that is not adjacent to a box that nearly fills the usable area overlaps nothing
inside that area. -/
theorem not_overlaps_of_not_free {full resized usable b : Box} {gap : Int}
    (hfree : ∀ side, freeSpace resized usable side ≤ gap) (hadj : ¬ Adjacent full resized gap)
    (hb : b.Within usable) : ¬ full.Overlaps b := by
  have hl := hfree .left
  have hr := hfree .right
  simp only [freeSpace] at hl hr
  rw [Box.within_iff] at hb
  rw [Box.overlaps_iff]
  -- The horizontal axis alone decides: the window lies beyond the area to the left or right.
  have hx : ¬ full.xs.Overlaps resized.xs := fun h => hadj (by simp [Adjacent, h])
  have hn₁ : ¬ Near (gap + edgeTolerance) full.x resized.right := fun h =>
    hadj (by simp [Adjacent, h])
  have hn₂ : ¬ Near (gap + edgeTolerance) full.right resized.x := fun h =>
    hadj (by simp [Adjacent, h])
  change ¬ (full.x < resized.right ∧ resized.x < full.right) at hx
  simp only [Near, edgeTolerance] at hn₁ hn₂
  omega

/-! ## The parts -/

/-- The two parts of the usable area and the side of the first on which the second lies. -/
structure Parts (clamped usable : Box) (gap : Int) (r : Reconciliation) (side : Side) :
    Prop where
  area_eq : r.area = sideArea side r.resized usable
  kept : (∃ s, gap < freeSpace clamped usable s) →
    r.resized = clamped ∧ gap < freeSpace clamped usable side
  cut : (∀ s, freeSpace clamped usable s ≤ gap) →
    r.resized = (carveSide clamped usable).1 ∧ side = (carveSide clamped usable).2

theorem parts_of_free {clamped usable : Box} {gap : Int} {r : Reconciliation} {side : Side}
    (harea : r.area = sideArea side clamped usable) (hr : r.resized = clamped)
    (h : gap < freeSpace clamped usable side) : Parts clamped usable gap r side where
  area_eq := by rw [harea, hr]
  kept _ := ⟨hr, h⟩
  cut hall := absurd h (Int.not_lt.2 (hall side))

theorem parts_of_carve {clamped usable : Box} {gap : Int} {r : Reconciliation}
    (harea : r.area = sideArea (carveSide clamped usable).2 (carveSide clamped usable).1 usable)
    (hr : r.resized = (carveSide clamped usable).1)
    (h : ∀ s, freeSpace clamped usable s ≤ gap) :
    Parts clamped usable gap r (carveSide clamped usable).2 where
  area_eq := by rw [harea, hr]
  kept := fun ⟨s, hs⟩ => absurd hs (Int.not_lt.2 (h s))
  cut _ := ⟨hr, rfl⟩

/-- **The parts.** Either a side with more room than the gap is taken and the clamped box is kept,
or there is no such side and the box is cut. -/
theorem reconcile_parts (resizedFull : Box) {usable : Box} (hw : 0 < usable.width)
    (hh : 0 < usable.height) (remaining : List Tile) {gap : Int} (hg : 0 ≤ gap)
    (grid : Option Grid) :
    ∃ side, Parts (resizedFull.clamp usable) usable gap
      (reconcile resizedFull usable remaining gap grid) side := by
  simp only [reconcile]
  generalize resizedFull.clamp usable = clamped
  split
  · simp only [Reconciliation.aroundNone]
    cases hs : largestSide clamped usable gap with
    | none =>
      exact ⟨_, parts_of_carve rfl rfl ((largestSide_eq_none_iff hw hh hg).1 hs)⟩
    | some side =>
      have hfree := largestSide_free hs
      dsimp only
      split
      · exact ⟨_, parts_of_free rfl rfl (twoWindowChoice_free hfree)⟩
      · exact ⟨_, parts_of_free rfl rfl hfree⟩
  · simp only [Reconciliation.aroundAdjacent]
    cases hs : adjacentSide (Reconciliation.adjacentSides clamped gap remaining) clamped usable gap
      with
    | none =>
      have hnone := free_of_adjacentSide_eq_none hs
      exact ⟨_, parts_of_carve rfl rfl ((largestSide_eq_none_iff hw hh hg).1 hnone)⟩
    | some side => exact ⟨_, parts_of_free rfl rfl (adjacentSide_free hs)⟩

theorem Parts.resized_within {clamped usable : Box} {gap : Int} {r : Reconciliation}
    {side : Side} (h : Parts clamped usable gap r side) (hc : clamped.Within usable)
    (hn : clamped.Nonneg) (hu : usable.Nonneg) : r.resized.Within usable ∧ r.resized.Nonneg := by
  by_cases hfree : ∃ s, gap < freeSpace clamped usable s
  · rw [(h.kept hfree).1]
    exact ⟨hc, hn⟩
  · rw [(h.cut fun s => Int.not_lt.1 fun hs => hfree ⟨s, hs⟩).1]
    exact carveSide_within hc hn hu

/-! ## The windows -/

section Windows

variable {resizedFull usable : Box} {remaining : List Tile} {gap : Int} {grid : Option Grid}

theorem mem_adjacentTo {resized : Box} {t : Tile} :
    t ∈ Reconciliation.adjacentTo resized gap remaining ↔
      t ∈ remaining ∧ Adjacent t.full resized gap := by
  simp [Reconciliation.adjacentTo]

theorem mem_adjacent_iff {t : Tile} :
    t ∈ (reconcile resizedFull usable remaining gap grid).adjacent ↔
      t ∈ remaining ∧ Adjacent t.full (resizedFull.clamp usable) gap := by
  rw [← mem_adjacentTo]
  simp only [reconcile]
  split
  · next h =>
    rw [List.isEmpty_iff.1 h]
    simp only [Reconciliation.aroundNone]
    split
    · rfl
    · split <;> rfl
  · rfl

/-- A window is placed if it is adjacent or the strip would cover it, and every window is placed if
none is adjacent. -/
theorem mem_placed_iff {t : Tile} :
    t ∈ (reconcile resizedFull usable remaining gap grid).placed ↔
      t ∈ remaining ∧ (Adjacent t.full (resizedFull.clamp usable) gap ∨
        t.full.Overlaps (reconcile resizedFull usable remaining gap grid).area ∨
        Reconciliation.adjacentTo (resizedFull.clamp usable) gap remaining = []) := by
  simp only [reconcile]
  split
  · next h =>
    have hnil := List.isEmpty_iff.1 h
    simp only [Reconciliation.aroundNone]
    split
    · simp [hnil]
    · split <;> simp [hnil]
  · next h =>
    have hne : ¬ Reconciliation.adjacentTo (resizedFull.clamp usable) gap remaining = [] :=
      fun hnil => h (List.isEmpty_iff.2 hnil)
    simp [Reconciliation.aroundAdjacent, Reconciliation.toPlace, hne]

/-- A window left in place overlaps neither part. -/
theorem not_overlaps_of_not_placed (hw : 0 < usable.width) (hh : 0 < usable.height)
    (hg : 0 ≤ gap) {t : Tile} (ht : t ∈ remaining)
    (hp : t ∉ (reconcile resizedFull usable remaining gap grid).placed) :
    ¬ t.full.Overlaps (reconcile resizedFull usable remaining gap grid).resized ∧
      ¬ t.full.Overlaps (reconcile resizedFull usable remaining gap grid).area := by
  have hu : usable.Nonneg := ⟨Int.le_of_lt hw, Int.le_of_lt hh⟩
  have hadj : ¬ Adjacent t.full (resizedFull.clamp usable) gap := fun h =>
    hp (mem_placed_iff.2 ⟨ht, .inl h⟩)
  refine ⟨?_, fun h => hp (mem_placed_iff.2 ⟨ht, .inr (.inl h)⟩)⟩
  obtain ⟨side, parts⟩ := reconcile_parts resizedFull hw hh remaining hg grid
  by_cases hfree : ∃ s, gap < freeSpace (resizedFull.clamp usable) usable s
  · rw [(parts.kept hfree).1]
    exact not_overlaps_of_not_adjacent hadj
  · refine not_overlaps_of_not_free (fun s => Int.not_lt.1 fun hs => hfree ⟨s, hs⟩) hadj ?_
    exact (parts.resized_within (Box.clamp_within _ hu) (Box.nonneg_clamp _ _) hu).1

theorem placed_ne_nil (hr : remaining ≠ []) :
    (reconcile resizedFull usable remaining gap grid).placed ≠ [] := by
  obtain ⟨t, ht⟩ : ∃ t, t ∈ (reconcile resizedFull usable remaining gap grid).placed := by
    cases hadj : Reconciliation.adjacentTo (resizedFull.clamp usable) gap remaining with
    | nil =>
      obtain ⟨t, ht⟩ := List.exists_mem_of_ne_nil remaining hr
      exact ⟨t, mem_placed_iff.2 ⟨ht, .inr (.inr hadj)⟩⟩
    | cons t ts =>
      have ht := mem_adjacentTo.1 (hadj ▸ List.mem_cons_self)
      exact ⟨t, mem_placed_iff.2 ⟨ht.1, .inl ht.2⟩⟩
  exact List.ne_nil_of_mem ht

theorem reconcile_grid (hr : remaining ≠ []) (p : Preference) (aspect : Option Aspect) :
    ∃ g, (reconcile resizedFull usable remaining gap
        (Grid.forCount remaining.length p aspect)).grid = some g ∧
      g.Fits (reconcile resizedFull usable remaining gap
        (Grid.forCount remaining.length p aspect)).placed.length := by
  have hplaced : (reconcile resizedFull usable remaining gap
      (Grid.forCount remaining.length p aspect)).placed ≠ [] := placed_ne_nil hr
  have hsome : ∀ {l : List Tile}, l ≠ [] → ∀ p a, ∃ g,
      Grid.forCount l.length p a = some g ∧ g.Fits l.length := by
    intro l hl p a
    cases hgrid : Grid.forCount l.length p a with
    | none =>
      have := Grid.forCount_eq_none_iff.1 hgrid
      exact absurd (List.length_pos_iff.2 hl) (by omega)
    | some g => exact ⟨g, rfl, Grid.fits_forCount hgrid⟩
  revert hplaced
  simp only [reconcile]
  split
  · simp only [Reconciliation.aroundNone]
    split
    · exact fun _ => hsome hr p aspect
    · split
      · exact fun _ => ⟨_, rfl, Grid.fits_ofTemplate_two (twoWindowChoice_template ..)⟩
      · exact fun _ => hsome hr p aspect
  · exact fun hplaced => hsome hplaced {} none

end Windows

/-! ## The partition -/

/-- **Reconciliation is a safe partition.** The box kept by the resized window and the strip are
proper boxes inside the usable area that do not overlap. The placed windows are some of the
others, in order, with every adjacent one among them, and there is a grid for just so many. A
window left in place overlaps neither box. Unless every side of the clamped box has at most the
gap of room, the strip is deeper than the gap. -/
theorem reconcile_partition (resizedFull : Box) {usable : Box} (hw : 0 < usable.width)
    (hh : 0 < usable.height) {remaining : List Tile} (hr : remaining ≠ []) {gap : Int}
    (hg : 0 ≤ gap) (p : Preference) (aspect : Option Aspect) :
    let clamped := resizedFull.clamp usable
    let r := reconcile resizedFull usable remaining gap
      (Grid.forCount remaining.length p aspect)
    (r.resized.Within usable ∧ r.resized.Nonneg) ∧
      (r.area.Within usable ∧ r.area.Nonneg) ∧
      ¬ r.resized.Overlaps r.area ∧
      r.placed.Sublist remaining ∧
      (∀ t, t ∈ r.adjacent ↔ t ∈ remaining ∧ Adjacent t.full clamped gap) ∧
      (∀ t ∈ r.adjacent, t ∈ r.placed) ∧
      (∀ t ∈ remaining, t ∉ r.placed → ¬ t.full.Overlaps r.resized ∧ ¬ t.full.Overlaps r.area) ∧
      (∃ g, r.grid = some g ∧ g.count = r.placed.length) ∧
      ((∃ side, gap < freeSpace clamped usable side) →
        ∃ side, r.area = sideArea side clamped usable ∧ gap < depth side r.area) := by
  intro clamped r
  have hu : usable.Nonneg := ⟨Int.le_of_lt hw, Int.le_of_lt hh⟩
  -- Both branches of the reconciliation cut the usable area along one side, and all that follows is
  -- told from this side.
  obtain ⟨side, parts⟩ := reconcile_parts resizedFull hw hh remaining hg
    (Grid.forCount remaining.length p aspect)
  have hkept := parts.resized_within (Box.clamp_within _ hu) (Box.nonneg_clamp _ _) hu
  obtain ⟨g, hgrid, hfits⟩ := @reconcile_grid resizedFull usable remaining gap hr p aspect
  refine ⟨hkept, ?_, ?_, placed_sublist _ _ _ _ _, fun t => mem_adjacent_iff, fun t ht => ?_,
    fun t => not_overlaps_of_not_placed hw hh hg, ⟨g, hgrid, hfits.count_eq⟩, fun hfree => ?_⟩
  · rw [show r.area = _ from parts.area_eq]
    exact ⟨sideArea_within hkept.1 hkept.2 side, nonneg_sideArea hkept.1 hu side⟩
  · rw [show r.area = _ from parts.area_eq]
    exact not_overlaps_sideArea _ _ _
  · have hadj := mem_adjacent_iff.1 ht
    exact mem_placed_iff.2 ⟨hadj.1, .inl hadj.2⟩
  · obtain ⟨hr, hside⟩ := parts.kept hfree
    have harea : r.area = sideArea side clamped usable := by
      rw [show r.area = _ from parts.area_eq, hr]
    exact ⟨side, harea, by rwa [harea, depth_sideArea]⟩

/-- A window to the right of a box in the middle of the screen, and one in the far corner. -/
def besideAndCorner : List Tile :=
  [⟨⟨0⟩, {}, ⟨620, 450, 100, 100⟩⟩, ⟨⟨1⟩, {}, ⟨0, 0, 50, 50⟩⟩]

/-- The window in the corner is left in place, clear of both parts. -/
theorem reconcile_partition_corner :
    let r := reconcile ⟨400, 400, 200, 200⟩ ⟨0, 0, 1000, 1000⟩ besideAndCorner 4
      (Grid.forCount besideAndCorner.length {} none)
    besideAndCorner ≠ [] ∧ r.placed = besideAndCorner.take 1 ∧ ¬ r.resized.Overlaps r.area ∧
      (∀ t ∈ besideAndCorner, t ∉ r.placed →
        ¬ t.full.Overlaps r.resized ∧ ¬ t.full.Overlaps r.area) ∧
      ∃ side, r.area = sideArea side ⟨400, 400, 200, 200⟩ ⟨0, 0, 1000, 1000⟩ ∧
        4 < depth side r.area := by
  intro r
  obtain ⟨-, -, hclear, -, -, -, hleft, -, hdeep⟩ :=
    @reconcile_partition ⟨400, 400, 200, 200⟩ ⟨0, 0, 1000, 1000⟩ (by decide) (by decide)
      besideAndCorner (by decide) 4 (by decide) {} none
  exact ⟨by decide, by decide, hclear, hleft, hdeep ⟨.right, by decide⟩⟩

end WindowTiling
