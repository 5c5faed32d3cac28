import WindowTiling.Grid.Cells
import WindowTiling.Resize.FreeSide
import WindowTiling.Tile

/-!
# Fitting the others around a resized window

The footprint of the resized window is taken out of the usable area, one strip beside it is
chosen, and the windows to be placed in that strip are picked: those adjacent to the resized box
and those that would be covered. The others are left in place.

Main fact: `placed_sublist` (the placed windows keep their order).
-/

namespace WindowTiling

/-- How the other windows are to be laid out around a resized one. -/
structure Reconciliation where
  /-- The clamped, possibly cut, full box of the resized window. -/
  resized : Box
  /-- The strip into which the placed windows go. -/
  area : Box
  grid : Option Grid
  placed : List Tile
  adjacent : List Tile
  deriving Repr

/-- Where exactly two windows go when none is adjacent: side by side in a band if both lie above
or both below the resized box, stacked in a strip if both lie left or both right of it, and else
as the shape of the chosen side suggests. -/
def twoWindowChoice (first second : Box) (side : Side) (resized usable : Box) (gap : Int) :
    Side × Template :=
  let common := (relativeSides first resized).inter (relativeSides second resized)
  let roomy (s : Side) : Bool := common.has s && gap < freeSpace resized usable s
  if roomy .top then (.top, .sideBySide)
  else if roomy .bottom then (.bottom, .sideBySide)
  else if roomy .left then (.left, .stacked)
  else if roomy .right then (.right, .stacked)
  else (side, if side.isHorizontal then .stacked else .sideBySide)

namespace Reconciliation

/-- The windows adjacent to a box. -/
def adjacentTo (resized : Box) (gap : Int) (remaining : List Tile) : List Tile :=
  remaining.filter fun t => Adjacent t.full resized gap

/-- All sides on which adjacent windows lie. -/
def adjacentSides (resized : Box) (gap : Int) (remaining : List Tile) : Sides :=
  Sides.unions ((adjacentTo resized gap remaining).map fun t => sidesOf t.full resized gap)

/-- The windows to place in an area: the adjacent ones and those the area would cover. -/
def toPlace (resized area : Box) (gap : Int) (remaining : List Tile) : List Tile :=
  remaining.filter fun t => Adjacent t.full resized gap || t.full.Overlaps area

/-- Take a free side, or cut the resized box where there is none. -/
def orCarve (side : Option Side) (resized usable : Box) : Box × Side :=
  match side with
  | some s => (resized, s)
  | none => carveSide resized usable

/-- The layout when some window is adjacent. -/
def aroundAdjacent (resized usable : Box) (remaining : List Tile) (gap : Int) : Reconciliation :=
  let sides := adjacentSides resized gap remaining
  let (kept, side) := orCarve (adjacentSide sides resized usable gap) resized usable
  let area := sideArea side kept usable
  let placed := toPlace resized area gap remaining
  ⟨kept, area, Grid.forCount placed.length {} none, placed, adjacentTo resized gap remaining⟩

/-- The layout when no window is adjacent: all of them are placed. -/
def aroundNone (resized usable : Box) (remaining : List Tile) (gap : Int) (grid : Option Grid) :
    Reconciliation :=
  match largestSide resized usable gap with
  | none =>
    let (kept, side) := carveSide resized usable
    ⟨kept, sideArea side kept usable, grid, remaining, []⟩
  | some side =>
    match remaining with
    | [first, second] =>
      let (side, template) := twoWindowChoice first.full second.full side resized usable gap
      ⟨resized, sideArea side resized usable, some (Grid.ofTemplate 2 template), remaining, []⟩
    | _ => ⟨resized, sideArea side resized usable, grid, remaining, []⟩

end Reconciliation

/-- Work out where the windows other than the resized one go. `grid` is the grid for all of
them. -/
def reconcile (resizedFull usable : Box) (remaining : List Tile) (gap : Int)
    (grid : Option Grid) : Reconciliation :=
  let resized := resizedFull.clamp usable
  if (Reconciliation.adjacentTo resized gap remaining).isEmpty then
    Reconciliation.aroundNone resized usable remaining gap grid
  else Reconciliation.aroundAdjacent resized usable remaining gap

/-- The placed windows are some of the others, in their order. -/
theorem placed_sublist (resizedFull usable : Box) (remaining : List Tile) (gap : Int)
    (grid : Option Grid) :
    (reconcile resizedFull usable remaining gap grid).placed.Sublist remaining := by
  simp only [reconcile]
  split
  · simp only [Reconciliation.aroundNone]
    split
    · exact List.Sublist.refl _
    · split <;> exact List.Sublist.refl _
  · exact List.filter_sublist

end WindowTiling
