import WindowTiling.Adjacency
import WindowTiling.Tile

/-!
# Filling left-over space

Windows at the border of the occupied part of a usable area grow into the room between the
occupied part and the edges of the area. Regions are filled in rounds, until a round changes
nothing in any of them or the rounds are used up.

Main facts: `fillFrom_skip` (the window to be left alone gets no placement) and
`rounds_le` (no more rounds than allowed).
-/

namespace WindowTiling

/-! ## One region -/

/-- The full box after growing: an edge moves to the gap inside the usable edge if there is more
room than the gap on its side of the occupied box and the edge lies at the border of that box. -/
def grow (gap : Int) (usable occupied full : Box) : Box :=
  let t := gap + edgeTolerance
  Box.clamp (.ofEdges
    (if gap < freeSpace occupied usable .left ∧ Near t full.x occupied.x then usable.x + gap
      else full.x)
    (if gap < freeSpace occupied usable .top ∧ Near t full.y occupied.y then usable.y + gap
      else full.y)
    (if gap < freeSpace occupied usable .right ∧ Near t full.right occupied.right then
      usable.right - gap else full.right)
    (if gap < freeSpace occupied usable .bottom ∧ Near t full.bottom occupied.bottom then
      usable.bottom - gap else full.bottom)) usable

/-- Grow the tiles one after the other. The occupied box takes in what has grown before the next
tile is looked at. -/
def fillFrom (gap : Int) (skip : Option WindowRef) (usable : Box) :
    Box → List Tile → List Placement
  | _, [] => []
  | occupied, t :: ts =>
    if skip = some t.window then fillFrom gap skip usable occupied ts
    else
      let grown := grow gap usable occupied t.full
      if grown = t.full then fillFrom gap skip usable occupied ts
      else ⟨t.window, t.contentOf grown usable⟩ ::
        fillFrom gap skip usable (occupied.union grown) ts

/-- No side of the occupied box has more room than the gap. -/
def Filled (gap : Int) (usable occupied : Box) : Prop :=
  freeSpace occupied usable .left ≤ gap ∧ freeSpace occupied usable .right ≤ gap ∧
    freeSpace occupied usable .top ≤ gap ∧ freeSpace occupied usable .bottom ≤ gap

instance (gap : Int) (usable occupied : Box) : Decidable (Filled gap usable occupied) := by
  unfold Filled
  infer_instance

/-- What one round places in a region. -/
def fillRegion (gap : Int) (skip : Option WindowRef) (r : Region) : List Placement :=
  match Box.bounding (r.tiles.map Tile.full) with
  | none => []
  | some occupied =>
    if Filled gap r.usable occupied then [] else fillFrom gap skip r.usable occupied r.tiles

theorem fillFrom_skip {gap : Int} {w : WindowRef} {usable occupied : Box} {ts : List Tile}
    {p : Placement} (h : p ∈ fillFrom gap (some w) usable occupied ts) : p.window ≠ w := by
  induction ts generalizing occupied with
  | nil => simp [fillFrom] at h
  | cons t ts ih =>
    simp only [fillFrom] at h
    split at h
    · exact ih h
    · next hs =>
      split at h
      · exact ih h
      · rcases List.mem_cons.1 h with rfl | h
        · exact fun e => hs (by rw [← e])
        · exact ih h

/-! ## Rounds -/

/-- A region being filled. Once a round has placed nothing in it, it is settled. -/
structure Filling where
  region : Region
  settled : Bool := false
  deriving Repr

namespace Filling

/-- What the next round places. -/
def placements (gap : Int) (skip : Option WindowRef) (f : Filling) : List Placement :=
  if f.settled then [] else fillRegion gap skip f.region

/-- The region after the next round. -/
def next (gap : Int) (skip : Option WindowRef) (f : Filling) : Filling :=
  let ps := f.placements gap skip
  ⟨f.region.placeAll ps, ps.isEmpty⟩

end Filling

/-- The outcome of filling: the rounds used, the placements made in order, and the regions
afterwards. -/
structure FillResult where
  rounds : Nat
  placements : List Placement
  regions : List Region
  deriving Repr

/-- Go on for at most so many rounds, while some region is not settled. -/
def fillRounds (gap : Int) (skip : Option WindowRef) : Nat → List Filling → FillResult
  | 0, fs => ⟨0, [], fs.map (·.region)⟩
  | max + 1, fs =>
    if fs.all (·.settled) then ⟨0, [], fs.map (·.region)⟩
    else
      let rest := fillRounds gap skip max (fs.map (Filling.next gap skip))
      ⟨rest.rounds + 1, fs.flatMap (Filling.placements gap skip) ++ rest.placements, rest.regions⟩

/-- How many rounds a tiling pass allows. -/
def maxFillRounds : Nat := 10

/-- Fill regions for at most `max` rounds, leaving one window alone. -/
def fill (gap : Int) (skip : Option WindowRef) (max : Nat) (regions : List Region) : FillResult :=
  fillRounds gap skip max (regions.map fun r => { region := r })

theorem rounds_le (gap : Int) (skip : Option WindowRef) (max : Nat) (fs : List Filling) :
    (fillRounds gap skip max fs).rounds ≤ max := by
  induction max generalizing fs with
  | zero => exact Nat.le_refl 0
  | succ max ih =>
    simp only [fillRounds]
    split
    · exact Nat.zero_le _
    · exact Nat.succ_le_succ (ih _)

end WindowTiling
