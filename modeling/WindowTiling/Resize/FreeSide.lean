import WindowTiling.Adjacency

/-!
# Room beside the resized window

The strips of the usable area beside the resized box, the choice of the strip that the other
windows move to, and the cut that makes room when there is none.

Main facts: `largestSide_free` and `adjacentSide_free` (a chosen side has more room than the gap).
-/

namespace WindowTiling

/-- The part of the usable area beyond one side of the resized box. It starts right at the
resized edge. -/
def sideArea (side : Side) (resized usable : Box) : Box :=
  match side with
  | .right => .ofEdges resized.right usable.y usable.right usable.bottom
  | .left => .ofEdges usable.x usable.y resized.x usable.bottom
  | .bottom => .ofEdges usable.x resized.bottom usable.right usable.bottom
  | .top => .ofEdges usable.x usable.y usable.right resized.y

/-- The order in which sides are considered; of equally good ones the first is taken. -/
def sideOrder : List Side := [.right, .left, .bottom, .top]

/-- The better of the best side so far and a further one: the further one must have more room
than the gap and a larger area. -/
def betterSide (resized usable : Box) (gap : Int) (best : Option Side × Int) (side : Side) :
    Option Side × Int :=
  let area := (sideArea side resized usable).area
  if gap < freeSpace resized usable side ∧ best.2 < area then (some side, area) else best

/-- The side with the largest free area among those with more room than the gap; none if no such
side has any area. -/
def largestSide (resized usable : Box) (gap : Int) : Option Side :=
  (sideOrder.foldl (betterSide resized usable gap) (none, 0)).1

/-- A chosen side has more room than the gap. -/
theorem largestSide_free {resized usable : Box} {gap : Int} {side : Side}
    (h : largestSide resized usable gap = some side) : gap < freeSpace resized usable side := by
  have key : ∀ (l : List Side) (best : Option Side × Int),
      (∀ s, best.1 = some s → gap < freeSpace resized usable s) →
      ∀ s, (l.foldl (betterSide resized usable gap) best).1 = some s →
        gap < freeSpace resized usable s := by
    intro l
    induction l with
    | nil => exact fun best hb => hb
    | cons t l ih =>
      intro best hb
      refine ih _ fun s hs => ?_
      simp only [betterSide] at hs
      split at hs
      · next hc =>
        simp only [Option.some.injEq] at hs
        exact hs ▸ hc.1
      · exact hb s hs
  exact key sideOrder (none, 0) (by simp) side h

/-- Make room when no side has any: the resized box keeps the leading half of the usable area
along its longer axis, and the side cut off is the one that becomes free. -/
def carveSide (resized usable : Box) : Box × Side :=
  if usable.height ≤ usable.width then
    (.ofEdges resized.x resized.y (max resized.x (usable.x + usable.width.fdiv 2)) resized.bottom,
      .right)
  else
    (.ofEdges resized.x resized.y resized.right (max resized.y (usable.y + usable.height.fdiv 2)),
      .bottom)

/-- The side to clear, given on which sides the adjacent windows lie. The first side in order
that has windows while its opposite has none is taken if it has room; otherwise the side with the
largest area. -/
def adjacentSide (sides : Sides) (resized usable : Box) (gap : Int) : Option Side :=
  match sideOrder.find? fun s => sides.has s && !sides.has s.opposite with
  | some s => if gap < freeSpace resized usable s then some s else largestSide resized usable gap
  | none => largestSide resized usable gap

/-- The side to clear has more room than the gap. -/
theorem adjacentSide_free {sides : Sides} {resized usable : Box} {gap : Int} {side : Side}
    (h : adjacentSide sides resized usable gap = some side) :
    gap < freeSpace resized usable side := by
  simp only [adjacentSide] at h
  split at h
  · split at h
    · next hs =>
      simp only [Option.some.injEq] at h
      exact h ▸ hs
    · exact largestSide_free h
  · exact largestSide_free h

end WindowTiling
