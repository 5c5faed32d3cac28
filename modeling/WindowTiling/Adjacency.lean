import WindowTiling.Geometry.Side

/-!
# Adjacency

How the full box of a window sits relative to the full box of the window being resized. Edges
count as touching when they are closer than the gap and a few units more, which absorbs the
rounding of margin arithmetic.
-/

namespace WindowTiling

/-- Edges closer than the gap and this much more count as touching. -/
def edgeTolerance : Int := 5

/-- The two numbers are at most `t` apart. -/
def Near (t a b : Int) : Prop := a - b ≤ t ∧ b - a ≤ t

instance (t a b : Int) : Decidable (Near t a b) :=
  inferInstanceAs (Decidable (a - b ≤ t ∧ b - a ≤ t))

/-- A box is adjacent to the resized one when along some axis an edge of it nearly touches the
facing edge, or the extents overlap. -/
def Adjacent (full resized : Box) (gap : Int) : Prop :=
  let t := gap + edgeTolerance
  Near t full.y resized.bottom ∨ Near t full.bottom resized.y ∨ full.ys.Overlaps resized.ys ∨
    Near t full.x resized.right ∨ Near t full.right resized.x ∨ full.xs.Overlaps resized.xs

instance (full resized : Box) (gap : Int) : Decidable (Adjacent full resized gap) := by
  unfold Adjacent
  infer_instance

/-- The sides of the resized box on which a box lies, give or take the tolerance. -/
def sidesOf (full resized : Box) (gap : Int) : Sides :=
  let t := gap + edgeTolerance
  { right := resized.right - t ≤ full.x
    left := full.right ≤ resized.x + t
    bottom := resized.bottom - t ≤ full.y
    top := full.bottom ≤ resized.y + t }

/-- None for a box that is not adjacent, else the sides of the resized box on which it lies; no
side at all for a box that overlaps the resized one without a clear side. -/
def classify (full resized : Box) (gap : Int) : Option Sides :=
  if Adjacent full resized gap then some (sidesOf full resized gap) else none

/-- The sides of `full` on which some box stands in the way. -/
def blockedSides (neighbours : List Box) (full : Box) (gap : Int) : Sides :=
  Sides.unions (neighbours.map fun other =>
    { left := other.right ≤ full.x + gap
      right := full.right - gap ≤ other.x
      top := other.bottom ≤ full.y + gap
      bottom := full.bottom - gap ≤ other.y })

/-- The sides of the resized box beyond which a box lies entirely. -/
def relativeSides (full resized : Box) : Sides :=
  { top := full.bottom ≤ resized.y
    bottom := resized.bottom ≤ full.y
    left := full.right ≤ resized.x
    right := resized.right ≤ full.x }

/-- Boxes that are not adjacent overlap along neither axis. -/
theorem not_overlaps_of_not_adjacent {full resized : Box} {gap : Int}
    (h : ¬ Adjacent full resized gap) : ¬ full.Overlaps resized := fun ho =>
  h (Or.inr (Or.inr (Or.inl ho.2)))

end WindowTiling
