import WindowTiling.Resize.FreeSide

/-!
# The resized window's own box

After the other windows have been placed, the resized box is shrunk off the windows left in
place, or, if it overlaps none of them, grown by one edge into free room.

Main facts: `nonneg_resolveResized` and `resolveResized_within` (the result lies in the usable
area).
-/

namespace WindowTiling

/-- Shrink a box along the axis of least overlap until it clears another box. -/
def shrinkOff (box other : Box) (gap : Int) : Box :=
  let overlapWidth := min box.right other.right - max box.x other.x
  let overlapHeight := min box.bottom other.bottom - max box.y other.y
  if overlapWidth ≤ overlapHeight then
    if box.x < other.x then
      .ofEdges box.x box.y (max box.x (other.x - gap)) box.bottom
    else .ofEdges (min box.right (other.right + gap)) box.y box.right box.bottom
  else
    if box.y < other.y then
      .ofEdges box.x box.y box.right (max box.y (other.y - gap))
    else .ofEdges box.x (min box.bottom (other.bottom + gap)) box.right box.bottom

/-- Shrink a box off all boxes of a list that it overlaps, one after the other. The flag tells
whether there was any. -/
def shrinkOffAll (box : Box) (others : List Box) (gap : Int) : Box × Bool :=
  others.foldl (fun (b, overlapped) other =>
    if b.Overlaps other then (shrinkOff b other gap, true) else (b, overlapped)) (box, false)

/-- The order in which sides are considered for growing. -/
def growOrder : List Side := [.left, .right, .top, .bottom]

/-- The open side with the most room beyond the gap; of equally roomy ones the first. -/
def roomiestSide (box usable : Box) (blocked : Sides) (gap : Int) : Option Side :=
  growOrder.foldl (fun best side =>
    if blocked.has side ∨ freeSpace box usable side ≤ gap then best
    else
      match best with
      | none => some side
      | some b => if freeSpace box usable b < freeSpace box usable side then some side else best)
    none

/-- Move the edge on one side of a box to the gap inside the usable edge. -/
def growTo (box usable : Box) (gap : Int) : Side → Box
  | .left => .ofEdges (usable.x + gap) box.y box.right box.bottom
  | .right => .ofEdges box.x box.y (usable.right - gap) box.bottom
  | .top => .ofEdges box.x (usable.y + gap) box.right box.bottom
  | .bottom => .ofEdges box.x box.y box.right (usable.bottom - gap)

/-- Grow a box toward the roomiest open side, if there is one. -/
def growResized (box usable : Box) (blocked : Sides) (gap : Int) : Box :=
  match roomiestSide box usable blocked gap with
  | none => box
  | some side => growTo box usable gap side

/-- Deconflict the resized box with the boxes left in place (`others`) and those just placed
(`neighbours`). Growth that would overlap any of them is given up. The result is a box inside the
usable area. -/
def resolveResized (resizedFull usable : Box) (others neighbours : List Box) (gap : Int) : Box :=
  let box := resizedFull.clamp usable
  let (shrunk, overlapped) := shrinkOffAll box others gap
  let settled :=
    if overlapped then shrunk
    else
      let grown := growResized box usable (blockedSides neighbours box gap) gap
      if (others ++ neighbours).any fun other => grown.Overlaps other then box else grown
  settled.clamp usable

theorem nonneg_resolveResized (resizedFull usable : Box) (others neighbours : List Box)
    (gap : Int) : (resolveResized resizedFull usable others neighbours gap).Nonneg :=
  Box.nonneg_clamp _ _

theorem resolveResized_within (resizedFull : Box) {usable : Box} (h : usable.Nonneg)
    (others neighbours : List Box) (gap : Int) :
    (resolveResized resizedFull usable others neighbours gap).Within usable :=
  Box.clamp_within _ h

end WindowTiling
