import WindowTiling.Service.Tiling

/-!
# Interactive resize

A drag moves one edge along each axis by as much as the pointer has moved since the start. The
other edge stays. There is one drag at a time.

Main facts: `right_dragBox_left` and `bottom_dragBox_top` (dragging a near edge leaves the far one
in place) and `le_width_dragBox`, `le_height_dragBox` (a dragged size has a lower bound).
-/

namespace WindowTiling

/-- The smallest size to which an axis can be dragged. -/
def minimumSize : Int := 100

/-- The box that a pointer offset makes of the box at the start. Where both edges of an axis are
named, the far one is dragged. -/
def dragBox (start : Box) (edges : Sides) (dx dy : Int) : Box :=
  let width :=
    if edges.right then max minimumSize (start.width + dx)
    else if edges.left then max minimumSize (start.width - dx) else start.width
  let height :=
    if edges.bottom then max minimumSize (start.height + dy)
    else if edges.top then max minimumSize (start.height - dy) else start.height
  { x := if edges.left && !edges.right then start.right - width else start.x
    y := if edges.top && !edges.bottom then start.bottom - height else start.y
    width, height }

theorem right_dragBox_left {edges : Sides} (start : Box) (dx dy : Int) (hl : edges.left = true)
    (hr : edges.right = false) : (dragBox start edges dx dy).right = start.right := by
  simp only [dragBox, Box.right, hl, hr]
  simp

theorem bottom_dragBox_top {edges : Sides} (start : Box) (dx dy : Int) (ht : edges.top = true)
    (hb : edges.bottom = false) : (dragBox start edges dx dy).bottom = start.bottom := by
  simp only [dragBox, Box.bottom, ht, hb]
  simp

theorem le_width_dragBox {edges : Sides} (start : Box) (dx dy : Int)
    (h : edges.left = true ∨ edges.right = true) :
    minimumSize ≤ (dragBox start edges dx dy).width := by
  simp only [dragBox]
  split
  · exact Int.le_max_left _ _
  · split
    · exact Int.le_max_left _ _
    · rcases h with h | h <;> contradiction

theorem le_height_dragBox {edges : Sides} (start : Box) (dx dy : Int)
    (h : edges.top = true ∨ edges.bottom = true) :
    minimumSize ≤ (dragBox start edges dx dy).height := by
  simp only [dragBox]
  split
  · exact Int.le_max_left _ _
  · split
    · exact Int.le_max_left _ _
    · rcases h with h | h <;> contradiction

namespace Action

/-- Start a drag. The answer is false if one is under way already. -/
def startResize (w : WindowRef) (edges : EdgeCode) : Action Bool := do
  let s ← get
  if s.drag.isSome then return false
  let box := (s.desktop.window w).box
  modify fun s => { s with drag := some ⟨w, box, edges⟩ }
  publish (.resizeStarted w box)
  return true

/-- Move the pointer. The answer is the new box; none without a drag, or if it was started without
edges. -/
def dragTo (dx dy : Int) : Action (Option Box) := do
  match (← get).drag with
  | none => return none
  | some drag =>
    if drag.edges.IsEmpty then return none
    let box := dragBox drag.start drag.edges.sides dx dy
    moveResize drag.window box
    return some box

/-- End the drag and keep the box. -/
def endResize : Action Unit := do
  match (← get).drag with
  | none => return
  | some drag =>
    modify fun s => { s with drag := none }
    publish (.resizeEnded drag.window ((← get).desktop.window drag.window).box)

/-- End the drag and go back to the box at the start. -/
def cancelResize : Action Unit := do
  match (← get).drag with
  | none => return
  | some drag =>
    modify fun s => { s with drag := none }
    moveResize drag.window drag.start
    publish (.resizeCancelled drag.window drag.start)

end Action

end WindowTiling
