import WindowTiling.Desktop

/-!
# Events

What the parts of the service tell each other: what has happened to windows, outputs, workspaces
and resizes, which commands were given, and what the tiling did.
-/

namespace WindowTiling

/-- The tiling as clients see it. -/
inductive Status where
  | stacking
  | grid
  | smart
  deriving DecidableEq, Repr, Inhabited

def Status.name : Status → String
  | stacking => "stacking"
  | grid => "grid"
  | smart => "smart"

/-- Something that is made known to all parts of the service. -/
inductive Event where
  | windowCreated (window : WindowRef)
  | windowClosed (window : WindowRef)
  | windowMinimized (window : WindowRef)
  | windowRestored (window : WindowRef)
  | outputCreated (output : OutputRef)
  | outputRemoved (output : OutputRef)
  | workspaceSwitched (current old : Text)
  | resizeStarted (window : WindowRef) (geometry : Box)
  | resizeEnded (window : WindowRef) (geometry : Box)
  | resizeCancelled (window : WindowRef) (geometry : Box)
  | tilingCommand (command : Text)
  | recalculate
  | modeChanged (status : Status)
  | layoutApplied (status : Status)
  deriving DecidableEq, Repr

/-- A value that an event carries. -/
inductive Argument where
  | window (window : WindowRef)
  | output (output : OutputRef)
  | box (box : Box)
  | text (text : Text)
  deriving DecidableEq, Repr

namespace Event

def topic : Event → String
  | windowCreated _ => "view.created"
  | windowClosed _ => "view.closed"
  | windowMinimized _ => "view.minimized"
  | windowRestored _ => "view.restored"
  | outputCreated _ => "output.created"
  | outputRemoved _ => "output.removed"
  | workspaceSwitched .. => "workspace.switched"
  | resizeStarted .. => "operation.started"
  | resizeEnded .. => "operation.ended"
  | resizeCancelled .. => "operation.cancelled"
  | tilingCommand _ => "cmd.tiling"
  | recalculate => "cmd.recalculate"
  | modeChanged _ => "tiling.mode_changed"
  | layoutApplied _ => "layout.applied"

/-- What an event carries, by name and in order. -/
def arguments : Event → List (String × Argument)
  | windowCreated w | windowClosed w | windowMinimized w | windowRestored w => [("view", .window w)]
  | outputCreated o | outputRemoved o => [("output", .output o)]
  | workspaceSwitched current old =>
    [("current_workspace", .text current), ("old_workspace", .text old)]
  | resizeStarted w b | resizeEnded w b | resizeCancelled w b =>
    [("view", .window w), ("geometry", .box b)]
  | tilingCommand command => [("command", .text command)]
  | recalculate => []
  | modeChanged s | layoutApplied s => [("mode", .text (.ofString s.name))]

end Event

/-- A value as the log shows it. -/
def Argument.shown (d : Desktop) : Argument → Text
  | window w => .ofString (d.window w).shown
  | output o => .ofString (d.output o).shown
  | box b => .ofString b.text
  | text t => t

/-- The line logged for an event, with windows and outputs as they are on the desktop. -/
def Event.line (d : Desktop) (e : Event) : Text :=
  let shown := e.arguments.map fun (name, value) => Text.ofString (name ++ "=") ++ value.shown d
  Text.ofString s!"EVENT: {e.topic} | " ++ Text.intercalate ", " shown

end WindowTiling
