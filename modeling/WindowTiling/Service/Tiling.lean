import WindowTiling.Service.Basic

/-!
# The tiling

When passes run, which resize target they get, and how commands switch the mode. Whatever may
change the set of tiled windows is followed by a pass. A resize that starts or ends in smart mode
sets the target; closing its window, cancelling the resize and turning grid mode on clear it.
-/

namespace WindowTiling

namespace Action

/-! ## Passes -/

/-- Run a pass over all outputs, if tiling is on. A fault keeps what was placed before it, and
the old target. -/
def recalculate : Action Unit := do
  let s ← get
  if s.mode ≠ .off then
    let pass := s.desktop.arrange s.config.decoration s.gap s.mode s.target
    modify fun s => { s with
      desktop := pass.desktop
      history := s.history ++ pass.moves.map .move }
    match pass.fault with
    | some fault => throw (.fault fault)
    | none =>
      modify fun s => { s with target := pass.target }
      announce (.layoutApplied s.status)

/-! ## Commands -/

/-- The mode has changed: say so, then run a pass. -/
def modeChanged : Action Unit := do
  announce (.modeChanged (← get).status)
  recalculate

/-- Turn tiling on or off. -/
def setEnabled (enabled : Bool) : Action Unit := do
  if enabled ≠ (← get).enabled then
    modify fun s => { s with enabled }
    modeChanged

/-- Turn grid mode on or off. -/
def setGrid (grid : Bool) : Action Unit := do
  if grid ≠ (← get).grid then
    modify fun s => { s with grid, target := if grid then none else s.target }
    modeChanged

/-- Carry out a command. -/
def execute : Command → Action Unit
  | .status => pure ()
  | .recalculate => recalculate
  | .tiling switch => do setEnabled (switch.apply (← get).enabled)
  | .gridMode switch => do setGrid (switch.apply (← get).grid)

/-- Read and carry out a command, and return the status it leads to. -/
def runCommand (text : Text) : Action Status := do
  match Command.parse text with
  | .error e => throw (.command e)
  | .ok command =>
    execute command
    return (← get).status

/-! ## Reactions -/

/-- Set the target, in smart mode only. -/
def aim (w : WindowRef) (geometry : Box) : Action Unit := modify fun s =>
  if s.mode = .smart then { s with target := some ⟨w, geometry⟩ } else s

/-- Clear the target if it is this window. -/
def release (w : WindowRef) : Action Unit := modify fun s =>
  if s.target.map (·.window) = some w then { s with target := none } else s

/-- How the tiling reacts to an event. Commands that cannot be read are passed over. -/
def react : Event → Action Unit
  | .windowCreated _ | .windowMinimized _ | .windowRestored _ | .outputCreated _
  | .outputRemoved _ | .workspaceSwitched .. | .recalculate => recalculate
  | .windowClosed w => do
    release w
    recalculate
  | .resizeStarted w geometry => aim w geometry
  | .resizeEnded w geometry => do
    aim w geometry
    recalculate
  | .resizeCancelled w _ => release w
  | .tilingCommand text =>
    match Command.parse text with
    | .error _ => pure ()
    | .ok command => execute command
  | .modeChanged _ | .layoutApplied _ => pure ()

/-- Make an event known to all. -/
def publish (e : Event) : Action Unit := do
  noteEvent e
  react e
  tellClients e

end Action

end WindowTiling
