import WindowTiling.Service.Tiling

/-!
# Registration and visibility

Windows and outputs come and go, windows are hidden and shown, workspaces are switched. Each of
these is made known as an event; what changes nothing is not.
-/

namespace WindowTiling

namespace Action

/-- Change the desktop. -/
def changeDesktop (f : Desktop → Desktop) : Action Unit :=
  modify fun s => { s with desktop := f s.desktop }

/-! ## Outputs -/

def addOutput (o : OutputRef) : Action Unit := do
  changeDesktop fun d => d.registerOutput o
  publish (.outputCreated o)

/-- Nothing happens unless an output is registered under this one's number. -/
def removeOutput (o : OutputRef) : Action Unit := do
  if (← get).desktop.hasOutput o then
    changeDesktop fun d => d.unregisterOutput o
    publish (.outputRemoved o)

/-! ## Windows -/

def addWindow (w : WindowRef) (output : Option OutputRef) (workspace : Option Text) :
    Action Unit := do
  changeDesktop fun d => d.registerWindow w output workspace
  publish (.windowCreated w)

/-- Nothing happens unless a window is registered under this one's number. -/
def removeWindow (w : WindowRef) : Action Unit := do
  if (← get).desktop.hasWindow w then
    changeDesktop fun d => d.unregisterWindow w
    publish (.windowClosed w)

def minimize (w : WindowRef) : Action Unit := do
  if !((← get).desktop.window w).minimized then
    changeDesktop fun d => d.updateWindow w fun v => { v with minimized := true }
    publish (.windowMinimized w)

def restore (w : WindowRef) : Action Unit := do
  if ((← get).desktop.window w).minimized then
    changeDesktop fun d => d.updateWindow w fun v => { v with minimized := false }
    publish (.windowRestored w)

/-! ## Workspaces -/

/-- Make another workspace visible. -/
def switchWorkspace (workspace : Text) : Action Unit := do
  let old := (← get).desktop.workspace
  if workspace ≠ old then
    changeDesktop fun d => { d with workspace }
    publish (.workspaceSwitched workspace old)

end Action

end WindowTiling
