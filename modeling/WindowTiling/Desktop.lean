import WindowTiling.Decoration
import WindowTiling.Rule

/-!
# Desktops

A desktop knows the state of every window and output there is, and which of them are registered,
under which number and in which order. Registering an object under a number in use takes the
place of the object registered there. Geometry is written by `moveResize` alone.

Main facts: `window_updateWindow` (a write changes one window) and `mem_eligible_iff` (which
windows are tiled on an output).
-/

namespace WindowTiling

/-- Windows and outputs, the registered ones among them, and the workspace that is visible. -/
structure Desktop where
  /-- The states of all windows, registered or not. -/
  windowStates : Roster WindowRef Window := []
  /-- The states of all outputs, registered or not. -/
  outputStates : Roster OutputRef Output := []
  /-- How many windows have been made. -/
  windowCount : Nat := 0
  /-- How many outputs have been made. -/
  outputCount : Nat := 0
  windows : Roster Int WindowRef := []
  outputs : Roster Int OutputRef := []
  workspace : Text := .ofString "1"
  rules : List Rule := []
  deriving Repr, Inhabited

namespace Desktop

/-! ## Objects -/

/-- The state of a window. -/
def window (d : Desktop) (w : WindowRef) : Window := (d.windowStates.find? w).getD {}

/-- The state of an output. -/
def output (d : Desktop) (o : OutputRef) : Output := (d.outputStates.find? o).getD {}

/-- Change the state of one window. -/
def updateWindow (d : Desktop) (w : WindowRef) (f : Window → Window) : Desktop :=
  { d with windowStates := d.windowStates.insert w (f (d.window w)) }

/-- Change the state of one output. -/
def updateOutput (d : Desktop) (o : OutputRef) (f : Output → Output) : Desktop :=
  { d with outputStates := d.outputStates.insert o (f (d.output o)) }

theorem window_updateWindow (d : Desktop) (w v : WindowRef) (f : Window → Window) :
    (d.updateWindow w f).window v = if v = w then f (d.window v) else d.window v := by
  simp only [window, updateWindow, Roster.find?_insert]
  by_cases h : w = v
  · simp [h]
  · simp [h, Ne.symm h]

@[simp] theorem window_updateWindow_self (d : Desktop) (w : WindowRef) (f : Window → Window) :
    (d.updateWindow w f).window w = f (d.window w) := by simp [window_updateWindow]

@[simp] theorem window_updateWindow_of_ne (d : Desktop) {w v : WindowRef} (h : v ≠ w)
    (f : Window → Window) : (d.updateWindow w f).window v = d.window v := by
  simp [window_updateWindow, h]

/-- Make a window that is not yet registered. -/
def makeWindow (d : Desktop) (w : Window) : Desktop × WindowRef :=
  ({ d.updateWindow ⟨d.windowCount⟩ fun _ => w with windowCount := d.windowCount + 1 },
    ⟨d.windowCount⟩)

/-- Make an output that is not yet registered. -/
def makeOutput (d : Desktop) (o : Output) : Desktop × OutputRef :=
  ({ d.updateOutput ⟨d.outputCount⟩ fun _ => o with outputCount := d.outputCount + 1 },
    ⟨d.outputCount⟩)

/-! ## Registration -/

def registerOutput (d : Desktop) (o : OutputRef) : Desktop :=
  { d with outputs := d.outputs.insert (d.output o).id o }

/-- Some output is registered under the number of this one. -/
def hasOutput (d : Desktop) (o : OutputRef) : Bool := d.outputs.has (d.output o).id

/-- The registered windows on an output lose it. -/
def detach (d : Desktop) (o : OutputRef) : Desktop :=
  d.windows.values.foldl (fun d w => d.updateWindow w fun v =>
    if v.output = some o then { v with output := none } else v) d

/-- Strike what is registered under the output's number; the registered windows on the output
itself lose it. -/
def unregisterOutput (d : Desktop) (o : OutputRef) : Desktop :=
  { d.detach o with outputs := d.outputs.erase (d.output o).id }

/-- The first registered output of a name. -/
def outputNamed? (d : Desktop) (name : Text) : Option OutputRef :=
  d.outputs.values.find? fun o => (d.output o).name = name

/-- The output a newly registered window goes to: the given one, or the one it has, or the first
registered one. -/
def placeFor (d : Desktop) (w : WindowRef) (output : Option OutputRef) : Option OutputRef :=
  output.or ((d.window w).output.or d.outputs.values.head?)

/-- Register a window, on the given output and workspace if there are any. -/
def registerWindow (d : Desktop) (w : WindowRef) (output : Option OutputRef)
    (workspace : Option Text) : Desktop :=
  let d' := d.updateWindow w fun v => { v with
    output := d.placeFor w output
    workspace := workspace.or (v.workspace.or (some d.workspace)) }
  { d' with windows := d.windows.insert (d.window w).id w }

/-- Some window is registered under the number of this one. -/
def hasWindow (d : Desktop) (w : WindowRef) : Bool := d.windows.has (d.window w).id

/-- Strike what is registered under the window's number. -/
def unregisterWindow (d : Desktop) (w : WindowRef) : Desktop :=
  { d with windows := d.windows.erase (d.window w).id }

/-! ## What is tiled -/

/-- The registered windows on an output and a workspace. -/
def windowsOn (d : Desktop) (o : OutputRef) (workspace : Text) : List WindowRef :=
  d.windows.values.filter fun w =>
    (d.window w).output = some o ∧ (d.window w).workspace = some workspace

/-- A property that the rules give to a window. -/
def property (d : Desktop) (w : WindowRef) (key : PropertyKey) : Tristate :=
  WindowTiling.property d.rules (d.window w) key

/-- No flag and no rule keeps the window out of the tiling. -/
def Tileable (d : Desktop) (w : WindowRef) : Prop :=
  (d.window w).IsFree ∧ d.property w .fixedPosition ≠ .yes ∧ d.property w .tile ≠ .no

instance (d : Desktop) (w : WindowRef) : Decidable (d.Tileable w) := by
  unfold Tileable
  infer_instance

/-- The windows tiled on an output, in the order of registration. -/
def eligible (d : Desktop) (o : OutputRef) : List WindowRef :=
  (d.windowsOn o d.workspace).filter fun w => d.Tileable w

theorem mem_eligible_iff {d : Desktop} {o : OutputRef} {w : WindowRef} :
    w ∈ d.eligible o ↔ w ∈ d.windows.values ∧
      ((d.window w).output = some o ∧ (d.window w).workspace = some d.workspace) ∧
        d.Tileable w := by
  simp only [eligible, windowsOn, List.mem_filter, decide_eq_true_eq, and_assoc]

/-- The fault that is come upon when a property of a window is looked up. -/
def propertyFault? (d : Desktop) (w : WindowRef) (key : PropertyKey) : Option PatternFault :=
  WindowTiling.propertyFault? d.rules (d.window w) key

/-- The fault that is come upon when it is found out whether a window is tiled. Rules are looked at
only as far as they can make a difference. -/
def tileableFault? (d : Desktop) (w : WindowRef) : Option PatternFault :=
  if ¬ (d.window w).IsFree then none
  else (d.propertyFault? w .fixedPosition).or
    (if d.property w .fixedPosition = .yes then none else d.propertyFault? w .tile)

/-- The fault that is come upon when it is found out which windows are tiled on an output. -/
def eligibleFault? (d : Desktop) (o : OutputRef) : Option PatternFault :=
  (d.windowsOn o d.workspace).findSome? d.tileableFault?

/-- Find out which windows are tiled on an output. -/
def tryEligible (d : Desktop) (o : OutputRef) : Except PatternFault (List WindowRef) :=
  match d.eligibleFault? o with
  | some fault => .error fault
  | none => .ok (d.eligible o)

/-- The content box of a window with its decorations. -/
def fullBox (d : Desktop) (decoration : Decoration) (w : WindowRef) : Box :=
  (d.window w).box.expand (decoration.margins (d.window w))

/-! ## Geometry -/

/-- Give a window a new content box; none if the box has a negative size. -/
def moveResize (d : Desktop) (w : WindowRef) (box : Box) : Option Desktop :=
  if box.Nonneg then some (d.updateWindow w fun v => { v with box }) else none

/-- A window that is given a box is neither maximized nor snapped to an edge. -/
def loosen (d : Desktop) (w : WindowRef) : Desktop :=
  d.updateWindow w fun v => { v with maximized := .none, tiledEdges := {} }

end Desktop

end WindowTiling
