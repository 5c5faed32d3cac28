import WindowTiling.Geometry.Side
import WindowTiling.Text.Quoted

/-!
# Windows and outputs

The objects a desktop manages. Windows and outputs are referred to by opaque references: two
objects may carry the same number, and it is the reference that tells them apart.
-/

namespace WindowTiling

/-- Refers to one window, whatever number it carries. -/
structure WindowRef where
  index : Nat
  deriving DecidableEq, Repr, Inhabited

/-- Refers to one output, whatever number it carries. -/
structure OutputRef where
  index : Nat
  deriving DecidableEq, Repr, Inhabited

/-- The axes along which a window is maximized. -/
inductive Maximized where
  | none
  | horizontal
  | vertical
  | both
  deriving DecidableEq, Repr, Inhabited

namespace Maximized

def name : Maximized → String
  | none => "NONE"
  | horizontal => "HORIZONTAL"
  | vertical => "VERTICAL"
  | both => "BOTH"

def ofName? (s : String) : Option Maximized :=
  [none, horizontal, vertical, both].find? (·.name = s)

end Maximized

/-- A managed window. Its box excludes decorations. -/
structure Window where
  id : Int := 0
  appId : Option Text := none
  title : Option Text := none
  box : Box := {}
  /-- The server draws this window's decorations. -/
  decorated : Bool := true
  output : Option OutputRef := none
  workspace : Option Text := none
  minimized : Bool := false
  fullscreen : Bool := false
  alwaysOnTop : Bool := false
  alwaysOnBottom : Bool := false
  maximized : Maximized := .none
  tiledEdges : EdgeCode := {}
  deriving Repr, Inhabited

namespace Window

/-- No flag keeps the window out of the tiling. -/
def IsFree (w : Window) : Prop :=
  (w.minimized = false ∧ w.fullscreen = false) ∧
    w.alwaysOnTop = false ∧ w.alwaysOnBottom = false

instance (w : Window) : Decidable w.IsFree := by
  unfold IsFree
  infer_instance

/-- The window as messages show it. -/
def shown (w : Window) : String :=
  let appId := match w.appId with
    | some t => Quoted.text t
    | none => "None"
  s!"View(id={w.id}, app_id={appId}, box={w.box.text})"

end Window

/-- A display output. -/
structure Output where
  id : Int := 0
  name : Text := []
  /-- The full rectangle in layout coordinates. -/
  area : Box := {}
  /-- What panels and docks leave free, if they reserve anything. -/
  nonExclusive : Option Box := none
  deriving Repr, Inhabited

namespace Output

/-- An output without a name is named for its number. -/
def named (id : Int) (name : Text) (area : Box) (nonExclusive : Option Box) : Output :=
  ⟨id, if name.isEmpty then .ofString s!"output-{id}" else name, area, nonExclusive⟩

/-- The area windows may use: what panels leave free unless that is empty, else the whole. -/
def usable (o : Output) : Box :=
  match o.nonExclusive with
  | some b => if b.IsEmpty then o.area else b
  | none => o.area

/-- Windows can be placed on the output. -/
def isUsable (o : Output) : Bool := !decide o.usable.IsEmpty

/-- The output as messages show it. -/
def shown (o : Output) : String :=
  s!"Output(id={o.id}, name={Quoted.text o.name}, usable={o.usable.text})"

end Output

end WindowTiling
