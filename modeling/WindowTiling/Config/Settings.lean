import WindowTiling.Decoration
import WindowTiling.Rule
import WindowTiling.SocketPath
import WindowTiling.Text.Integer

/-!
# Settings

The settings of the tiler as they are given, and the configuration they make once every value
has been checked. Values are checked in a fixed order: the mode, the titlebar position, the gap,
the border width, the titlebar height.

Main facts: `Size.read_ok_iff` (which values are sizes) and `nonneg_decoration` (a configuration
never asks for negative decorations).
-/

namespace WindowTiling

/-! ## Modes -/

/-- What automatic tiling does: nothing, keep resized windows, or plain grids. -/
inductive TilingMode where
  | off
  | smart
  | grid
  deriving DecidableEq, Repr, Inhabited

namespace TilingMode

def name : TilingMode → String
  | off => "off"
  | smart => "smart"
  | grid => "grid"

def ofName? (s : String) : Option TilingMode := [off, smart, grid].find? (·.name = s)

end TilingMode

/-! ## Errors -/

/-- What is wrong with the settings. -/
inductive ConfigError where
  | rule (cause : RuleError)
  | invalidMode (value : Json)
  | invalidPosition (value : Json)
  | invalidSize (name : String) (value : Json)
  | notAnInteger (source : String) (value : Text)
  | notText (value : Json)
  | notIterable (value : Json)
  | notPath (value : Json)
  | refusedName (error : NameError)
  deriving Repr

def ConfigError.message : ConfigError → Text
  | .rule cause => cause.message
  | .invalidMode value =>
    .ofString s!"Invalid tiling mode: {value.shown}. Use off, smart or grid"
  | .invalidPosition value =>
    .ofString s!"Invalid titlebar position: {value.shown}. Use top or bottom"
  | .invalidSize name value =>
    .ofString s!"{name} must be a non-negative integer, got {value.shown}"
  | .notAnInteger source value =>
    .ofString s!"{source} must be an integer, got {Quoted.text value}"
  | .notText value => .ofString s!"'{value.kindName}' object has no attribute 'strip'"
  | .notIterable value => .ofString s!"'{value.kindName}' object is not iterable"
  | .notPath value =>
    .ofString s!"expected str, bytes or os.PathLike object, not {value.kindName}"
  | .refusedName error => error.message

/-! ## Values -/

/-- The word in a text value, capitals and surrounding blanks aside; none for text that holds
surrogates. -/
def settingWord (value : Json) : Except ConfigError (Option String) :=
  match value with
  | .text t => .ok (lowercase (Blank.trim t)).toString?
  | _ => .error (.notText value)

/-- Read a mode; `stacking` is another word for off. -/
def TilingMode.read (value : Json) : Except ConfigError TilingMode := do
  let word ← settingWord value
  if word = some "stacking" then return off
  match word.bind ofName? with
  | some mode => return mode
  | none => throw (.invalidMode value)

/-- Read a titlebar position. -/
def TitlebarPosition.read (value : Json) : Except ConfigError TitlebarPosition := do
  match ← settingWord value with
  | some "top" => return top
  | some "bottom" => return bottom
  | _ => throw (.invalidPosition value)

/-- A size: a natural number, or a truth value that counts as one or zero and is reported as it
was given. -/
inductive Size where
  | number (n : Nat)
  | flag (b : Bool)
  deriving DecidableEq, Repr, Inhabited

namespace Size

def value : Size → Nat
  | number n => n
  | flag b => b.toNat

def toJson : Size → Json
  | number n => .int n
  | flag b => .bool b

/-- Read the size called `name`. -/
def read (name : String) (value : Json) : Except ConfigError Size :=
  match value with
  | .int (.ofNat n) => .ok (number n)
  | .bool b => .ok (flag b)
  | _ => .error (.invalidSize name value)

/-- Exactly the natural numbers and truth values are sizes. -/
theorem read_ok_iff {name : String} {v : Json} {s : Size} : read name v = .ok s ↔ v = s.toJson := by
  constructor
  · intro h
    unfold read at h
    split at h <;> simp_all <;> subst h <;> rfl
  · rintro rfl
    cases s <;> rfl

end Size

/-! ## Settings and configurations -/

/-- The settings as they are given. -/
structure Settings where
  mode : Json := .string "smart"
  gap : Json := .int 4
  borderWidth : Json := .int 2
  useDecorations : Json := .bool true
  titlebarHeight : Json := .int 24
  titlebarPosition : Json := .string "top"
  rules : List Rule := []
  /-- Null where none is given. -/
  socketPath : Json := .null
  deriving Repr, Inhabited

/-- A setting and the value it is given. -/
inductive Assignment where
  | rules (rules : List Rule)
  | value (name : Text) (value : Json)

namespace Assignment

/-- Read assignments from named values. The rules are read before anything else is looked at. -/
def readAll (members : List (Text × Json)) : Except ConfigError (List Assignment) :=
  members.mapM fun (name, v) => do
    if name.isString "rules" then
      let some items := v.items? | throw (.notIterable v)
      return .rules (← (items.mapM Rule.read).mapError .rule)
    else return .value name v

/-- The name that is given a value. -/
def name : Assignment → Text
  | rules _ => .ofString "rules"
  | value name _ => name

end Assignment

namespace Settings

/-- Give a setting a value; the last value given counts. -/
def assign (s : Settings) : Assignment → Except ConfigError Settings
  | .rules rules => .ok { s with rules }
  | .value name v =>
    match name.toString? with
    | some "mode" => .ok { s with mode := v }
    | some "gap" => .ok { s with gap := v }
    | some "border_width" => .ok { s with borderWidth := v }
    | some "use_ssd" => .ok { s with useDecorations := v }
    | some "titlebar_height" => .ok { s with titlebarHeight := v }
    | some "titlebar_position" => .ok { s with titlebarPosition := v }
    | some "socket_path" => .ok { s with socketPath := v }
    | _ => .error (.refusedName (.notAmong "TilingConfig.__init__" name))

def assignAll (s : Settings) (l : List Assignment) : Except ConfigError Settings :=
  l.foldlM assign s

end Settings

/-- Checked settings. -/
structure Config where
  mode : TilingMode := .smart
  gap : Size := .number 4
  borderWidth : Size := .number 2
  /-- Kept as it was given; whatever is neither false, zero nor empty turns decorations on. -/
  useDecorations : Json := .bool true
  titlebarHeight : Size := .number 24
  titlebarPosition : TitlebarPosition := .top
  rules : List Rule := []
  /-- Kept as it was given; usually a text. -/
  socketPath : Json := .string ""
  deriving Repr, Inhabited

namespace Settings

/-- Check the settings. The default socket path stands in for one that is null. -/
def check (s : Settings) (defaultSocketPath : Text) : Except ConfigError Config := do
  let mode ← TilingMode.read s.mode
  let titlebarPosition ← TitlebarPosition.read s.titlebarPosition
  let gap ← Size.read "gap" s.gap
  let borderWidth ← Size.read "border_width" s.borderWidth
  let titlebarHeight ← Size.read "titlebar_height" s.titlebarHeight
  return {
    mode, gap, borderWidth, titlebarHeight, titlebarPosition
    useDecorations := s.useDecorations
    rules := s.rules
    socketPath := match s.socketPath with
      | .null => .text defaultSocketPath
      | path => path }

end Settings

namespace Config

/-- The path at which the server of a configuration listens. Only a text can be one. -/
def address (c : Config) : Except ConfigError Text :=
  match c.socketPath with
  | .text path => .ok (SocketPath.plain path)
  | value => .error (.notPath value)

/-- The decorations a configuration asks for. -/
def decoration (c : Config) : Decoration :=
  ⟨c.useDecorations.holds, c.borderWidth.value, c.titlebarHeight.value, c.titlebarPosition⟩

theorem nonneg_decoration (c : Config) : c.decoration.Nonneg :=
  ⟨Int.natCast_nonneg _, Int.natCast_nonneg _⟩

end Config

end WindowTiling
