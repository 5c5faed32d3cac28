import WindowTiling.Text.Blank
import WindowTiling.Text.Lowercase

/-!
# Commands

The commands that switch the tiling. The first word names the command; capitals do not matter.
Only the grid command looks at further words, and takes exactly one.
-/

namespace WindowTiling

/-- What to do to a switch. -/
inductive Switch where
  | on
  | off
  | toggle
  deriving DecidableEq, Repr

namespace Switch

def name : Switch → String
  | on => "on"
  | off => "off"
  | toggle => "toggle"

def all : List Switch := [on, off, toggle]

def ofName? (name : Text) : Option Switch := all.find? fun switch => name.isString switch.name

/-- The position of a switch afterwards. -/
def apply : Switch → Bool → Bool
  | on, _ => true
  | off, _ => false
  | toggle, b => !b

end Switch

/-- A tiling command. -/
inductive Command where
  | status
  | recalculate
  /-- Turn tiling on or off. -/
  | tiling (switch : Switch)
  /-- Turn grid mode on or off. -/
  | gridMode (switch : Switch)
  deriving DecidableEq, Repr

/-- What is wrong with a command. -/
inductive CommandError where
  | empty
  | gridModeArgument
  | unknown (name : Text)
  deriving DecidableEq, Repr

def CommandError.message : CommandError → Text
  | empty => .ofString "Empty tiling command"
  | gridModeArgument => .ofString
    ("grid-mode expects one of: " ++ String.intercalate ", " (Switch.all.map Switch.name))
  | unknown name => Text.ofString "Unknown tiling command: " ++ name

namespace Command

/-- The switch that the words after the grid command name. -/
def gridSwitch : List Text → Except CommandError Switch
  | [word] =>
    match Switch.ofName? (lowercase word) with
    | some switch => .ok switch
    | none => .error .gridModeArgument
  | _ => .error .gridModeArgument

/-- The command made by a list of words. -/
def ofWords : List Text → Except CommandError Command
  | [] => .error .empty
  | word :: rest =>
    match (lowercase word).toString? with
    | some "status" => .ok .status
    | some "recalculate" => .ok .recalculate
    | some "enable" => .ok (.tiling .on)
    | some "disable" => .ok (.tiling .off)
    | some "toggle" => .ok (.tiling .toggle)
    | some "grid-mode" => (gridSwitch rest).map .gridMode
    | _ => .error (.unknown (lowercase word))

/-- Read a command. -/
def parse (t : Text) : Except CommandError Command := ofWords (Blank.words t)

end Command

end WindowTiling
