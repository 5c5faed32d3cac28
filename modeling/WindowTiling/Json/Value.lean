import WindowTiling.Number.Shortest
import WindowTiling.Text.CodePoint
import WindowTiling.Roster

/-!
# JSON values

Integers are kept apart from fractional numbers and are unbounded. An object is a roster of its
members: their order is kept and no key occurs twice.
-/

namespace WindowTiling

/-- A JSON value. -/
inductive Json where
  | null
  | bool (b : Bool)
  | int (n : Int)
  | real (x : Binary64)
  | text (t : Text)
  | array (items : List Json)
  | object (members : List (Text × Json))
  deriving Repr, Inhabited

namespace Json

/-- A string value. -/
def string (s : String) : Json := text (Text.ofString s)

/-- An object with the given members. -/
def record (members : List (String × Json)) : Json :=
  object (members.map fun (k, v) => (Text.ofString k, v))

/-- The member of an object under a key. -/
def get? (key : String) : Json → Option Json
  | object members => Roster.find? members (Text.ofString key)
  | _ => none

/-- The string of a value that is text without surrogates. -/
def string? : Json → Option String
  | text t => t.toString?
  | _ => none

def array? : Json → Option (List Json)
  | array items => some items
  | _ => none

/-- The text of a value that is one. -/
def text? : Json → Option Text
  | text t => some t
  | _ => none

/-- The members of an object. -/
def members : Json → List (Text × Json)
  | object ms => ms
  | _ => []

/-- What a value yields item by item: the items of a list, the characters of a text, the keys of an
object. Other values have no items. -/
def items? : Json → Option (List Json)
  | array items => some items
  | text t => some (t.map fun c => text [c])
  | object members => some (members.map fun (key, _) => text key)
  | _ => none

/-- Everything holds but null, false, zero and what is empty. -/
def holds : Json → Bool
  | null => false
  | bool b => b
  | int n => n ≠ 0
  | real (.finite _ m _) => m ≠ 0
  | real _ => true
  | text t => !t.isEmpty
  | array items => !items.isEmpty
  | object members => !members.isEmpty

end Json

end WindowTiling
