import WindowTiling.Json.Value
import WindowTiling.Text.Quoted

/-!
# Writing JSON

Two layouts: on one line with a blank after each comma and colon, and indented by two columns
with the members sorted by key. Both are plain ASCII: other characters are written as escapes
of their UTF-16 units. A third form is the one in which values are shown in messages.
-/

namespace WindowTiling

namespace Json

/-! ## Scalars -/

/-- The four-digit escape of a UTF-16 unit. -/
def unitEscape (n : Nat) : String := "\\u" ++ Quoted.hex 4 n

/-- A code point inside a JSON string. -/
def escape (c : CodePoint) : String :=
  let n := c.number
  if n = '"'.toNat then "\\\""
  else if n = '\\'.toNat then "\\\\"
  else if n = 10 then "\\n"
  else if n = 13 then "\\r"
  else if n = 9 then "\\t"
  else if n = 8 then "\\b"
  else if n = 12 then "\\f"
  else if 0x20 ≤ n ∧ n < 0x7F then String.singleton (Char.ofNat n)
  else if n < 0x10000 then unitEscape n
  else unitEscape (0xD800 + (n - 0x10000) / 0x400) ++ unitEscape (0xDC00 + (n - 0x10000) % 0x400)

def renderText (t : Text) : String := "\"" ++ String.join (t.map escape) ++ "\""

def renderReal (x : Binary64) : String := x.text "Infinity" "NaN"

/-! ## On one line -/

mutual

/-- The value on one line. -/
def render : Json → String
  | null => "null"
  | bool b => if b then "true" else "false"
  | int n => toString n
  | real x => renderReal x
  | text t => renderText t
  | array items => "[" ++ String.intercalate ", " (renderItems items) ++ "]"
  | object members => "\x7b" ++ String.intercalate ", " (renderMembers members) ++ "\x7d"

def renderItems : List Json → List String
  | [] => []
  | v :: vs => render v :: renderItems vs

def renderMembers : List (Text × Json) → List String
  | [] => []
  | (k, v) :: ms => (renderText k ++ ": " ++ render v) :: renderMembers ms

end

/-! ## Indented -/

/-- Items between brackets, each on a line of its own. -/
def indented (opening closing : String) (depth : Nat) (items : List String) : String :=
  if items.isEmpty then opening ++ closing
  else
    let line (d : Nat) : String := "\n" ++ String.ofList (List.replicate (2 * d) ' ')
    opening ++ line (depth + 1) ++ String.intercalate ("," ++ line (depth + 1)) items ++
      line depth ++ closing

mutual

/-- The value indented below a depth, members sorted by key. -/
def renderIndented (depth : Nat) : Json → String
  | array items => indented "[" "]" depth (renderIndentedItems (depth + 1) items)
  | object members =>
    let lines := renderIndentedMembers (depth + 1) members
    indented "\x7b" "\x7d" depth ((lines.mergeSort fun a b => Text.le a.1 b.1).map (·.2))
  | value => render value

def renderIndentedItems (depth : Nat) : List Json → List String
  | [] => []
  | v :: vs => renderIndented depth v :: renderIndentedItems depth vs

def renderIndentedMembers (depth : Nat) : List (Text × Json) → List (Text × String)
  | [] => []
  | (k, v) :: ms =>
    (k, renderText k ++ ": " ++ renderIndented depth v) :: renderIndentedMembers depth ms

end

/-! ## In messages -/

mutual

/-- The value as messages show it. -/
def shown : Json → String
  | null => "None"
  | bool b => if b then "True" else "False"
  | int n => toString n
  | real x => x.text "inf" "nan"
  | text t => Quoted.text t
  | array items => "[" ++ String.intercalate ", " (shownItems items) ++ "]"
  | object members => "\x7b" ++ String.intercalate ", " (shownMembers members) ++ "\x7d"

def shownItems : List Json → List String
  | [] => []
  | v :: vs => shown v :: shownItems vs

def shownMembers : List (Text × Json) → List String
  | [] => []
  | (k, v) :: ms => (Quoted.text k ++ ": " ++ shown v) :: shownMembers ms

end

/-- The word messages use for the kind of a value. -/
def kindName : Json → String
  | null => "NoneType"
  | bool _ => "bool"
  | int _ => "int"
  | real _ => "float"
  | text _ => "str"
  | array _ => "list"
  | object _ => "dict"

end Json

end WindowTiling
