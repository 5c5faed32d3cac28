import WindowTiling.Json.Value
import WindowTiling.Text.Integer

/-!
# Reading JSON

A reader for one JSON text. Beyond the standard grammar it takes the words `NaN`, `Infinity` and
`-Infinity`, and escapes of lone surrogates. Arrays and objects may be nested to a limited depth.
A text that is refused is refused with a cause and the position of the character at which reading
stopped.
-/

namespace WindowTiling

namespace Json

/-! ## Failures -/

/-- A value that has values inside. -/
inductive Container where
  | array
  | object
  deriving DecidableEq, Repr

def Container.name : Container → String
  | .array => "array"
  | .object => "object"

/-- Why a text is not JSON. -/
inductive Fault where
  | byteOrderMark
  | expectingValue
  | expectingName
  | expectingColon
  | expectingComma
  | unterminatedString
  | controlCharacter
  | badEscape
  | badUnicodeEscape
  | extraData
  | tooManyDigits (count : Nat)
  | tooDeep (container : Container)
  deriving DecidableEq, Repr

def Fault.description : Fault → String
  | .byteOrderMark => "Unexpected UTF-8 BOM (decode using utf-8-sig)"
  | .expectingValue => "Expecting value"
  | .expectingName => "Expecting property name enclosed in double quotes"
  | .expectingColon => "Expecting ':' delimiter"
  | .expectingComma => "Expecting ',' delimiter"
  | .unterminatedString => "Unterminated string starting at"
  | .controlCharacter => "Invalid control character at"
  | .badEscape => "Invalid \\escape"
  | .badUnicodeEscape => "Invalid \\uXXXX escape"
  | .extraData => "Extra data"
  | .tooManyDigits count =>
    s!"Exceeds the limit ({IntegerText.maxDigits} digits) for integer string conversion: " ++
      s!"value has {count} digits; use sys.set_int_max_str_digits() to increase the limit"
  | .tooDeep container =>
    s!"maximum recursion depth exceeded while decoding a JSON {container.name} " ++
      "from a unicode string"

/-- A failure, with the line, column and index of the character it is reported at. Lines and
columns count from one, the index from zero. -/
structure ReadError where
  fault : Fault
  line : Nat
  column : Nat
  index : Nat
  deriving DecidableEq, Repr

def ReadError.message (e : ReadError) : String :=
  match e.fault with
  | .tooManyDigits _ | .tooDeep _ => e.fault.description
  | fault => s!"{fault.description}: line {e.line} column {e.column} (char {e.index})"

/-- The failure at an index of a text. -/
def ReadError.at (source : List Char) (fault : Fault) (index : Nat) : ReadError :=
  let before := source.take index
  let lastLine := before.reverse.takeWhile (· ≠ '\n')
  ⟨fault, before.count '\n' + 1, lastLine.length + 1, index⟩

/-! ## Tokens -/

/-- What is left to read, and the index of its first character. -/
structure Cursor where
  index : Nat
  rest : List Char

/-- What a reading step may fail with: a cause, and the index it is reported at. -/
abbrev Reading := Except (Fault × Nat)

def isSpace (c : Char) : Bool := c = ' ' || c = '\t' || c = '\n' || c = '\r'

def isDigit (c : Char) : Bool := '0' ≤ c && c ≤ '9'

namespace Cursor

def skip (c : Cursor) (count : Nat) : Cursor := ⟨c.index + count, c.rest.drop count⟩

def skipSpace (c : Cursor) : Cursor := c.skip (c.rest.takeWhile isSpace).length

end Cursor

/-- The value of a hexadecimal digit. -/
def hexDigit? (c : Char) : Option Nat :=
  if isDigit c then some (c.toNat - '0'.toNat)
  else if 'a' ≤ c ∧ c ≤ 'f' then some (c.toNat - 'a'.toNat + 10)
  else if 'A' ≤ c ∧ c ≤ 'F' then some (c.toNat - 'A'.toNat + 10)
  else none

/-- The number written by four hexadecimal digits that are not the last characters. -/
def hexFour? : List Char → Option Nat
  | a :: b :: c :: d :: _ :: _ => do
    let ds ← [a, b, c, d].mapM hexDigit?
    return ds.foldl (fun n d => 16 * n + d) 0
  | _ => none

def isHighSurrogate (n : Nat) : Bool := 0xD800 ≤ n && n ≤ 0xDBFF

def isLowSurrogate (n : Nat) : Bool := 0xDC00 ≤ n && n ≤ 0xDFFF

/-- The code point of a surrogate pair. -/
def joinSurrogates (high low : Nat) : Nat := 0x10000 + (high - 0xD800) * 0x400 + (low - 0xDC00)

/-- The character a one-letter escape stands for. -/
def shortEscape? : Char → Option Char
  | '"' => some '"'
  | '\\' => some '\\'
  | '/' => some '/'
  | 'b' => some '\x08'
  | 'f' => some '\x0c'
  | 'n' => some '\n'
  | 'r' => some '\r'
  | 't' => some '\t'
  | _ => none

/-- The second half of a surrogate pair, if the text goes on with one: `some none` means that
another escape follows which is no low surrogate, an error that its digits are malformed. -/
def pairedLow? (rest : List Char) : Except Unit (Option Nat) :=
  match rest with
  | '\\' :: 'u' :: digits =>
    if digits.length < 5 then .ok none
    else
      match hexFour? digits with
      | none => .error ()
      | some n => .ok (if isLowSurrogate n then some n else none)
  | _ => .ok none

/-- The rest of a string whose opening quote is at `opening`; `read` holds what was read so far,
reversed. -/
def readString (opening index : Nat) (read : Text) (rest : List Char) : Reading (Text × Cursor) :=
  match rest with
  | [] => .error (.unterminatedString, opening)
  | '"' :: rest => .ok (read.reverse, ⟨index + 1, rest⟩)
  | '\\' :: [] => .error (.unterminatedString, opening)
  | '\\' :: 'u' :: digits =>
    match hexFour? digits with
    | none => .error (.badUnicodeEscape, index + 1)
    | some n =>
      let next := digits.drop 4
      let pair := if isHighSurrogate n then pairedLow? next else .ok none
      match pair with
      | .error _ => .error (.badUnicodeEscape, index + 7)
      | .ok (some low) =>
        readString opening (index + 12) (CodePoint.ofNat (joinSurrogates n low) :: read)
          (next.drop 6)
      | .ok none => readString opening (index + 6) (CodePoint.ofNat n :: read) next
  | '\\' :: c :: rest =>
    match shortEscape? c with
    | none => .error (.badEscape, index)
    | some c => readString opening (index + 2) (.char c :: read) rest
  | c :: rest =>
    if c.toNat < 0x20 then .error (.controlCharacter, index)
    else readString opening (index + 1) (.char c :: read) rest
termination_by rest.length
decreasing_by all_goals simp only [List.length_cons, List.length_drop]; omega

/-- The digits in front of a text, and the text after them. -/
def spanDigits (cs : List Char) : List Char × List Char :=
  (cs.takeWhile isDigit, cs.dropWhile isDigit)

/-- The fraction in front of a text: a point with at least one digit. -/
def spanFraction : List Char → List Char × List Char
  | '.' :: c :: cs => if isDigit c then spanDigits (c :: cs) else ([], '.' :: c :: cs)
  | cs => ([], cs)

/-- The exponent in front of a text: a letter E, a sign or none, and at least one digit. -/
def spanExponent (cs : List Char) : Option Int × List Char :=
  match cs with
  | e :: tail =>
    if e = 'e' ∨ e = 'E' then
      let (negative, digits) : Bool × List Char := match tail with
        | '-' :: ds => (true, ds)
        | '+' :: ds => (false, ds)
        | ds => (false, ds)
      match spanDigits digits with
      | ([], _) => (none, cs)
      | (ds, after) =>
        let n : Int := IntegerText.ofDigits (ds.map fun c => c.toNat - '0'.toNat)
        (some (if negative then -n else n), after)
    else (none, cs)
  | [] => (none, cs)

/-- The number in front of a text. -/
def readNumber (c : Cursor) : Reading (Json × Cursor) :=
  let (negative, body) : Bool × List Char := match c.rest with
    | '-' :: cs => (true, cs)
    | cs => (false, cs)
  let (whole, afterWhole) := match body with
    | '0' :: cs => (['0'], cs)
    | cs => spanDigits cs
  if whole.isEmpty then .error (.expectingValue, c.index)
  else
    let (fraction, afterFraction) := spanFraction afterWhole
    let (exponent, after) := spanExponent afterFraction
    let left := c.skip (c.rest.length - after.length)
    let number (ds : List Char) : Nat :=
      IntegerText.ofDigits (ds.map fun c => c.toNat - '0'.toNat)
    if fraction.isEmpty ∧ exponent.isNone then
      if IntegerText.maxDigits < whole.length then
        .error (.tooManyDigits whole.length, c.index)
      else
        let n : Int := number whole
        .ok (.int (if negative then -n else n), left)
    else
      .ok (.real (Binary64.ofDecimal negative (number (whole ++ fraction))
        (exponent.getD 0 - fraction.length)), left)

/-- The words that stand for a value. -/
def words : List (String × Json) := [
  ("null", .null), ("true", .bool true), ("false", .bool false), ("NaN", .real .undefined),
  ("Infinity", .real (.infinite false)), ("-Infinity", .real (.infinite true))]

/-! ## Values -/

/-- How deep arrays and objects may be nested. -/
def maxDepth : Nat := 988

/-- The levels that are left inside a container, of those that are left where it stands. -/
def enter (container : Container) (c : Cursor) : Nat → Reading Nat
  | 0 => .error (.tooDeep container, c.index)
  | depth + 1 => .ok depth

mutual

/-- The value in front of a text. `depth` is how many levels of nesting are left. -/
def readValue (depth : Nat) : Nat → Cursor → Reading (Json × Cursor)
  | 0, c => .error (.expectingValue, c.index)
  | fuel + 1, c =>
    match c.rest with
    | '"' :: rest => do
      let (t, c) ← readString c.index (c.index + 1) [] rest
      return (.text t, c)
    | '[' :: _ => do
      let depth ← enter .array c depth
      let c := (c.skip 1).skipSpace
      if c.rest.head? = some ']' then .ok (.array [], c.skip 1) else readItems depth fuel [] c
    | '{' :: _ => do
      let depth ← enter .object c depth
      let c := (c.skip 1).skipSpace
      if c.rest.head? = some '}' then .ok (.object [], c.skip 1) else readMembers depth fuel [] c
    | rest =>
      match words.find? fun (word, _) => word.toList.isPrefixOf rest with
      | some (word, value) => .ok (value, c.skip word.length)
      | none => readNumber c

/-- The rest of an array from an item on; `items` holds the items read so far, reversed. -/
def readItems (depth : Nat) : Nat → List Json → Cursor → Reading (Json × Cursor)
  | 0, _, c => .error (.expectingValue, c.index)
  | fuel + 1, items, c => do
    let (item, c) ← readValue depth fuel c
    let c := c.skipSpace
    match c.rest.head? with
    | some ']' => return (.array (item :: items).reverse, c.skip 1)
    | some ',' => readItems depth fuel (item :: items) (c.skip 1).skipSpace
    | _ => .error (.expectingComma, c.index)

/-- The rest of an object from a member on; `members` holds the members read so far. Of two
members with one key the later value takes the place of the earlier one. -/
def readMembers (depth : Nat) : Nat → List (Text × Json) → Cursor → Reading (Json × Cursor)
  | 0, _, c => .error (.expectingValue, c.index)
  | fuel + 1, members, c => do
    let '"' :: rest := c.rest | .error (.expectingName, c.index)
    let (key, c) ← readString c.index (c.index + 1) [] rest
    let c := c.skipSpace
    if c.rest.head? ≠ some ':' then .error (.expectingColon, c.index)
    let (value, c) ← readValue depth fuel (c.skip 1).skipSpace
    let members := Roster.insert members key value
    let c := c.skipSpace
    match c.rest.head? with
    | some '}' => return (.object members, c.skip 1)
    | some ',' => readMembers depth fuel members (c.skip 1).skipSpace
    | _ => .error (.expectingComma, c.index)

end

/-- The JSON value a text holds. -/
def parse (source : List Char) : Except ReadError Json :=
  if source.head? = some '\uFEFF' then .error (.at source .byteOrderMark 0)
  else
    -- Every reading step consumes a character, so the length of the text is fuel enough.
    match readValue maxDepth (2 * source.length + 1) (Cursor.skipSpace ⟨0, source⟩) with
    | .error (fault, index) => .error (.at source fault index)
    | .ok (value, c) =>
      let c := c.skipSpace
      if c.rest.isEmpty then .ok value else .error (.at source .extraData c.index)

end Json

end WindowTiling
