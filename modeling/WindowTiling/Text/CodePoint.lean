/-!
# Code points and text

Text from outside may hold surrogates, which are no characters: they come out of escape sequences,
and they stand for bytes that nothing could be made of. All text that the program takes in, passes
on or gives out is therefore a list of code points, each a character or a surrogate. Text without
surrogates converts to and from `String`.

Main fact: `toString?_eq_some_iff` (a text is read as the string it was made from, and as no other).
-/

namespace WindowTiling

/-- A code point: a character, or one of the 2048 surrogates by its place among them. -/
inductive CodePoint where
  | char (c : Char)
  | surrogate (place : Fin 0x800)
  deriving DecidableEq, Repr, Inhabited

namespace CodePoint

/-- The number of the first surrogate. -/
def firstSurrogate : Nat := 0xD800

/-- The surrogate at a place, counted round. -/
def surrogateAt (place : Nat) : CodePoint := surrogate ⟨place % 0x800, Nat.mod_lt _ (by decide)⟩

def number : CodePoint → Nat
  | char c => c.toNat
  | surrogate place => firstSurrogate + place

/-- The code point of a number. -/
def ofNat (n : Nat) : CodePoint :=
  if h : n.isValidChar then char (Char.ofNatAux n h)
  else surrogateAt (n - firstSurrogate)

/-- The character at a code point; none for a surrogate. -/
def toChar? : CodePoint → Option Char
  | char c => some c
  | surrogate _ => none

def isSurrogate (c : CodePoint) : Bool := c.toChar?.isNone

end CodePoint

/-- Text as a list of code points. -/
abbrev Text := List CodePoint

namespace Text

def ofChars (cs : List Char) : Text := cs.map .char

def ofString (s : String) : Text := ofChars s.toList

/-- The characters of a text; none if it holds a surrogate. -/
def toChars? : Text → Option (List Char)
  | [] => some []
  | c :: t => c.toChar?.bind fun x => (toChars? t).map (x :: ·)

/-- The string of a text; none if it holds a surrogate. -/
def toString? (t : Text) : Option String := t.toChars?.map String.ofList

theorem toChars?_ofChars (cs : List Char) : toChars? (ofChars cs) = some cs := by
  induction cs with
  | nil => rfl
  | cons c cs ih =>
    show (some c).bind (fun x => (toChars? (ofChars cs)).map (x :: ·)) = _
    rw [ih]
    rfl

/-- A string survives the round trip through its code points. -/
theorem toString?_ofString (s : String) : toString? (ofString s) = some s := by
  simp [toString?, ofString, toChars?_ofChars]

theorem toChars?_eq_some_iff (t : Text) (cs : List Char) :
    t.toChars? = some cs ↔ t = ofChars cs := by
  refine ⟨fun h => ?_, fun h => h ▸ toChars?_ofChars cs⟩
  induction t generalizing cs with
  | nil =>
    obtain rfl : [] = cs := by simpa [toChars?] using h
    rfl
  | cons c t ih =>
    cases c with
    | surrogate place => simp [toChars?, CodePoint.toChar?] at h
    | char x =>
      obtain ⟨xs, hxs, rfl⟩ : ∃ xs, toChars? t = some xs ∧ x :: xs = cs := by
        simpa [toChars?, CodePoint.toChar?] using h
      rw [ih xs hxs]
      rfl

theorem toString?_eq_some_iff (t : Text) (s : String) : t.toString? = some s ↔ t = ofString s := by
  rw [toString?, Option.map_eq_some_iff, ofString, ← toChars?_eq_some_iff]
  constructor
  · rintro ⟨cs, hcs, rfl⟩
    rw [hcs, String.toList_ofList]
  · exact fun h => ⟨s.toList, h, String.ofList_toList⟩

theorem ofString_inj {s t : String} : ofString s = ofString t ↔ s = t := by
  rw [← toString?_eq_some_iff, toString?_ofString, Option.some_inj]

/-- The text is this string. -/
def isString (t : Text) (s : String) : Bool := t = ofString s

/-- The text starts with this string. -/
def startsWith (t : Text) (s : String) : Bool := (ofString s).isPrefixOf t

/-- Texts in a row, with a separator between them. -/
def intercalate (separator : String) (ts : List Text) : Text :=
  (ts.intersperse (ofString separator)).flatten

/-- Lexicographic order by number. -/
def le : Text → Text → Bool
  | [], _ => true
  | _ :: _, [] => false
  | a :: s, b :: t => a.number < b.number || (a.number == b.number && le s t)

end Text

end WindowTiling
