import WindowTiling.Text.Blank

/-!
# Integers in text

An integer is written as an optional sign and decimal digits of any script, with single
underscores allowed between digits and blanks around the whole. The information separators do
not count as blanks here.
-/

namespace WindowTiling

namespace IntegerText

/-- The zero of every script's decimal digits; the other nine follow it (Unicode 14). -/
def zeros : List Nat := [
  0x30, 0x660, 0x6F0, 0x7C0, 0x966, 0x9E6, 0xA66, 0xAE6, 0xB66, 0xBE6, 0xC66, 0xCE6, 0xD66,
  0xDE6, 0xE50, 0xED0, 0xF20, 0x1040, 0x1090, 0x17E0, 0x1810, 0x1946, 0x19D0, 0x1A80, 0x1A90,
  0x1B50, 0x1BB0, 0x1C40, 0x1C50, 0xA620, 0xA8D0, 0xA900, 0xA9D0, 0xA9F0, 0xAA50, 0xABF0,
  0xFF10, 0x104A0, 0x10D30, 0x11066, 0x110F0, 0x11136, 0x111D0, 0x112F0, 0x11450, 0x114D0,
  0x11650, 0x116C0, 0x11730, 0x118E0, 0x11950, 0x11C50, 0x11D50, 0x11DA0, 0x16A60, 0x16AC0,
  0x16B50, 0x1D7CE, 0x1D7D8, 0x1D7E2, 0x1D7EC, 0x1D7F6, 0x1E140, 0x1E2F0, 0x1E950, 0x1FBF0]

/-- The value of a decimal digit of any script. -/
def digit? (c : CodePoint) : Option Nat :=
  (zeros.find? fun z => z ≤ c.number && c.number < z + 10).map fun z => c.number - z

/-- A blank that may stand around an integer. -/
def isMargin (c : CodePoint) : Bool := Blank.isBlank c && !(0x1C ≤ c.number && c.number ≤ 0x1F)

/-- The most digits an integer may be written with. -/
def maxDigits : Nat := 4300

/-- The digits of a numeral whose single underscores stand between digits. -/
def digits? : Text → Option (List Nat)
  | [] => none
  | [c] => (digit? c).map ([·])
  | c :: .char '_' :: cs => (digit? c).bind fun d => (digits? cs).map (d :: ·)
  | c :: cs => (digit? c).bind fun d => (digits? cs).map (d :: ·)

/-- The number with the given decimal digits, the first one leading. -/
def ofDigits (ds : List Nat) : Nat := ds.foldl (fun n d => 10 * n + d) 0

/-- The natural number a numeral stands for; none if it is malformed or too long. -/
def natural? (t : Text) : Option Nat :=
  (digits? t).bind fun ds => if maxDigits < ds.length then none else some (ofDigits ds)

/-- The integer a text stands for. -/
def parse? (t : Text) : Option Int :=
  let body := ((t.dropWhile isMargin).reverse.dropWhile isMargin).reverse
  match body with
  | .char '-' :: cs => (natural? cs).map fun n => -(n : Int)
  | .char '+' :: cs => (natural? cs).map fun n => (n : Int)
  | cs => (natural? cs).map fun n => (n : Int)

end IntegerText

end WindowTiling
