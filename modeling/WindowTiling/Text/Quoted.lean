import WindowTiling.Text.Printable

/-!
# Quoted text

Text and bytes as they are shown in messages: in single quotes, or in double quotes when the
content has a single quote and no double one. Backslashes and the quote itself are escaped, as
are line breaks, tabs and everything that is not printable.
-/

namespace WindowTiling

namespace Quoted

/-- The lowest `width` hexadecimal digits of a number. -/
def hex (width n : Nat) : String :=
  String.ofList ((List.range width).reverse.map fun i => Nat.digitChar (n / Nat.pow 16 i % 16))

/-- The quote to use for content with these code points. -/
def quoteFor (codes : List Nat) : Char :=
  if codes.contains '\''.toNat && !codes.contains '"'.toNat then '"' else '\''

/-- The escapes that quoted text and quoted bytes share, for a code below 128. -/
def escapeAscii (quote : Char) (n : Nat) : String :=
  if n = quote.toNat || n = '\\'.toNat then String.ofList ['\\', Char.ofNat n]
  else if n = 9 then "\\t"
  else if n = 10 then "\\n"
  else if n = 13 then "\\r"
  else if n < 0x20 || n = 0x7F then "\\x" ++ hex 2 n
  else String.singleton (Char.ofNat n)

/-- One code point of quoted text. -/
def escape (quote : Char) (c : CodePoint) : String :=
  let n := c.number
  if n < 0x80 then escapeAscii quote n
  else if c.isPrintable then String.singleton (Char.ofNat n)
  else if n ≤ 0xFF then "\\x" ++ hex 2 n
  else if n ≤ 0xFFFF then "\\u" ++ hex 4 n
  else "\\U" ++ hex 8 n

/-- Quoted text. -/
def text (t : Text) : String :=
  let quote := quoteFor (t.map (·.number))
  String.singleton quote ++ String.join (t.map (escape quote)) ++ String.singleton quote

/-- A quoted string. -/
def string (s : String) : String := text (Text.ofString s)

/-- Quoted bytes, marked by a leading `b`. -/
def bytes (bs : List UInt8) : String :=
  let quote := quoteFor (bs.map (·.toNat))
  let escapeByte (b : UInt8) : String :=
    if b < 0x80 then escapeAscii quote b.toNat else "\\x" ++ hex 2 b.toNat
  "b" ++ String.singleton quote ++ String.join (bs.map escapeByte) ++ String.singleton quote

end Quoted

end WindowTiling
