import WindowTiling.Text.CaseTable
import WindowTiling.Text.CodePoint

/-!
# Lowercase text

The full lowercase mapping. Surrogates have no case. Two characters depend on more than the
simple mapping: a capital I with a dot becomes an i followed by a combining dot, and a capital
sigma takes its final form at the end of a word.
-/

namespace WindowTiling

namespace Lowercase

/-- A sigma is final when, characters without case of their own set aside, a cased character
comes before it and none after it. -/
def isFinalSigma (before after : Text) : Bool :=
  let nearest (t : Text) : Bool :=
    match t.dropWhile fun c => CaseTable.isIgnorable c.number with
    | c :: _ => CaseTable.isCased c.number
    | [] => false
  nearest before && !nearest after

/-- The lowercase form of `c`, between the reversed text before it and the text after it. -/
def lowerAt (before : Text) (c : CodePoint) (after : Text) : Text :=
  match c with
  | .char '\u0130' => [.char 'i', .char '\u0307']
  | .char '\u03A3' => [.char (if isFinalSigma before after then '\u03C2' else '\u03C3')]
  | c => [.ofNat (CaseTable.lower c.number)]

/-- The lowercase form of a text, after the reversed text `before`. -/
def lowerFrom (before : Text) : Text → Text
  | [] => []
  | c :: cs => lowerAt before c cs ++ lowerFrom (c :: before) cs

end Lowercase

/-- The lowercase form of a text. -/
def lowercase (t : Text) : Text := Lowercase.lowerFrom [] t

end WindowTiling
