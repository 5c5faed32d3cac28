import WindowTiling.Text.CodePoint

/-!
# Glob patterns

Patterns that match a whole text: a star stands for any run of characters, a question mark for
one code point, and a bracketed set for one code point in it (or, after an exclamation mark, not
in it). There are no escapes. A bracket that is never closed stands for itself, a closing
bracket in first place belongs to the set, and a range whose ends are reversed is dropped.

A pattern is read into tokens, and the tokens are matched against all suffixes of the text at
once, from the last token to the first. Main facts: `accepts_star`, `accepts_cons` and
`accepts_nil`, the recursion equations of matching.
-/

namespace WindowTiling

namespace Glob

/-! ## Tokens -/

/-- A member of a bracketed set. -/
inductive Item where
  | char (c : CodePoint)
  | range (lo hi : CodePoint)
  deriving DecidableEq, Repr

def Item.holds (c : CodePoint) : Item → Bool
  | .char d => c = d
  | .range lo hi => lo.number ≤ c.number && c.number ≤ hi.number

/-- A piece of a pattern. -/
inductive Token where
  | star
  | one
  | literal (c : CodePoint)
  | set (negated : Bool) (items : List Item)
  deriving DecidableEq, Repr

/-- A token other than a star stands for one code point. -/
def Token.takes : Token → CodePoint → Bool
  | .star, _ => false
  | .one, _ => true
  | .literal d, c => c = d
  | .set negated items, c => items.any (·.holds c) != negated

/-! ## Sets -/

/-- The content of a bracketed set and the pattern after it, for the pattern after the opening
bracket. An exclamation mark and then a closing bracket in front belong to the content. -/
def bracketed? (cs : Text) : Option (Text × Text) :=
  let bang := if cs.head? = some (.char '!') then 1 else 0
  let front := if (cs.drop bang).head? = some (.char ']') then bang + 1 else bang
  match (cs.drop front).findIdx? (· = .char ']') with
  | none => none
  | some i => some (cs.take (front + i), cs.drop (front + i + 1))

theorem length_bracketed? {cs content rest : Text}
    (h : bracketed? cs = some (content, rest)) : rest.length ≤ cs.length := by
  simp only [bracketed?] at h
  split at h
  · simp at h
  · simp only [Option.some.injEq, Prod.mk.injEq] at h
    rw [← h.2, List.length_drop]
    omega

/-- The index of the first hyphen at or after a position. -/
def hyphenFrom (position : Nat) (cs : Text) : Option Nat :=
  ((cs.drop position).findIdx? (· = .char '-')).map (position + ·)

/-- Cut a set's content at the hyphens that make ranges. The first one is looked for at or after
`position`; after each range end at least one more code point comes before the next hyphen. -/
def chunks (position : Nat) (cs : Text) : List Text :=
  match hyphenFrom position cs with
  | none => [cs]
  | some i =>
    if i < cs.length then cs.take i :: chunks 2 (cs.drop (i + 1)) else [cs]
termination_by cs.length
decreasing_by simp only [List.length_drop]; omega

/-- A hyphen at the very end stands for itself. -/
def closeChunks : List Text → List Text
  | [] => []
  | [c, []] => [c ++ [.char '-']]
  | c :: cs => c :: closeChunks cs

/-- Drop the ranges whose ends are reversed, from the last to the first. -/
def dropReversed : List Text → List Text
  | [] => []
  | c :: cs =>
    match dropReversed cs with
    | [] => [c]
    | d :: ds =>
      match c.getLast?, d.head? with
      | some hi, some lo =>
        if lo.number < hi.number then (c.dropLast ++ d.tail) :: ds else c :: d :: ds
      | _, _ => c :: d :: ds

/-- Chunks as code points with a mark, `none`, where a range joins two of them. -/
def joinChunks : List Text → List (Option CodePoint)
  | [] => []
  | [c] => c.map some
  | c :: cs => c.map some ++ none :: joinChunks cs

/-- The members of a set. -/
def items : List (Option CodePoint) → List Item
  | some lo :: none :: some hi :: rest => .range lo hi :: items rest
  | some c :: rest => .char c :: items rest
  | none :: rest => .char (.char '-') :: items rest
  | [] => []

/-- The set token for the content of a pair of brackets. -/
def setToken (content : Text) : Token :=
  let position := if content.head? = some (.char '!') then 2 else 1
  match joinChunks (dropReversed (closeChunks (chunks position content))) with
  | some (.char '!') :: members => .set true (items members)
  | members => .set false (items members)

/-! ## Reading patterns -/

/-- The tokens of a pattern. -/
def parse (pattern : Text) : List Token :=
  match pattern with
  | [] => []
  | .char '*' :: cs => .star :: parse cs
  | .char '?' :: cs => .one :: parse cs
  | .char '[' :: cs =>
    match _h : bracketed? cs with
    | none => .literal (.char '[') :: parse cs
    | some (content, rest) => setToken content :: parse rest
  | c :: cs => .literal c :: parse cs
termination_by pattern.length
decreasing_by
  all_goals simp only [List.length_cons]
  all_goals first | omega | exact Nat.lt_succ_of_le (length_bracketed? _h)

/-! ## Matching -/

/-- Each entry or-ed with all entries after it. -/
def anyAfter : List Bool → List Bool
  | [] => []
  | b :: bs =>
    let after := anyAfter bs
    (b || after.headD false) :: after

/-- Which suffixes of a text a token sequence matches, the whole text first. -/
def suffixes : List Token → Text → List Bool
  | [], s => s.map (fun _ => false) ++ [true]
  | .star :: p, s => anyAfter (suffixes p s)
  | t :: p, s => s.zipWith (fun c b => t.takes c && b) (suffixes p s).tail ++ [false]

/-- Whether a token sequence matches a text. -/
def accepts (p : List Token) (s : Text) : Bool := (suffixes p s).headD false

theorem tail_anyAfter (bs : List Bool) : (anyAfter bs).tail = anyAfter bs.tail := by
  cases bs <;> rfl

theorem suffixes_ne_nil (p : List Token) (s : Text) : suffixes p s ≠ [] := by
  induction p with
  | nil => simp [suffixes]
  | cons t p ih =>
    cases t with
    | star =>
      simp only [suffixes]
      generalize suffixes p s = r at ih
      cases r with
      | nil => exact absurd rfl ih
      | cons b r => simp [anyAfter]
    | one | literal | set => simp [suffixes]

theorem tail_suffixes (p : List Token) (c : CodePoint) (s : Text) :
    (suffixes p (c :: s)).tail = suffixes p s := by
  induction p generalizing s c with
  | nil => rfl
  | cons t p ih =>
    have step (t : Token) (c : CodePoint) (s : Text) :
        ((c :: s).zipWith (fun c b => t.takes c && b) (suffixes p (c :: s)).tail ++ [false]).tail =
          s.zipWith (fun c b => t.takes c && b) (suffixes p s).tail ++ [false] := by
      have h := ih c s
      have hn := suffixes_ne_nil p s
      rw [h]
      generalize suffixes p s = r at hn
      cases r with
      | nil => exact absurd rfl hn
      | cons b r => rfl
    cases t with
    | star => simp only [suffixes, tail_anyAfter, ih]
    | one => exact step .one c s
    | literal d => exact step (.literal d) c s
    | set n l => exact step (.set n l) c s

/-- Nothing is left of the pattern: only the empty text matches. -/
theorem accepts_nil (s : Text) : accepts [] s = s.isEmpty := by cases s <;> rfl

/-- A star matches nothing, or one code point and then again what a star matches. -/
theorem accepts_star (p : List Token) (s : Text) :
    accepts (.star :: p) s =
      (accepts p s || (match s with | [] => false | _ :: r => accepts (.star :: p) r)) := by
  cases s with
  | nil =>
    have h := suffixes_ne_nil p []
    have ht : (suffixes p []).tail = [] := by
      clear h
      induction p with
      | nil => rfl
      | cons t p ih =>
        cases t with
        | star => simp only [suffixes, tail_anyAfter, ih, anyAfter]
        | one | literal | set => simp [suffixes]
    simp only [accepts, suffixes]
    generalize suffixes p [] = r at h ht
    cases r with
    | nil => exact absurd rfl h
    | cons b r =>
      simp only [List.tail_cons] at ht
      subst ht
      simp [anyAfter]
  | cons c s =>
    have h := suffixes_ne_nil p (c :: s)
    have ht := tail_suffixes p c s
    simp only [accepts, suffixes]
    rw [← ht]
    generalize suffixes p (c :: s) = r at h
    cases r with
    | nil => exact absurd rfl h
    | cons b r => simp [anyAfter]

/-- Any other token takes exactly one code point. -/
theorem accepts_cons {t : Token} (ht : t ≠ .star) (p : List Token) (s : Text) :
    accepts (t :: p) s =
      (match s with | [] => false | c :: r => t.takes c && accepts p r) := by
  cases s with
  | nil => cases t <;> simp_all [accepts, suffixes]
  | cons c s =>
    have h := tail_suffixes p c s
    have hn := suffixes_ne_nil p s
    have e : suffixes (t :: p) (c :: s) =
        (c :: s).zipWith (fun c b => t.takes c && b) (suffixes p (c :: s)).tail ++ [false] := by
      cases t <;> simp_all [suffixes]
    simp only [accepts, e, h]
    generalize suffixes p s = r at hn
    cases r with
    | nil => exact absurd rfl hn
    | cons b r => simp

end Glob

/-- Whether a glob pattern matches the whole of a text. -/
def globMatches (pattern text : Text) : Bool := Glob.accepts (Glob.parse pattern) text

end WindowTiling
