import WindowTiling.Text.CodePoint

/-!
# Blanks

The code points that separate words: the white space of the Unicode standard together with the
four information separators. Trimming drops them from both ends of a text, and `words` splits a
text into its maximal runs of others.

Main facts: `words_noBlank` and `words_ne_nil` (each word is non-empty and has no blank).
-/

namespace WindowTiling

namespace Blank

/-- Ranges of the blank characters. -/
def ranges : List (Nat × Nat) := [
  (0x9, 0xD), (0x1C, 0x20), (0x85, 0x85), (0xA0, 0xA0), (0x1680, 0x1680), (0x2000, 0x200A),
  (0x2028, 0x2029), (0x202F, 0x202F), (0x205F, 0x205F), (0x3000, 0x3000)]

def isBlank (c : CodePoint) : Bool := ranges.any fun (lo, hi) => lo ≤ c.number && c.number ≤ hi

/-- Drop the blanks in front. -/
def trimLeft (t : Text) : Text := t.dropWhile isBlank

/-- Drop the blanks at both ends. -/
def trim (t : Text) : Text := (trimLeft (trimLeft t).reverse).reverse

/-- The maximal runs of non-blank characters; `run` holds the run being read, reversed. -/
def wordsFrom (run : Text) : Text → List Text
  | [] => if run.isEmpty then [] else [run.reverse]
  | c :: cs =>
    if isBlank c then
      if run.isEmpty then wordsFrom [] cs else run.reverse :: wordsFrom [] cs
    else wordsFrom (c :: run) cs

/-- The words of a text. -/
def words (t : Text) : List Text := wordsFrom [] t

theorem wordsFrom_spec (run cs : Text) (hr : ∀ c ∈ run, isBlank c = false) :
    ∀ w ∈ wordsFrom run cs, w ≠ [] ∧ ∀ c ∈ w, isBlank c = false := by
  induction cs generalizing run with
  | nil =>
    intro w hw
    cases run with
    | nil => simp [wordsFrom] at hw
    | cons x run =>
      simp only [wordsFrom, List.isEmpty_cons, Bool.false_eq_true, if_false,
        List.mem_singleton] at hw
      subst hw
      exact ⟨by simp, fun c hc => hr c (by simpa [or_comm] using hc)⟩
  | cons c cs ih =>
    intro w hw
    simp only [wordsFrom] at hw
    split at hw
    · cases run with
      | nil => exact ih [] (by simp) w hw
      | cons x run =>
        simp only [List.isEmpty_cons, Bool.false_eq_true, if_false, List.mem_cons] at hw
        rcases hw with rfl | hw
        · exact ⟨by simp, fun d hd => hr d (by simpa [or_comm] using hd)⟩
        · exact ih [] (by simp) w hw
    · next h =>
      refine ih (c :: run) (fun d hd => ?_) w hw
      rcases List.mem_cons.1 hd with rfl | hd
      · simpa using h
      · exact hr d hd

theorem words_ne_nil {cs w : Text} (h : w ∈ words cs) : w ≠ [] :=
  (wordsFrom_spec [] cs (by simp) w h).1

theorem words_noBlank {cs w : Text} (h : w ∈ words cs) {c : CodePoint} (hc : c ∈ w) :
    isBlank c = false :=
  (wordsFrom_spec [] cs (by simp) w h).2 c hc

end Blank

end WindowTiling
