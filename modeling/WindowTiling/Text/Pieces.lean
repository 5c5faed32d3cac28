/-!
# Pieces

A list cut at a separator. There is always one piece more than there are separators.

Main fact: `flatten_intersperse_pieces` (the pieces with the separator between them are the list).
-/

namespace WindowTiling

/-- The pieces of a list between separators. -/
def pieces {α : Type} [DecidableEq α] (separator : α) : List α → List (List α)
  | [] => [[]]
  | a :: as =>
    match pieces separator as with
    | [] => [[a]]
    | piece :: rest => if a = separator then [] :: piece :: rest else (a :: piece) :: rest

variable {α : Type} [DecidableEq α]

theorem pieces_ne_nil (separator : α) (as : List α) : pieces separator as ≠ [] := by
  cases as with
  | nil => simp [pieces]
  | cons a as =>
    simp only [pieces]
    split
    · simp
    · split <;> simp

/-- Nothing is lost: the pieces with the separator between them are the list. -/
theorem flatten_intersperse_pieces (separator : α) (as : List α) :
    ((pieces separator as).intersperse [separator]).flatten = as := by
  induction as with
  | nil => rfl
  | cons a as ih =>
    have h := pieces_ne_nil separator as
    simp only [pieces]
    generalize pieces separator as = l at h ih
    obtain _ | ⟨piece, rest⟩ := l
    · exact absurd rfl h
    · by_cases ha : a = separator
      · simp [ha, ih]
      · cases rest with
        | nil => simpa [ha, List.intersperse] using ih
        | cons next rest => simpa [ha, List.intersperse] using ih

end WindowTiling
