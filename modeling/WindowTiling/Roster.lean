/-!
# Rosters

A roster is a dictionary that remembers the order in which its keys were first entered. Entering
a key that is in use keeps its place and replaces its entry, so the order of the keys never
changes except by erasing one.

Main facts: `find?_insert` (what a look-up sees after an entry) and `keys_insert_of_mem`,
`keys_insert_of_not_mem` (the order of the keys).
-/

namespace WindowTiling

/-- Entries in the order in which their keys were first entered. -/
abbrev Roster (κ α : Type) := List (κ × α)

namespace Roster

variable {κ α : Type} [DecidableEq κ]

def keys (r : Roster κ α) : List κ := r.map (·.1)

def values (r : Roster κ α) : List α := r.map (·.2)

/-- The entry under a key. -/
def find? : Roster κ α → κ → Option α
  | [], _ => none
  | (k, a) :: r, key => if k = key then some a else find? r key

/-- Enter `a` under `key`. -/
def insert : Roster κ α → κ → α → Roster κ α
  | [], key, a => [(key, a)]
  | (k, b) :: r, key, a => if k = key then (k, a) :: r else (k, b) :: insert r key a

/-- Strike the entry under a key. -/
def erase : Roster κ α → κ → Roster κ α
  | [], _ => []
  | (k, b) :: r, key => if k = key then r else (k, b) :: erase r key

def has (r : Roster κ α) (key : κ) : Bool := (r.find? key).isSome

/-! ## Look-up -/

theorem find?_insert (r : Roster κ α) (key : κ) (a : α) (k : κ) :
    (r.insert key a).find? k = if key = k then some a else r.find? k := by
  induction r with
  | nil => simp [insert, find?]
  | cons e r ih =>
    obtain ⟨k', b⟩ := e
    by_cases h : k' = key
    · subst h
      by_cases hk : k' = k <;> simp [insert, find?, hk]
    · by_cases hk : k' = k
      · subst hk
        simp [insert, find?, h, Ne.symm h]
      · simp [insert, find?, h, hk, ih]

/-- Leaving out entries by their keys. -/
theorem find?_filter (r : Roster κ α) (p : κ → Bool) (key : κ) :
    find? (r.filter fun e => p e.1) key = if p key then r.find? key else none := by
  induction r with
  | nil => simp [find?]
  | cons e r ih =>
    obtain ⟨k, a⟩ := e
    by_cases hk : k = key
    · subst hk
      by_cases hp : p k <;> simp [find?, hp, ih]
    · by_cases hp : p k <;> simp [find?, hp, hk, ih]

theorem mem_of_find? {r : Roster κ α} {key : κ} {a : α} (h : r.find? key = some a) :
    (key, a) ∈ r := by
  induction r with
  | nil => simp [find?] at h
  | cons e r ih =>
    obtain ⟨k, b⟩ := e
    simp only [find?] at h
    split at h
    · next hk =>
      simp only [Option.some.injEq] at h
      subst hk h
      exact List.mem_cons_self ..
    · exact List.mem_cons_of_mem _ (ih h)

/-! ## The order of the keys -/

theorem keys_insert_of_mem {r : Roster κ α} {key : κ} (h : key ∈ r.keys) (a : α) :
    (r.insert key a).keys = r.keys := by
  induction r with
  | nil => simp [keys] at h
  | cons e r ih =>
    obtain ⟨k, b⟩ := e
    by_cases hk : k = key
    · simp [insert, keys, hk]
    · have h' : key ∈ keys r := by
        simp only [keys, List.map_cons, List.mem_cons] at h ⊢
        rcases h with h | h
        · exact absurd h.symm hk
        · exact h
      have := ih h'
      simp only [keys] at this
      simp [insert, keys, hk, this]

theorem keys_insert_of_not_mem {r : Roster κ α} {key : κ} (h : key ∉ r.keys) (a : α) :
    (r.insert key a).keys = r.keys ++ [key] := by
  induction r with
  | nil => simp [insert, keys]
  | cons e r ih =>
    obtain ⟨k, b⟩ := e
    simp only [keys, List.map_cons, List.mem_cons, not_or] at h
    have := ih h.2
    simp only [keys] at this
    simp [insert, keys, Ne.symm h.1, this]

theorem erase_sublist (r : Roster κ α) (key : κ) : (r.erase key).Sublist r := by
  induction r with
  | nil => exact List.Sublist.refl _
  | cons e r ih =>
    obtain ⟨k, b⟩ := e
    simp only [erase]
    split
    · exact List.sublist_cons_self ..
    · exact ih.cons_cons _

/-- Distinct keys stay distinct. -/
theorem nodup_keys_insert {r : Roster κ α} (h : r.keys.Nodup) (key : κ) (a : α) :
    (r.insert key a).keys.Nodup := by
  by_cases hk : key ∈ r.keys
  · rwa [keys_insert_of_mem hk]
  · rw [keys_insert_of_not_mem hk, List.nodup_append]
    exact ⟨h, by simp, fun a ha b hb => by simp at hb; subst hb; exact fun e => hk (e ▸ ha)⟩

theorem nodup_keys_erase {r : Roster κ α} (h : r.keys.Nodup) (key : κ) :
    (r.erase key).keys.Nodup := h.sublist ((erase_sublist r key).map _)

end Roster

end WindowTiling
