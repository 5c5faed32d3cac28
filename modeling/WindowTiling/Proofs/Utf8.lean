import Mathlib.Tactic.SplitIfs
import WindowTiling.Text.Utf8

/-!
# Reading UTF-8 back

**Theorem (`decode_encode`).** What has been encoded is decoded to what it was.

The first byte of a character says how many follow (`lead?_…`), and these are in the range that the
first one asks for. Where that range is narrower than others, it leaves out just the surrogates, the
numbers beyond the limit, and what has a shorter form.
-/

namespace WindowTiling

namespace Utf8

/-! ## Single bytes -/

theorem lead?_one {n : Nat} (h : n < 0x80) :
    lead? (UInt8.ofNat n) = some (0, 0x80, 0xBF, n) := by
  decide +revert

theorem lead?_two {n : Nat} (hl : 2 ≤ n) (hu : n < 0x20) :
    lead? (UInt8.ofNat (0xC0 + n)) = some (1, 0x80, 0xBF, n) := by
  have h : ∀ n : Fin 0x20, 2 ≤ n.val →
      lead? (UInt8.ofNat (0xC0 + n.val)) = some (1, 0x80, 0xBF, n.val) := by decide
  exact h ⟨n, hu⟩ hl

theorem lead?_three {n : Nat} (h : n < 0x10) : lead? (UInt8.ofNat (0xE0 + n)) =
    some (2, if n = 0 then 0xA0 else 0x80, if n = 0xD then 0x9F else 0xBF, n) := by
  decide +revert

theorem lead?_four {n : Nat} (h : n < 5) : lead? (UInt8.ofNat (0xF0 + n)) =
    some (3, if n = 0 then 0x90 else 0x80, if n = 4 then 0x8F else 0xBF, n) := by
  decide +revert

theorem tails_cons {lo hi : UInt8} {n : Nat} (h : n < 64) (hlo : lo.toNat ≤ 0x80 + n)
    (hhi : 0x80 + n ≤ hi.toNat) (bits good count : Nat) (bs : List UInt8) :
    tails lo hi bits good (count + 1) (UInt8.ofNat (0x80 + n) :: bs) =
      tails 0x80 0xBF (bits * 64 + n) (good + 1) count bs := by
  have hn : (UInt8.ofNat (0x80 + n)).toNat = 0x80 + n := by
    rw [UInt8.toNat_ofNat']
    omega
  rw [tails, if_pos (by rw [UInt8.le_iff_toNat_le, UInt8.le_iff_toNat_le, hn]; exact ⟨hlo, hhi⟩),
    hn, Nat.add_sub_cancel_left]

theorem tails_cons_wide {n : Nat} (h : n < 64) (bits good count : Nat) (bs : List UInt8) :
    tails 0x80 0xBF bits good (count + 1) (UInt8.ofNat (0x80 + n) :: bs) =
      tails 0x80 0xBF (bits * 64 + n) (good + 1) count bs :=
  tails_cons h (Nat.le_add_right _ _)
    (show 0x80 + n ≤ (0xBF : UInt8).toNat from Nat.le_of_lt_succ (Nat.add_lt_add_left h 0x80))
    bits good count bs

/-! ## Characters -/

theorem decodeFrom_of_tails {position : Nat} {b : UInt8} {rest after : List UInt8}
    {count bits n : Nat} {lo hi : UInt8} (hb : lead? b = some (count, lo, hi, bits))
    (hrest : tails lo hi bits 0 count rest = .ok (n, after)) :
    decodeFrom position (b :: rest) =
      (decodeFrom (position + 1 + count) after).map (Char.ofNat n :: ·) := by
  rw [decodeFrom, hb]
  dsimp only
  split
  · next h => rw [h] at hrest; simp at hrest
  · next h =>
    rw [h] at hrest
    simp only [Except.ok.injEq, Prod.mk.injEq] at hrest
    rw [hrest.1, hrest.2]

theorem valid_cases (c : Char) : c.toNat < 0xD800 ∨ 0xDFFF < c.toNat ∧ c.toNat < 0x110000 := by
  have h := c.valid
  simpa [UInt32.isValidChar, Nat.isValidChar] using h

/-- **The bytes of a character are read as this character.** -/
theorem decodeFrom_encodeChar (position : Nat) (c : Char) (rest : List UInt8) :
    ∃ next, decodeFrom position (encodeChar c ++ rest) =
      (decodeFrom next rest).map (c :: ·) := by
  have hvalid := valid_cases c
  have hc : Char.ofNat c.toNat = c := Char.ofNat_toNat c
  simp only [encodeChar]
  generalize c.toNat = n at hvalid hc ⊢
  rw [← hc]
  -- One to four bytes, by the size of the number. The bounds of the first byte that follows are
  -- tight: they keep out what could have been encoded in fewer bytes, and the surrogates.
  split_ifs with h₁ h₂ h₃
  · exact ⟨_, decodeFrom_of_tails (lead?_one h₁) rfl⟩
  · refine ⟨_, decodeFrom_of_tails (lead?_two (by omega) (by omega)) ?_⟩
    show tails 0x80 0xBF (n / 64) 0 1 (UInt8.ofNat (0x80 + n / 1 % 64) :: rest) = _
    rw [tails_cons_wide (by omega), tails]
    congr 2
    omega
  · refine ⟨_, decodeFrom_of_tails (lead?_three (by omega)) ?_⟩
    show tails _ _ (n / 0x1000) 0 2 (UInt8.ofNat (0x80 + n / 64 % 64) ::
      UInt8.ofNat (0x80 + n / 1 % 64) :: rest) = _
    rw [tails_cons (by omega), tails_cons_wide (by omega), tails]
    · congr 2
      omega
    · split_ifs with h
      · show 0xA0 ≤ _
        omega
      · show 0x80 ≤ _
        omega
    · split_ifs with h
      · show _ ≤ 0x9F
        omega
      · show _ ≤ 0xBF
        omega
  · refine ⟨_, decodeFrom_of_tails (lead?_four (by omega)) ?_⟩
    show tails _ _ (n / 0x40000) 0 3 (UInt8.ofNat (0x80 + n / 0x1000 % 64) ::
      UInt8.ofNat (0x80 + n / 64 % 64) :: UInt8.ofNat (0x80 + n / 1 % 64) :: rest) = _
    rw [tails_cons (by omega), tails_cons_wide (by omega), tails_cons_wide (by omega), tails]
    · congr 2
      omega
    · split_ifs with h
      · show 0x90 ≤ _
        omega
      · show 0x80 ≤ _
        omega
    · split_ifs with h
      · show _ ≤ 0x8F
        omega
      · show _ ≤ 0xBF
        omega

theorem decodeFrom_encode (position : Nat) (cs : List Char) :
    decodeFrom position (encode cs) = .ok cs := by
  induction cs generalizing position with
  | nil => rw [encode, List.flatMap_nil, decodeFrom]
  | cons c cs ih =>
    obtain ⟨next, h⟩ := decodeFrom_encodeChar position c (encode cs)
    rw [encode, List.flatMap_cons, ← encode, h, ih]
    rfl

/-- **What has been encoded is decoded to what it was.** -/
theorem decode_encode (cs : List Char) : decode (encode cs) = .ok cs := decodeFrom_encode 0 cs

end Utf8

end WindowTiling
