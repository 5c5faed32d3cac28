import WindowTiling.Grid.Cells
import WindowTiling.Proofs.Boxes

/-!
# Where cells lie

A grid *fits* a number of windows when its rows are full but for the last one, which has as many
windows as `lastRowCount` says. All grids that the layout uses fit. In such a grid every window has
a column and a row of its own, and where the area has room for the gaps its cell keeps the gap to
the edges of the area.

Main facts: `fits_forCount`, `fits_ofTemplate_two`, `Fits.position` and `cell_inside`.
-/

namespace WindowTiling

namespace Grid

/-! ## Grids that fit -/

/-- The rows are full but for the last one. -/
structure Fits (g : Grid) (n : Nat) : Prop where
  cols_pos : 0 < g.cols
  rows_pos : 0 < g.rows
  count_eq : g.count = n
  count_rows : g.count = (g.rows - 1) * g.cols + g.lastRowCount

theorem lastRowCount_pos {g : Grid} (h : 0 < g.cols) : 0 < g.lastRowCount := by
  have hnonneg := Int.emod_nonneg g.count (Int.ne_of_gt h)
  simp only [lastRowCount, Int.fmod_eq_emod_of_nonneg _ (Int.le_of_lt h)]
  split <;> omega

theorem lastRowCount_le {g : Grid} (h : 0 < g.cols) : g.lastRowCount ≤ g.cols := by
  have hlt := Int.emod_lt_of_pos g.count h
  simp only [lastRowCount, Int.fmod_eq_emod_of_nonneg _ (Int.le_of_lt h)]
  split <;> omega

theorem Fits.divisible {g : Grid} {n : Nat} (h : g.Fits n) : g.Divisible :=
  ⟨Int.ne_of_gt h.cols_pos, Int.ne_of_gt h.rows_pos⟩

theorem fits_columns {n : Nat} (h : 0 < n) : (ofTemplate n .columns).Fits n where
  cols_pos := cols_ofTemplate_pos _ _
  rows_pos := rows_ofTemplate_pos (by omega) _
  count_eq := rfl
  count_rows := by
    show (n : Int) = (((n : Int) + 2).fdiv 3 - 1) * 3 +
      (if (n : Int).fmod 3 = 0 then 3 else (n : Int).fmod 3)
    rw [Int.fdiv_eq_ediv_of_nonneg _ (by decide), Int.fmod_eq_emod_of_nonneg _ (by decide)]
    split <;> omega

theorem fits_ofTemplate_two {t : Template} (h : t = .sideBySide ∨ t = .stacked) :
    (ofTemplate 2 t).Fits 2 := by
  rcases h with rfl | rfl <;> exact ⟨by decide, by decide, rfl, by decide⟩

/-- **The grid for a number of windows fits it.** -/
theorem fits_forCount {n : Nat} {p : Preference} {aspect : Option Aspect} {g : Grid}
    (h : forCount n p aspect = some g) : g.Fits n := by
  simp only [forCount] at h
  split at h
  · simp at h
  · next hn =>
    obtain rfl := Option.some.inj h
    have hpos : 0 < n := by omega
    unfold templateFor
    split
    · next h =>
      obtain rfl : n = 1 := by omega
      exact ⟨by decide, by decide, rfl, by decide⟩
    · split
      · next h =>
        obtain rfl : n = 2 := by omega
        exact fits_ofTemplate_two (.inl rfl)
      · split
        · next h =>
          obtain rfl : n = 3 := by omega
          split <;> exact ⟨by decide, by decide, rfl, by decide⟩
        · split
          · next h =>
            obtain rfl : n = 4 := by omega
            exact ⟨by decide, by decide, rfl, by decide⟩
          · split
            · next h =>
              obtain rfl : n = 5 := by omega
              split <;> exact ⟨by decide, by decide, rfl, by decide⟩
            · split
              · next h =>
                obtain rfl : n = 6 := by omega
                exact ⟨by decide, by decide, rfl, by decide⟩
              · exact fits_columns hpos

/-! ## Columns and rows -/

theorem Fits.position {g : Grid} {n : Nat} (h : g.Fits n) {i : Nat} (hi : i < n) :
    (0 ≤ (i : Int).fmod g.cols ∧ (i : Int).fmod g.cols < g.cols) ∧
      (0 ≤ (i : Int).fdiv g.cols ∧ (i : Int).fdiv g.cols ≤ g.rows - 1) ∧
      ((i : Int).fdiv g.cols = g.rows - 1 → (i : Int).fmod g.cols < g.lastRowCount) := by
  have hc := h.cols_pos
  have hlast := lastRowCount_le hc
  rw [Int.fmod_eq_emod_of_nonneg _ (Int.le_of_lt hc),
    Int.fdiv_eq_ediv_of_nonneg _ (Int.le_of_lt hc)]
  have hmod := Int.emod_nonneg i (Int.ne_of_gt hc)
  have hmod' := Int.emod_lt_of_pos i hc
  have hsplit : g.cols * (i / g.cols) + i % g.cols = i := Int.mul_ediv_add_emod ..
  have hcount : (i : Int) < (g.rows - 1) * g.cols + g.lastRowCount := by
    have := h.count_eq
    have := h.count_rows
    omega
  have hrow : (i : Int) / g.cols < g.rows := by
    refine Int.ediv_lt_of_lt_mul hc ?_
    rw [Int.sub_mul, Int.one_mul] at hcount
    omega
  refine ⟨⟨hmod, hmod'⟩, ⟨Int.ediv_nonneg (by omega) (Int.le_of_lt hc), by omega⟩, fun heq => ?_⟩
  rw [heq, Int.mul_comm] at hsplit
  omega

/-! ## Cells with room -/

/-- Of `n` slots of width `w` that lie a gap apart, with a gap before and after, each lies between
the gaps, also when the last one takes what is left over. -/
theorem slot_inside {start total k n w gap : Int} (hk₀ : 0 ≤ k) (hk : k + 1 ≤ n) (hw : 0 ≤ w)
    (hg : 0 ≤ gap) (h : n * w ≤ total - (n + 1) * gap) :
    let x := start + (k + 1) * gap + k * w
    let size := if k = n - 1 then max w (start + total - gap - x) else w
    start + gap ≤ x ∧ x + size ≤ start + total - gap ∧ 0 ≤ size := by
  intro x size
  have hkw : 0 ≤ k * w := Int.mul_nonneg hk₀ hw
  have hkg : 0 ≤ k * gap := Int.mul_nonneg hk₀ hg
  have hend := Int.mul_le_mul_of_nonneg_right hk hw
  have hgaps := Int.mul_le_mul_of_nonneg_right hk hg
  have hx : x = start + (k + 1) * gap + k * w := rfl
  have hsize : size = w ∨ size = start + total - gap - x ∧ w ≤ size := by
    simp only [size]
    split <;> omega
  rw [Int.add_mul, Int.one_mul] at *
  omega

theorem mul_fdiv_le {n inner : Int} (hn : 0 < n) : n * inner.fdiv n ≤ inner := by
  rw [Int.fdiv_eq_ediv_of_nonneg _ (Int.le_of_lt hn)]
  exact Int.mul_ediv_self_le (Int.ne_of_gt hn)

theorem fdiv_nonneg {n inner : Int} (hn : 0 < n) (h : 0 ≤ inner) : 0 ≤ inner.fdiv n := by
  rw [Int.fdiv_eq_ediv_of_nonneg _ (Int.le_of_lt hn)]
  exact Int.ediv_nonneg h (Int.le_of_lt hn)

/-- There is something left of the area after the gaps, along both axes. -/
def Roomy (g : Grid) (area : Box) (gap : Int) : Prop :=
  0 < area.width - (g.cols + 1) * gap ∧ 0 < area.height - (g.rows + 1) * gap

instance (g : Grid) (area : Box) (gap : Int) : Decidable (g.Roomy area gap) :=
  inferInstanceAs (Decidable (_ ∧ _))

theorem cellSize_of_roomy {g : Grid} {area : Box} {gap : Int} (h : g.Roomy area gap) :
    g.cellSize area gap = ((area.width - (g.cols + 1) * gap).fdiv g.cols,
      (area.height - (g.rows + 1) * gap).fdiv g.rows) := if_pos h

/-- **Cells with room** keep the gap to the edges of the area. -/
theorem cell_inside {g : Grid} {n : Nat} (hf : g.Fits n) {area : Box} {gap : Int} (hg : 0 ≤ gap)
    (hr : g.Roomy area gap) {i : Nat} (hi : i < n) :
    let c := g.cell area gap (g.cellSize area gap) i
    (area.x + gap ≤ c.x ∧ c.right ≤ area.right - gap) ∧
      (area.y + gap ≤ c.y ∧ c.bottom ≤ area.bottom - gap) ∧ c.Nonneg := by
  obtain ⟨⟨hcol₀, hcol⟩, ⟨hrow₀, hrow⟩, hlast⟩ := hf.position hi
  obtain ⟨hwide, htall⟩ := hr
  have hc := hf.cols_pos
  have hm := lastRowCount_pos hc
  rw [cellSize_of_roomy ⟨hwide, htall⟩]
  have hy := @slot_inside area.y area.height ((i : Int).fdiv g.cols) g.rows _ gap hrow₀ (by omega)
    (fdiv_nonneg hf.rows_pos (Int.le_of_lt htall)) hg (mul_fdiv_le hf.rows_pos)
  -- The slots of a row: those of an incomplete last row are wider.
  have hx : ∀ n w, (i : Int).fmod g.cols + 1 ≤ n → 0 ≤ w → n * w ≤ area.width - (n + 1) * gap →
      _ := fun n w h h' h'' =>
    @slot_inside area.x area.width ((i : Int).fmod g.cols) n w gap hcol₀ h h' hg h''
  simp only [cell, Box.right, Box.bottom, Box.Nonneg] at *
  by_cases hs : (i : Int).fdiv g.cols = g.rows - 1 ∧ g.lastRowCount < g.cols
  · simp only [if_pos hs]
    have hroom : 0 < area.width - (g.lastRowCount + 1) * gap := by
      have := Int.mul_le_mul_of_nonneg_right (Int.le_of_lt hs.2) hg
      simp only [Int.add_mul] at *
      omega
    have := hx g.lastRowCount _ (hlast hs.1) (Int.le_max_left 0 _) (by
      rw [Int.max_eq_right (fdiv_nonneg hm (Int.le_of_lt hroom))]
      exact mul_fdiv_le hm)
    exact ⟨⟨this.1, this.2.1⟩, ⟨hy.1, hy.2.1⟩, this.2.2, hy.2.2⟩
  · simp only [if_neg hs]
    have := hx g.cols _ (by omega) (fdiv_nonneg hc (Int.le_of_lt hwide)) (mul_fdiv_le hc)
    exact ⟨⟨this.1, this.2.1⟩, ⟨hy.1, hy.2.1⟩, this.2.2, hy.2.2⟩

end Grid

end WindowTiling
