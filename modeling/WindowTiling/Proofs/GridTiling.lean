import WindowTiling.Geometry.Side
import WindowTiling.Proofs.GridCells

/-!
# Cells tile their area

The cells of a grid that fits keep the gap to each other in every area, also in one that has no room
for the gaps: cells of different rows are apart vertically, cells of one row horizontally. Together
they reach as far as they may, since the first cell starts at the gap and the last one takes what
division leaves over, so on each side of the area some cell leaves no more than the gap. Where there
is room for the gaps no cell leaves less.

All of it comes down to slots along one axis (`slot_inside` and `slot_spaced`), and to the one shape
that is no plain grid, a window on the left and two stacked on the right.

Main facts: `cells_spaced`, `exists_cell_near` and `cells_inside`.
-/

namespace WindowTiling

namespace Box

/-- Along some axis there is at least the gap between the boxes. -/
def SpacedBy (gap : Int) (a b : Box) : Prop :=
  (a.right + gap ≤ b.x ∨ b.right + gap ≤ a.x) ∨ a.bottom + gap ≤ b.y ∨ b.bottom + gap ≤ a.y

instance (gap : Int) (a b : Box) : Decidable (a.SpacedBy gap b) :=
  inferInstanceAs (Decidable ((_ ∨ _) ∨ _ ∨ _))

/-- The box lies at least the gap inside the area on every side. -/
def InsideBy (gap : Int) (b area : Box) : Prop := ∀ side, gap ≤ freeSpace b area side

theorem insideBy_iff {gap : Int} {b area : Box} : b.InsideBy gap area ↔
    (area.x + gap ≤ b.x ∧ b.right ≤ area.right - gap) ∧
      area.y + gap ≤ b.y ∧ b.bottom ≤ area.bottom - gap := by
  constructor
  · intro h
    have hl := h .left
    have hr := h .right
    have ht := h .top
    have hb := h .bottom
    simp only [freeSpace] at hl hr ht hb
    omega
  · intro h side
    cases side <;> simp only [freeSpace] <;> omega

end Box

namespace Grid

/-! ## Which cells there are -/

theorem of_cells_eq_some {g : Grid} {area : Box} {gap : Int} {allowSplit : Bool} {n : Nat}
    {cells : List Box} (hn : 0 < n) (h : g.cells area gap allowSplit n = some cells) :
    (g.splitsLeft = true ∧ cells = splitCells area gap) ∨
      cells = (List.range n).map fun (i : Nat) => g.cell area gap (g.cellSize area gap) i := by
  simp only [Grid.cells] at h
  rw [if_neg (Nat.ne_of_gt hn)] at h
  split at h
  · next hs =>
    simp only [Bool.and_eq_true] at hs
    exact .inl ⟨hs.1.2, (Option.some.inj h).symm⟩
  · split at h
    · exact .inr (Option.some.inj h).symm
    · simp at h

theorem shape_of_splitsLeft {n : Int} {p : Preference} {aspect : Option Aspect} {g : Grid}
    (h : forCount n p aspect = some g) (hs : g.splitsLeft = true) : g.cols = 2 ∧ g.rows = 2 := by
  simp only [forCount] at h
  split at h
  · simp at h
  · obtain rfl := Option.some.inj h
    have ht : templateFor n p aspect = .quadLeftSpan := of_decide_eq_true hs
    simp only [ofTemplate, ht, Template.shape, and_self]

/-! ## Cells beside each other -/

theorem slot_spaced {start k k' w gap : Int} (hk : k < k') (hw : 0 ≤ w) (hg : 0 ≤ gap) :
    start + (k + 1) * gap + k * w + w + gap ≤ start + (k' + 1) * gap + k' * w := by
  have hw' := Int.mul_le_mul_of_nonneg_right (Int.add_one_le_of_lt hk) hw
  have hg' := Int.mul_le_mul_of_nonneg_right (Int.add_one_le_of_lt hk) hg
  simp only [Int.add_mul, Int.one_mul] at *
  omega

/-- **Two cells keep the gap**, in every area. -/
theorem cell_spaced {g : Grid} {n : Nat} (hf : g.Fits n) {gap : Int} (hg : 0 ≤ gap) (area : Box)
    {i j : Nat} (hij : i < j) (hj : j < n) :
    (g.cell area gap (g.cellSize area gap) i).SpacedBy gap
      (g.cell area gap (g.cellSize area gap) j) := by
  have hc := hf.cols_pos
  obtain ⟨hwidth, hheight⟩ := cellSize_nonneg hc hf.rows_pos area gap
  obtain ⟨⟨-, hcol⟩, ⟨-, hrow⟩, hlast⟩ := hf.position hj
  have hsplit : ∀ k : Nat, (k : Int) = (k : Int).fdiv g.cols * g.cols + (k : Int).fmod g.cols :=
    fun k => (Int.fdiv_mul_add_fmod _ _).symm
  have hrows : (i : Int).fdiv g.cols ≤ (j : Int).fdiv g.cols := by
    rw [Int.fdiv_eq_ediv_of_nonneg _ (Int.le_of_lt hc),
      Int.fdiv_eq_ediv_of_nonneg _ (Int.le_of_lt hc)]
    exact Int.ediv_le_ediv hc (by omega)
  rcases Int.lt_or_eq_of_le hrows with hrows | hrows
  · -- The first one lies in an earlier row, which is not the last one.
    have hearly : ¬ (i : Int).fdiv g.cols = g.rows - 1 := by omega
    refine .inr (.inl ?_)
    simp only [cell, Box.bottom, if_neg hearly]
    exact slot_spaced hrows hheight hg
  · -- Both lie in one row, and the first one is not at its end.
    have hcols : (i : Int).fmod g.cols < (j : Int).fmod g.cols := by
      have hi := hsplit i
      have hj := hsplit j
      rw [hrows] at hi
      omega
    refine .inl (.inl ?_)
    simp only [cell, Box.right, hrows]
    by_cases hs : (j : Int).fdiv g.cols = g.rows - 1 ∧ g.lastRowCount < g.cols
    · have hend := hlast hs.1
      rw [if_pos hs, if_pos hs, if_neg (by omega)]
      exact slot_spaced hcols (Int.le_max_left _ _) hg
    · rw [if_neg hs, if_neg hs, if_neg (by omega)]
      exact slot_spaced hcols hwidth hg

theorem splitCells_spaced (area : Box) (gap : Int) :
    (splitCells area gap).Pairwise (Box.SpacedBy gap) := by
  refine List.Pairwise.cons ?_ (List.pairwise_pair.2 ?_)
  · -- The one on the left is apart from both on the right.
    refine List.forall_mem_cons.2 ⟨.inl (.inl ?_), List.forall_mem_singleton.2 (.inl (.inl ?_))⟩ <;>
    · simp only [Box.right]
      omega
  · refine .inr (.inl ?_)
    simp only [Box.bottom]
    omega

/-- **All cells keep the gap to each other.** -/
theorem cells_spaced {g : Grid} {n : Nat} (hf : g.Fits n) {gap : Int} (hg : 0 ≤ gap) {area : Box}
    {allowSplit : Bool} {cells : List Box} (hn : 0 < n)
    (h : g.cells area gap allowSplit n = some cells) : cells.Pairwise (Box.SpacedBy gap) := by
  rcases of_cells_eq_some hn h with ⟨-, rfl⟩ | rfl
  · exact splitCells_spaced area gap
  · rw [List.pairwise_map]
    refine List.pairwise_lt_range.imp_of_mem fun hi hj hij => ?_
    exact cell_spaced hf hg area hij (List.mem_range.1 hj)

/-! ## The edges of the area -/

theorem cell_zero (g : Grid) (area : Box) (gap : Int) (size : Int × Int) :
    (g.cell area gap size 0).x = area.x + gap ∧ (g.cell area gap size 0).y = area.y + gap := by
  simp only [cell, Int.zero_fmod, Int.zero_fdiv]
  omega

theorem Fits.position_last {g : Grid} {n : Nat} (h : g.Fits n) {i : Nat} (hi : i + 1 = n) :
    (i : Int).fmod g.cols = g.lastRowCount - 1 ∧ (i : Int).fdiv g.cols = g.rows - 1 := by
  have hc := h.cols_pos
  have hpos := lastRowCount_pos hc
  have hle := lastRowCount_le hc
  have hindex : (i : Int) = g.lastRowCount - 1 + g.cols * (g.rows - 1) := by
    have := h.count_eq
    have := h.count_rows
    rw [Int.mul_comm]
    omega
  rw [Int.fmod_eq_emod_of_nonneg _ (Int.le_of_lt hc),
    Int.fdiv_eq_ediv_of_nonneg _ (Int.le_of_lt hc), hindex, Int.add_mul_emod_self_left,
    Int.add_mul_ediv_left _ _ (Int.ne_of_gt hc), Int.emod_eq_of_lt (by omega) (by omega),
    Int.ediv_eq_zero_of_lt (by omega) (by omega)]
  omega

theorem cell_last {g : Grid} {n : Nat} (h : g.Fits n) (area : Box) (gap : Int) (size : Int × Int)
    {i : Nat} (hi : i + 1 = n) : area.right - gap ≤ (g.cell area gap size i).right ∧
      area.bottom - gap ≤ (g.cell area gap size i).bottom := by
  obtain ⟨hcol, hrow⟩ := h.position_last hi
  have hle := lastRowCount_le h.cols_pos
  have hend : g.lastRowCount - 1 =
      (if g.lastRowCount < g.cols then g.lastRowCount else g.cols) - 1 := by
    split <;> omega
  simp only [cell, Box.right, Box.bottom, hcol, hrow, true_and, ← hend, if_true]
  omega

theorem exists_first_cell {g : Grid} {n : Nat} {gap : Int} {area : Box} {allowSplit : Bool}
    {cells : List Box} (hn : 0 < n) (h : g.cells area gap allowSplit n = some cells) :
    ∃ c ∈ cells, c.x = area.x + gap ∧ c.y = area.y + gap := by
  rcases of_cells_eq_some hn h with ⟨-, rfl⟩ | rfl
  · exact ⟨_, List.mem_cons_self, rfl, rfl⟩
  · exact ⟨_, List.mem_map_of_mem (List.mem_range.2 hn), cell_zero g area gap _⟩

theorem exists_last_cell {g : Grid} {n : Nat} (hf : g.Fits n) {gap : Int} {area : Box}
    {allowSplit : Bool} {cells : List Box} (hn : 0 < n)
    (h : g.cells area gap allowSplit n = some cells) :
    ∃ c ∈ cells, area.right - gap ≤ c.right ∧ area.bottom - gap ≤ c.bottom := by
  rcases of_cells_eq_some hn h with ⟨-, rfl⟩ | rfl
  · refine ⟨_, List.mem_cons_of_mem _ (List.mem_cons_of_mem _ List.mem_cons_self), ?_⟩
    simp only [Box.right, Box.bottom]
    omega
  · obtain ⟨i, rfl⟩ := Nat.exists_eq_succ_of_ne_zero (Nat.ne_of_gt hn)
    exact ⟨_, List.mem_map_of_mem (List.mem_range.2 (Nat.lt_succ_self i)),
      cell_last hf area gap _ rfl⟩

/-- **On every side of the area** some cell leaves no more than the gap. -/
theorem exists_cell_near {g : Grid} {n : Nat} (hf : g.Fits n) {gap : Int} {area : Box}
    {allowSplit : Bool} {cells : List Box} (hn : 0 < n)
    (h : g.cells area gap allowSplit n = some cells) (side : Side) :
    ∃ c ∈ cells, freeSpace c area side ≤ gap := by
  obtain ⟨first, hfirst, hx, hy⟩ := exists_first_cell hn h
  obtain ⟨last, hlast, hright, hbottom⟩ := exists_last_cell hf hn h
  cases side with
  | left => exact ⟨first, hfirst, by simp only [freeSpace]; omega⟩
  | top => exact ⟨first, hfirst, by simp only [freeSpace]; omega⟩
  | right => exact ⟨last, hlast, by simp only [freeSpace]; omega⟩
  | bottom => exact ⟨last, hlast, by simp only [freeSpace]; omega⟩

/-! ## Room for the gaps -/

theorem splitCells_inside {area : Box} {gap : Int} (hg : 0 ≤ gap) (hw : 0 < area.width - 3 * gap)
    (hh : 0 < area.height - 3 * gap) :
    ∀ c ∈ splitCells area gap, c.InsideBy gap area ∧ c.Nonneg := by
  have hhalf : ∀ inner : Int, 0 < inner → 0 ≤ inner.fdiv 2 ∧ inner.fdiv 2 ≤ inner := by
    intro inner h
    rw [Int.fdiv_eq_ediv_of_nonneg _ (by decide)]
    omega
  have hwide := hhalf _ hw
  have htall := hhalf _ hh
  intro c hc
  simp only [splitCells, List.mem_cons, List.not_mem_nil, or_false] at hc
  rcases hc with rfl | rfl | rfl <;>
  · simp only [Box.insideBy_iff, Box.Nonneg, Box.right, Box.bottom]
    omega

/-- **Where there is room for the gaps** every cell keeps the gap to the edges of the area. -/
theorem cells_inside {g : Grid} {n : Nat} (hf : g.Fits n) {gap : Int} (hg : 0 ≤ gap) {area : Box}
    (hr : g.Roomy area gap) (hs : g.splitsLeft = true → g.cols = 2 ∧ g.rows = 2)
    {allowSplit : Bool} {cells : List Box} (hn : 0 < n)
    (h : g.cells area gap allowSplit n = some cells) :
    ∀ c ∈ cells, c.InsideBy gap area ∧ c.Nonneg := by
  rcases of_cells_eq_some hn h with ⟨hsplit, rfl⟩ | rfl
  · obtain ⟨hcols, hrows⟩ := hs hsplit
    obtain ⟨hw, hh⟩ := hr
    rw [hcols] at hw
    rw [hrows] at hh
    exact splitCells_inside hg hw hh
  · rw [List.forall_mem_map]
    intro i hi
    obtain ⟨⟨hl, hright⟩, ⟨ht, hb⟩, hnonneg⟩ := cell_inside hf hg hr (List.mem_range.1 hi)
    exact ⟨Box.insideBy_iff.2 ⟨⟨hl, hright⟩, ht, hb⟩, hnonneg⟩

end Grid

end WindowTiling
