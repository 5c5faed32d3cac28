import Mathlib.Data.List.Range
import WindowTiling.Proofs.GridTiling

/-!
# Rows fill the width and the height

What integer division leaves over goes to the last cell of each row and to the last row, and an
incomplete last row is divided anew.

**Theorem (`cells_tile`).** So the cells of the grids that the layout uses tile their area. Where
there is room for the gaps, the cells of every row run from gap to gap with just the gap between
neighbours, and so do the rows one below the other. In every area, degenerate ones included, no size
is negative and two cells keep the gap. The split shape is the exception to rows: there it is the
cell on the left and the column on the right that fill the width.

Along one axis it is always the same picture, slots of one size of which the last one takes what is
left over (`tiles_slots`). The cells of a row are those with consecutive indices
(`rowOf_cells`), and each lies in its slot of the width and in the slot of its row of the height.
-/

namespace WindowTiling

/-! ## Spans that tile a stretch -/

/-- The spans run from `start` to `stop` one after the other with just the gap between neighbours,
and there is one. -/
structure Tiles (gap start stop : Int) (spans : List Span) : Prop where
  first : spans.head?.map Span.start = some start
  last : spans.getLast?.map Span.stop = some stop
  chain : spans.IsChain fun s t => s.stop + gap = t.start

/-- The `k`-th of `n` slots of size `w` that lie a gap apart, with a gap before and after. The last
one takes what is left over. -/
def slot (start total n w gap k : Int) : Span :=
  let x := start + (k + 1) * gap + k * w
  ⟨x, if k = n - 1 then max w (start + total - gap - x) else w⟩

/-- **Slots tile their stretch** if there is room for them. -/
theorem tiles_slots {start total w gap : Int} {n : Nat} (hn : 0 < n)
    (h : n * w ≤ total - (n + 1) * gap) : Tiles gap (start + gap) (start + total - gap)
      ((List.range n).map fun (k : Nat) => slot start total n w gap k) := by
  obtain ⟨m, rfl⟩ := Nat.exists_eq_succ_of_ne_zero (Nat.ne_of_gt hn)
  refine ⟨?_, ?_, ?_⟩
  · rw [List.range_succ_eq_map]
    simp only [List.map_cons, List.head?_cons, Option.map_some, slot]
    rw [Option.some.injEq]
    omega
  · -- The last slot has room for its own size.
    rw [List.range_succ, List.map_append, List.map_singleton, List.getLast?_concat,
      Option.map_some, Option.some.injEq, slot]
    simp only [Span.stop]
    rw [if_pos (by omega)]
    push_cast at h
    simp only [Int.add_mul, Int.one_mul] at h ⊢
    omega
  · rw [List.isChain_map, List.isChain_range]
    intro k hk
    simp only [slot, Span.stop]
    rw [if_neg (by omega)]
    push_cast
    simp only [Int.add_mul, Int.one_mul]
    omega

/-- The numbers of a range that lie in an interval are consecutive. -/
theorem filter_range_eq {a b n : Nat} (hab : a ≤ b) (hbn : b ≤ n) :
    (List.range n).filter (fun i => a ≤ i ∧ i < b) = List.range' a (b - a) := by
  have hsplit : List.range n = List.range' 0 a ++ (List.range' a (b - a) ++
      List.range' b (n - b)) := by
    have hright := @List.range'_append_1 a (b - a) (n - b)
    have hall := @List.range'_append_1 0 a (n - a)
    rw [show a + (b - a) = b by omega, show b - a + (n - b) = n - a by omega] at hright
    rw [hright, List.range_eq_range', ← show a + (n - a) = n by omega, ← hall, Nat.zero_add,
      show a + (n - a) - a = n - a by omega]
  have hbefore : (List.range' 0 a).filter (fun i => a ≤ i ∧ i < b) = [] := by
    refine List.filter_eq_nil_iff.2 fun i hi => ?_
    rw [List.mem_range'_1] at hi
    simp only [decide_eq_true_eq]
    omega
  have hafter : (List.range' b (n - b)).filter (fun i => a ≤ i ∧ i < b) = [] := by
    refine List.filter_eq_nil_iff.2 fun i hi => ?_
    rw [List.mem_range'_1] at hi
    simp only [decide_eq_true_eq]
    omega
  have hin : (List.range' a (b - a)).filter (fun i => a ≤ i ∧ i < b) = List.range' a (b - a) := by
    refine List.filter_eq_self.2 fun i hi => ?_
    rw [List.mem_range'_1] at hi
    simp only [decide_eq_true_eq]
    omega
  rw [hsplit, List.filter_append, List.filter_append, hbefore, hafter, hin, List.nil_append,
    List.append_nil]

namespace Grid

/-! ## Rows -/

/-- The cells of a row: those whose index divided by the number of columns is the row. -/
def rowOf (g : Grid) (cells : List Box) (row : Int) : List Box :=
  (cells.zipIdx.filter fun c => (c.2 : Int).fdiv g.cols = row).map Prod.fst

/-- How many cells a row has. -/
def rowLength (g : Grid) (row : Int) : Int := if row = g.rows - 1 then g.lastRowCount else g.cols

variable {g : Grid} {n : Nat}

theorem rowOf_map_range (g : Grid) (f : Nat → Box) (n : Nat) (row : Int) :
    g.rowOf ((List.range n).map f) row =
      ((List.range n).filter fun (i : Nat) => (i : Int).fdiv g.cols = row).map f := by
  have hindexed : ((List.range n).map f).zipIdx = (List.range n).map fun i => (f i, i) :=
    List.ext_getElem (by simp) (by simp)
  rw [rowOf, hindexed, List.filter_map, List.map_map]
  rfl

theorem rowLength_pos (hf : g.Fits n) (row : Int) : 0 < g.rowLength row := by
  rw [rowLength]
  split
  · exact lastRowCount_pos hf.cols_pos
  · exact hf.cols_pos

theorem rowLength_le (hf : g.Fits n) (row : Int) : g.rowLength row ≤ g.cols := by
  rw [rowLength]
  split
  · exact lastRowCount_le hf.cols_pos
  · exact Int.le_refl _

theorem mul_add_rowLength_le (hf : g.Fits n) {row : Int} (hrow : row < g.rows) :
    row * g.cols + g.rowLength row ≤ n := by
  have hcount := hf.count_rows
  rw [hf.count_eq] at hcount
  have hlast := lastRowCount_pos hf.cols_pos
  rw [rowLength]
  split
  · next h => exact Int.le_of_eq (by rw [h, hcount])
  · next h =>
    have hle : (row + 1) * g.cols ≤ (g.rows - 1) * g.cols :=
      Int.mul_le_mul_of_nonneg_right (by omega) (Int.le_of_lt hf.cols_pos)
    rw [Int.add_mul, Int.one_mul] at hle
    omega

/-- **The cells of a row have consecutive indices.** -/
theorem filter_fdiv_eq (hf : g.Fits n) {k : Nat} (hk : (k : Int) < g.rows) :
    ((List.range n).filter fun (i : Nat) => (i : Int).fdiv g.cols = k) =
      List.range' (k * g.cols.toNat) (g.rowLength k).toNat := by
  have hc := hf.cols_pos
  have hpos := rowLength_pos hf k
  have hle := rowLength_le hf k
  have hend := mul_add_rowLength_le hf hk
  have hlast : (k : Int) = g.rows - 1 → (n : Int) = k * g.cols + g.rowLength k := by
    intro h
    rw [rowLength, if_pos h, ← hf.count_eq, hf.count_rows, h]
  have hfull : (k : Int) ≠ g.rows - 1 → g.rowLength k = g.cols := fun h => if_neg h
  obtain ⟨c, hcols⟩ := Int.eq_ofNat_of_zero_le (Int.le_of_lt hc)
  obtain ⟨m, hm⟩ := Int.eq_ofNat_of_zero_le (Int.le_of_lt hpos)
  -- From here on the numbers of columns and of cells are natural numbers.
  rw [hcols, hm] at hend hlast hfull
  rw [hcols] at hc
  rw [hm, hcols] at hle
  rw [hcols, hm, Int.toNat_natCast, Int.toNat_natCast]
  have hrow : k * c + m ≤ n := by exact_mod_cast hend
  rw [← Nat.add_sub_cancel_left (n := k * c) (m := m),
    ← filter_range_eq (Nat.le_add_right _ _) hrow]
  refine List.filter_congr fun i hi => ?_
  have hdiv := @Nat.div_eq_iff c i k (by omega)
  rw [List.mem_range] at hi
  rw [Int.fdiv_eq_ediv_of_nonneg _ (by omega), ← Int.natCast_ediv, decide_eq_decide,
    Int.natCast_inj, hdiv]
  by_cases h : (k : Int) = g.rows - 1
  · have hn : n = k * c + m := by exact_mod_cast hlast h
    omega
  · have hmc := hfull h
    omega

/-- The width of the cells of a row but for what the last one takes on top. -/
def rowWidth (g : Grid) (area : Box) (gap : Int) (size : Int × Int) (row : Int) : Int :=
  if row = g.rows - 1 ∧ g.lastRowCount < g.cols then
    max 0 ((area.width - (g.rowLength row + 1) * gap).fdiv (g.rowLength row))
  else size.1

/-- **A cell lies in its slot of the width and in the slot of its row of the height.** -/
theorem cell_eq_slots (hf : g.Fits n) (area : Box) (gap : Int) (size : Int × Int) {k j : Nat}
    (hj : (j : Int) < g.rowLength k) :
    let c := g.cell area gap size ((k * g.cols.toNat + j : Nat) : Int)
    c.xs = slot area.x area.width (g.rowLength k) (g.rowWidth area gap size k) gap j ∧
      c.ys = slot area.y area.height g.rows size.2 gap k := by
  intro c
  have hc := hf.cols_pos
  have hle := rowLength_le hf k
  have hindex : ((k * g.cols.toNat + j : Nat) : Int) = j + k * g.cols := by
    push_cast
    rw [Int.toNat_of_nonneg (Int.le_of_lt hc), Int.add_comm]
  have hcol : ((k * g.cols.toNat + j : Nat) : Int).fmod g.cols = j := by
    rw [hindex, Int.fmod_eq_emod_of_nonneg _ (Int.le_of_lt hc), Int.add_mul_emod_self_right]
    exact Int.emod_eq_of_lt (by omega) (by omega)
  have hrow : ((k * g.cols.toNat + j : Nat) : Int).fdiv g.cols = k := by
    rw [hindex, Int.fdiv_eq_ediv_of_nonneg _ (Int.le_of_lt hc),
      Int.add_mul_ediv_right _ _ (Int.ne_of_gt hc), Int.ediv_eq_zero_of_lt (by omega) (by omega),
      Int.zero_add]
  have hlength : (if (k : Int) = g.rows - 1 ∧ g.lastRowCount < g.cols then g.lastRowCount
      else g.cols) = g.rowLength k := by
    have hlast := lastRowCount_le hc
    rw [rowLength]
    split <;> split <;> omega
  refine ⟨?_, ?_⟩
  · simp only [c, cell, Box.xs, hcol, hrow, hlength, slot, rowWidth, Box.right]
  · simp only [c, cell, Box.ys, hrow, slot, Box.bottom]

theorem rowOf_cells (hf : g.Fits n) (area : Box) (gap : Int) (size : Int × Int) {k : Nat}
    (hk : (k : Int) < g.rows) :
    let row := g.rowOf ((List.range n).map fun (i : Nat) => g.cell area gap size i) k
    row.map Box.xs = (List.range (g.rowLength k).toNat).map (fun (j : Nat) =>
        slot area.x area.width (g.rowLength k) (g.rowWidth area gap size k) gap j) ∧
      ∀ c ∈ row, c.ys = slot area.y area.height g.rows size.2 gap k := by
  intro row
  have hrow : row = (List.range (g.rowLength k).toNat).map fun (j : Nat) =>
      g.cell area gap size ((k * g.cols.toNat + j : Nat) : Int) := by
    rw [show row = _ from rowOf_map_range g _ n k, filter_fdiv_eq hf hk, List.range'_eq_map_range,
      List.map_map]
    rfl
  have hslots := fun (j : Nat) (hj : j ∈ List.range (g.rowLength k).toNat) =>
    cell_eq_slots hf area gap size (k := k) (j := j) (by rw [List.mem_range] at hj; omega)
  rw [hrow]
  refine ⟨?_, List.forall_mem_map.2 fun j hj => (hslots j hj).2⟩
  rw [List.map_map]
  exact List.map_congr_left fun j hj => (hslots j hj).1

theorem rowWidth_spec (hf : g.Fits n) {area : Box} {gap : Int} (hg : 0 ≤ gap)
    (hr : g.Roomy area gap) (row : Int) :
    g.rowLength row * g.rowWidth area gap (g.cellSize area gap) row ≤
      area.width - (g.rowLength row + 1) * gap := by
  have hlength := rowLength_pos hf row
  have hgaps := Int.mul_le_mul_of_nonneg_right (rowLength_le hf row) hg
  have hwide := hr.1
  have hroom : 0 ≤ area.width - (g.rowLength row + 1) * gap := by
    simp only [Int.add_mul] at *
    omega
  rw [cellSize_of_roomy hr, rowWidth]
  split
  · rw [Int.max_eq_right (fdiv_nonneg hlength hroom)]
    exact mul_fdiv_le hlength
  · next hs =>
    have heq : g.rowLength row = g.cols := by
      have hle := lastRowCount_le hf.cols_pos
      rw [rowLength]
      split <;> omega
    rw [heq]
    exact mul_fdiv_le hf.cols_pos

/-- The cells of each row run over the width of the area, and the rows over its height. -/
def RowsTile (g : Grid) (gap : Int) (area : Box) (cells : List Box) : Prop :=
  ∃ bands : List Span, (bands.length : Int) = g.rows ∧
    Tiles gap (area.y + gap) (area.bottom - gap) bands ∧
    ∀ k : Nat, (k : Int) < g.rows →
      Tiles gap (area.x + gap) (area.right - gap) ((g.rowOf cells k).map Box.xs) ∧
        ∀ c ∈ g.rowOf cells k, bands[k]? = some c.ys

/-- A cell on the left and a column on the right run over the width of the area, each over all the
height. The column is two cells. -/
def SplitTiles (gap : Int) (area : Box) (cells : List Box) : Prop :=
  ∃ left above below, cells = [left, above, below] ∧ below.xs = above.xs ∧
    Tiles gap (area.x + gap) (area.right - gap) [left.xs, above.xs] ∧
    Tiles gap (area.y + gap) (area.bottom - gap) [left.ys] ∧
    Tiles gap (area.y + gap) (area.bottom - gap) [above.ys, below.ys]

/-- **The rows of a plain grid tile the area** where there is room for the gaps. -/
theorem rows_tile (hf : g.Fits n) {area : Box} {gap : Int} (hg : 0 ≤ gap)
    (hr : g.Roomy area gap) : g.RowsTile gap area
      ((List.range n).map fun (i : Nat) => g.cell area gap (g.cellSize area gap) i) := by
  have hrows := hf.rows_pos
  have hcast : ((g.rows.toNat : Nat) : Int) = g.rows := Int.toNat_of_nonneg (Int.le_of_lt hrows)
  refine ⟨(List.range g.rows.toNat).map fun (k : Nat) =>
    slot area.y area.height g.rows (g.cellSize area gap).2 gap k, ?_, ?_, fun k hk => ?_⟩
  · rw [List.length_map, List.length_range, hcast]
  · have htile := @tiles_slots area.y area.height (g.cellSize area gap).2 gap g.rows.toNat
      (by omega)
    rw [hcast] at htile
    refine htile ?_
    rw [cellSize_of_roomy hr]
    exact mul_fdiv_le hrows
  · obtain ⟨hxs, hys⟩ := rowOf_cells hf area gap (g.cellSize area gap) hk
    have hlength := rowLength_pos hf k
    have hcast' : (((g.rowLength k).toNat : Nat) : Int) = g.rowLength k :=
      Int.toNat_of_nonneg (Int.le_of_lt hlength)
    refine ⟨?_, fun c hc => ?_⟩
    · have htile := @tiles_slots area.x area.width
        (g.rowWidth area gap (g.cellSize area gap) k) gap (g.rowLength k).toNat (by omega)
      rw [hcast'] at htile
      rw [hxs]
      exact htile (rowWidth_spec hf hg hr k)
    · rw [hys c hc, List.getElem?_map, List.getElem?_range (by omega)]
      rfl

theorem tiles_single {gap start stop : Int} {s : Span} (hs : s.start = start)
    (ht : s.stop = stop) : Tiles gap start stop [s] :=
  ⟨congrArg some hs, congrArg some ht, List.isChain_singleton s⟩

theorem tiles_pair {gap start stop : Int} {s t : Span} (hs : s.start = start)
    (hst : s.stop + gap = t.start) (ht : t.stop = stop) : Tiles gap start stop [s, t] :=
  ⟨congrArg some hs, congrArg some ht, List.isChain_pair.2 hst⟩

/-- **The split shape tiles the area** where there is room for the gaps. -/
theorem split_tiles {area : Box} {gap : Int} (hg : 0 ≤ gap) (hw : 0 < area.width - 3 * gap)
    (hh : 0 < area.height - 3 * gap) : SplitTiles gap area (splitCells area gap) := by
  have hhalf : ∀ inner : Int, 0 < inner → 0 ≤ inner.fdiv 2 ∧ inner.fdiv 2 ≤ inner := by
    intro inner h
    rw [Int.fdiv_eq_ediv_of_nonneg _ (by decide)]
    omega
  have hwide := hhalf _ hw
  have htall := hhalf _ hh
  refine ⟨_, _, _, rfl, rfl, tiles_pair rfl ?_ ?_, tiles_single rfl ?_, tiles_pair rfl ?_ ?_⟩ <;>
  · simp only [Span.stop, Box.xs, Box.ys, Box.right, Box.bottom]
    omega

/-! ## Every area -/

theorem nonneg_cells (hf : g.Fits n) {area : Box} {gap : Int} {allowSplit : Bool}
    {cells : List Box} (hn : 0 < n) (h : g.cells area gap allowSplit n = some cells) :
    ∀ c ∈ cells, c.Nonneg := by
  rcases of_cells_eq_some hn h with ⟨-, rfl⟩ | rfl
  · intro c hc
    simp only [splitCells, List.mem_cons, List.not_mem_nil, or_false] at hc
    rcases hc with rfl | rfl | rfl <;>
    · simp only [Box.Nonneg]
      omega
  · obtain ⟨hwidth, hheight⟩ := cellSize_nonneg hf.cols_pos hf.rows_pos area gap
    rw [List.forall_mem_map]
    intro i _
    refine ⟨?_, ?_⟩ <;> simp only [cell]
    · split <;> split <;> omega
    · split <;> omega

theorem length_rowOf (hf : g.Fits n) {cells : List Box} (hlen : cells.length = n) {k : Nat}
    (hk : (k : Int) < g.rows) : ((g.rowOf cells k).length : Int) = g.rowLength k := by
  have hcells : cells = (List.range n).map fun i => cells.getD i default := by
    refine List.ext_getElem (by simp [hlen]) fun i hi _ => ?_
    simp [hi]
  have hlength := rowLength_pos hf k
  rw [hcells, rowOf_map_range, filter_fdiv_eq hf hk, List.length_map, List.length_range']
  exact Int.toNat_of_nonneg (Int.le_of_lt hlength)

/-! ## The grids in use -/

/-- The grids that the layout uses for a number of windows: the one that is sized for it, and the
one with two windows below each other. -/
def IsFor (g : Grid) (n : Nat) : Prop :=
  (∃ p aspect, forCount n p aspect = some g) ∨ n = 2 ∧ g = ofTemplate 2 .stacked

theorem IsFor.fits (h : g.IsFor n) : g.Fits n := by
  rcases h with ⟨p, aspect, h⟩ | ⟨rfl, rfl⟩
  · exact fits_forCount h
  · exact fits_ofTemplate_two (.inr rfl)

theorem IsFor.pos (h : g.IsFor n) : 0 < n := by
  rcases h with ⟨p, aspect, h⟩ | ⟨rfl, -⟩
  · rcases Nat.eq_zero_or_pos n with rfl | hn
    · exact absurd h (by simp [forCount])
    · exact hn
  · decide

/-- Only three windows are ever split, in a grid of two columns and two rows. -/
theorem IsFor.of_splitsLeft (h : g.IsFor n) (hs : g.splitsLeft = true) :
    n = 3 ∧ g.cols = 2 ∧ g.rows = 2 := by
  rcases h with ⟨p, aspect, h⟩ | ⟨-, rfl⟩
  · refine ⟨?_, shape_of_splitsLeft h hs⟩
    simp only [forCount] at h
    split at h
    · simp at h
    · obtain rfl := Option.some.inj h
      have ht : templateFor n p aspect = .quadLeftSpan := of_decide_eq_true hs
      simp only [templateFor] at ht
      grind
  · exact absurd hs (by decide)

/-- **Grid cells tile the area.** A grid that is in use for a number of windows gives each of them a
cell, in every area. Every window is in a row of the grid, and the last row has as many of them as
it should. No size is negative, and any two cells keep the gap. Where there is room for the gaps the
cells run from gap to gap over the width and the height, with just the gap between neighbours. -/
theorem cells_tile (h : g.IsFor n) (allowSplit : Bool) (area : Box) {gap : Int} (hg : 0 ≤ gap) :
    ∃ cells, g.cells area gap allowSplit n = some cells ∧ cells.length = n ∧
      (∀ i < n, 0 ≤ (i : Int).fdiv g.cols ∧ (i : Int).fdiv g.cols < g.rows) ∧
      ((g.rowOf cells (g.rows - 1)).length : Int) = g.lastRowCount ∧
      (∀ c ∈ cells, c.Nonneg) ∧ cells.Pairwise (Box.SpacedBy gap) ∧
      (g.Roomy area gap → if allowSplit = true ∧ g.splitsLeft = true then SplitTiles gap area cells
        else g.RowsTile gap area cells) := by
  have hf := h.fits
  have hn := h.pos
  obtain ⟨cells, hcells⟩ : ∃ cells, g.cells area gap allowSplit n = some cells := by
    simp only [Grid.cells]
    rw [if_neg (Nat.ne_of_gt hn), if_pos hf.divisible]
    split
    · exact ⟨_, rfl⟩
    · exact ⟨_, rfl⟩
  have hlen := length_cells hcells
  refine ⟨cells, hcells, hlen, fun i hi => ?_, ?_, nonneg_cells hf hn hcells,
    cells_spaced hf hg hn hcells, fun hr => ?_⟩
  · obtain ⟨-, ⟨hrow₀, hrow⟩, -⟩ := hf.position hi
    exact ⟨hrow₀, by omega⟩
  · have hrows := hf.rows_pos
    have hlast := length_rowOf hf hlen (k := (g.rows - 1).toNat) (by omega)
    rw [Int.toNat_of_nonneg (by omega)] at hlast
    rw [hlast, rowLength, if_pos rfl]
  · -- Which cells there are is decided again, since only the split shape tiles by columns.
    simp only [Grid.cells] at hcells
    rw [if_neg (Nat.ne_of_gt hn), if_pos hf.divisible] at hcells
    split
    · next hsplit =>
      obtain ⟨rfl, hcols, hrows⟩ := h.of_splitsLeft hsplit.2
      rw [hsplit.1, hsplit.2] at hcells
      obtain rfl := Option.some.inj hcells
      obtain ⟨hw, hh⟩ := hr
      rw [hcols] at hw
      rw [hrows] at hh
      exact split_tiles hg hw hh
    · next hplain =>
      rw [if_neg (by simpa using fun hs hl _ => hplain ⟨hs, hl⟩)] at hcells
      obtain rfl := Option.some.inj hcells
      exact rows_tile hf hg hr

/-- Five windows in an area that neither three columns nor two rows divide evenly. -/
theorem cells_tile_five : (ofTemplate 5 .wide).IsFor 5 ∧ ∃ cells,
    (ofTemplate 5 .wide).cells ⟨0, 0, 103, 78⟩ 4 true 5 = some cells ∧
      cells.map Box.xs = [⟨4, 29⟩, ⟨37, 29⟩, ⟨70, 29⟩, ⟨4, 45⟩, ⟨53, 46⟩] ∧
      (ofTemplate 5 .wide).RowsTile 4 ⟨0, 0, 103, 78⟩ cells := by
  have hfor : (ofTemplate 5 .wide).IsFor 5 := .inl ⟨{}, none, by decide⟩
  obtain ⟨cells, hcells, -, -, -, -, -, htile⟩ :=
    cells_tile hfor true ⟨0, 0, 103, 78⟩ (by decide : (0 : Int) ≤ 4)
  refine ⟨hfor, cells, hcells, ?_, htile (by decide)⟩
  obtain rfl := Option.some.inj hcells
  decide

end Grid

end WindowTiling
