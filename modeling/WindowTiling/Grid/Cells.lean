import WindowTiling.Geometry.Box
import WindowTiling.Grid.Basic

/-!
# Cells

Where the cells of a grid lie in an area. Cells keep a gap between each other and to the edges.
An incomplete last row is widened so that it still spans the area, and the last cell of each row
and of each column takes what integer division leaves over. Where the area is smaller than the
gaps the area itself is divided, so that no size is negative.

Main facts: `cellSize_nonneg` and `length_cells` (there is a cell for every window).
-/

namespace WindowTiling

namespace Grid

/-- The width and height of an ordinary cell. -/
def cellSize (g : Grid) (area : Box) (gap : Int) : Int × Int :=
  let innerWidth := area.width - (g.cols + 1) * gap
  let innerHeight := area.height - (g.rows + 1) * gap
  if 0 < innerWidth ∧ 0 < innerHeight then
    (innerWidth.fdiv g.cols, innerHeight.fdiv g.rows)
  else (max 0 (area.width.fdiv g.cols), max 0 (area.height.fdiv g.rows))

/-- The cell at an index, counted row by row, for an ordinary cell size. -/
def cell (g : Grid) (area : Box) (gap : Int) (size : Int × Int) (index : Int) : Box :=
  let col := index.fmod g.cols
  let row := index.fdiv g.cols
  let last := row = g.rows - 1
  let short := last ∧ g.lastRowCount < g.cols
  let rowLength := if short then g.lastRowCount else g.cols
  let width :=
    if short then max 0 ((area.width - (rowLength + 1) * gap).fdiv rowLength) else size.1
  let x := area.x + (col + 1) * gap + col * width
  let y := area.y + (row + 1) * gap + row * size.2
  ⟨x, y,
    if col = rowLength - 1 then max width (area.right - gap - x) else width,
    if last then max size.2 (area.bottom - gap - y) else size.2⟩

/-- One full-height cell on the left and two stacked cells on the right. -/
def splitCells (area : Box) (gap : Int) : List Box :=
  let halfWidth := max 0 ((area.width - 3 * gap).fdiv 2)
  let halfHeight := max 0 ((area.height - 3 * gap).fdiv 2)
  let rightX := area.x + 2 * gap + halfWidth
  let rightWidth := max 0 (area.right - gap - rightX)
  let bottomY := area.y + 2 * gap + halfHeight
  [⟨area.x + gap, area.y + gap, halfWidth, max 0 (area.height - 2 * gap)⟩,
    ⟨rightX, area.y + gap, rightWidth, halfHeight⟩,
    ⟨rightX, bottomY, rightWidth, max 0 (area.bottom - gap - bottomY)⟩]

/-- The cells for a number of windows. The split shape is used only for exactly three windows and
where it is allowed. None when the grid cannot be divided. -/
def cells (g : Grid) (area : Box) (gap : Int) (allowSplit : Bool) (count : Nat) :
    Option (List Box) :=
  if count = 0 then some []
  else if allowSplit && g.splitsLeft && count == 3 then some (splitCells area gap)
  else if g.Divisible then
    some ((List.range count).map fun (i : Nat) => g.cell area gap (g.cellSize area gap) i)
  else none

theorem cellSize_nonneg {g : Grid} (hc : 0 < g.cols) (hr : 0 < g.rows) (area : Box) (gap : Int) :
    0 ≤ (g.cellSize area gap).1 ∧ 0 ≤ (g.cellSize area gap).2 := by
  simp only [cellSize]
  split
  · next h =>
    rw [Int.fdiv_eq_ediv_of_nonneg _ (by omega), Int.fdiv_eq_ediv_of_nonneg _ (by omega)]
    exact ⟨Int.ediv_nonneg (by omega) (by omega), Int.ediv_nonneg (by omega) (by omega)⟩
  · exact ⟨by omega, by omega⟩

/-- There is a cell for every window. -/
theorem length_cells {g : Grid} {area : Box} {gap : Int} {allowSplit : Bool} {count : Nat}
    {bs : List Box} (h : g.cells area gap allowSplit count = some bs) : bs.length = count := by
  simp only [cells] at h
  split at h
  · next hz =>
    simp only [Option.some.injEq] at h
    rw [← h, hz]
    rfl
  · split at h
    · next hs =>
      simp only [Option.some.injEq] at h
      simp only [Bool.and_eq_true, beq_iff_eq] at hs
      rw [← h, hs.2]
      rfl
    · split at h
      · simp only [Option.some.injEq] at h
        simp [← h]
      · simp at h

end Grid

end WindowTiling
