import Mathlib.Algebra.Order.Archimedean.Real.Basic
import Mathlib.Algebra.Order.Floor.Ring
import WindowTiling.Proofs.Boxes

/-!
# Clamping is intersection

Boxes have whole numbers for edges, and what they cover is settled cell by cell. On the plane of
real numbers a box also has an inside: the points strictly between its edges. A box of no or
negative size has none.

**Theorem (`clamp_exact`).** Cutting a box down to bounds leaves exactly the points inside both,
whatever the two boxes are: of any size, apart from each other, or inverted. The box that is left
has a proper size and lies in bounds of proper size, even where nothing is left of it. A box that is
in its bounds already stays as it is, and cutting down again changes nothing.

A point is inside a span just if the cells on both sides of it are in the span (`inside_iff`); a
point that is not on an edge of a cell has one and the same cell on both sides. So the inside of
what is left can be read off its cells.
-/

namespace WindowTiling

namespace Span

/-- The point lies strictly between the ends. -/
def Inside (s : Span) (t : ℝ) : Prop := (s.start : ℝ) < t ∧ t < (s.stop : ℝ)

/-- A point is inside just if the last cell that starts before it and the last one that starts no
later than it are both in the span. -/
theorem inside_iff {s : Span} {t : ℝ} : s.Inside t ↔ ⌈t⌉ - 1 ∈ s ∧ ⌊t⌋ ∈ s := by
  have hstart : (s.start : ℝ) < t ↔ s.start ≤ ⌈t⌉ - 1 := by rw [← Int.lt_ceil]; omega
  have hstop : t < (s.stop : ℝ) ↔ ⌊t⌋ < s.stop := Int.floor_lt.symm
  have hcells : ⌈t⌉ - 1 ≤ ⌊t⌋ := by have := Int.ceil_le_floor_add_one t; omega
  rw [Inside, hstart, hstop, mem_def, mem_def]
  omega

theorem inside_clamp {s bounds : Span} {t : ℝ} :
    (s.clamp bounds).Inside t ↔ s.Inside t ∧ bounds.Inside t := by
  simp only [inside_iff, mem_clamp]
  exact and_and_and_comm

theorem clamp_clamp (s bounds : Span) : (s.clamp bounds).clamp bounds = s.clamp bounds := by
  rcases lt_or_ge bounds.length 0 with h | h
  · -- Inverted bounds leave nothing but their far end.
    have hleft (s : Span) : s.clamp bounds = ⟨bounds.stop, 0⟩ := by
      simp only [clamp, stop, mk.injEq]
      split <;> split <;> omega
    rw [hleft, hleft]
  · exact clamp_of_within (clamp_within s h) (length_clamp_nonneg s bounds)

end Span

namespace Box

/-- The point of the plane lies strictly between the edges. -/
def Inside (b : Box) (p : ℝ × ℝ) : Prop := b.xs.Inside p.1 ∧ b.ys.Inside p.2

theorem inside_clamp {b bounds : Box} {p : ℝ × ℝ} :
    (b.clamp bounds).Inside p ↔ b.Inside p ∧ bounds.Inside p := by
  simp only [Inside, clamp, xs_ofSpans, ys_ofSpans, Span.inside_clamp]
  exact and_and_and_comm

/-- **Clamping is exact.** Of any box and any bounds it leaves a box of proper size whose inside is
the common inside of the two. In bounds of proper size it stays within them, wherever the box was; a
box of proper size that lies within its bounds is left alone; and clamping again changes nothing. -/
theorem clamp_exact (b bounds : Box) :
    (b.clamp bounds).Nonneg ∧
    (∀ p : ℝ × ℝ, (b.clamp bounds).Inside p ↔ b.Inside p ∧ bounds.Inside p) ∧
    (bounds.Nonneg → (b.clamp bounds).Within bounds) ∧
    (b.Nonneg → b.Within bounds → b.clamp bounds = b) ∧
    (b.clamp bounds).clamp bounds = b.clamp bounds := by
  refine ⟨nonneg_clamp b bounds, fun p => inside_clamp, clamp_within b,
    fun hb h => clamp_of_within h hb, ?_⟩
  simp only [clamp, xs_ofSpans, ys_ofSpans, Span.clamp_clamp]

/-- A box beyond the corner of a screen is cut down to nothing at that corner, which lies within the
screen; and one that fits into the screen is left alone. -/
theorem clamp_exact_corner :
    let screen : Box := ⟨0, 0, 1000, 800⟩
    let beyond : Box := ⟨1200, 900, 100, 100⟩
    let fitting : Box := ⟨10, 10, 100, 100⟩
    screen.Nonneg ∧ beyond.clamp screen = ⟨1000, 800, 0, 0⟩ ∧ (beyond.clamp screen).Within screen ∧
      fitting.Nonneg ∧ fitting.Within screen ∧ fitting.clamp screen = fitting := by
  intro screen beyond fitting
  have hscreen : screen.Nonneg := by decide
  have hfitting : fitting.Nonneg ∧ fitting.Within screen := by decide
  obtain ⟨-, -, hwithin, -, -⟩ := clamp_exact beyond screen
  obtain ⟨-, -, -, hsame, -⟩ := clamp_exact fitting screen
  exact ⟨hscreen, by decide, hwithin hscreen, hfitting.1, hfitting.2, hsame hfitting.1 hfitting.2⟩

end Box

end WindowTiling
