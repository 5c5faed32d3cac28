/-!
# Spans

A span is a stretch of one axis: a start and a length, both arbitrary integers, so that a span
may be empty or inverted. Boxes are products of two spans, and every operation on boxes that
treats the axes alike is defined here first.

Main facts: `mem_clamp` says that clamping keeps exactly the points that lie in both spans, and
`clamp_of_within` that a span already inside its bounds is left alone.
-/

namespace WindowTiling

/-- A stretch of one axis, from `start` up to `start + length`. -/
structure Span where
  start : Int
  length : Int
  deriving DecidableEq, Repr, Inhabited

namespace Span

/-- The far end. -/
def stop (s : Span) : Int := s.start + s.length

/-- The span with the given ends. -/
def between (start stop : Int) : Span := ⟨start, stop - start⟩

/-! ## Points and containment -/

/-- The unit cell starting at `p` lies in the span. A span of no or negative length has none. -/
def Mem (s : Span) (p : Int) : Prop := s.start ≤ p ∧ p < s.stop

instance : Membership Int Span := ⟨Mem⟩

theorem mem_def {s : Span} {p : Int} : p ∈ s ↔ s.start ≤ p ∧ p < s.stop := Iff.rfl

instance (p : Int) (s : Span) : Decidable (p ∈ s) :=
  inferInstanceAs (Decidable (s.start ≤ p ∧ p < s.stop))

/-- Each end of either span lies strictly before the far end of the other. For two spans of
positive length this says that they share a point. -/
def Overlaps (a b : Span) : Prop := a.start < b.stop ∧ b.start < a.stop

instance (a b : Span) : Decidable (a.Overlaps b) :=
  inferInstanceAs (Decidable (a.start < b.stop ∧ b.start < a.stop))

theorem Overlaps.symm {a b : Span} (h : a.Overlaps b) : b.Overlaps a := ⟨h.2, h.1⟩

/-- Both ends of `inner` lie between the ends of `outer`. -/
def Within (inner outer : Span) : Prop := outer.start ≤ inner.start ∧ inner.stop ≤ outer.stop

instance (a b : Span) : Decidable (a.Within b) :=
  inferInstanceAs (Decidable (b.start ≤ a.start ∧ a.stop ≤ b.stop))

/-- The smallest span covering both. -/
def hull (a b : Span) : Span := between (min a.start b.start) (max a.stop b.stop)

/-! ## Clamping -/

/-- Cut a span down to its bounds. An end that overflows is pulled inward while the opposite end
stays where it is, so the span shrinks and is never moved; the length never falls below zero. -/
def clamp (s bounds : Span) : Span :=
  let length := if s.start < bounds.start then s.length - (bounds.start - s.start) else s.length
  let start := min (max s.start bounds.start) bounds.stop
  ⟨start, max 0 (if start + length > bounds.stop then bounds.stop - start else length)⟩

theorem length_clamp_nonneg (s bounds : Span) : 0 ≤ (s.clamp bounds).length := by
  simp only [clamp]; omega

/-- **Clamping is intersection**: the points kept are those in the span and in its bounds. -/
theorem mem_clamp {s bounds : Span} {p : Int} : p ∈ s.clamp bounds ↔ p ∈ s ∧ p ∈ bounds := by
  simp only [mem_def, clamp, stop]
  split <;> split <;> omega

/-- Within bounds that are not inverted, a clamped span stays inside them. -/
theorem clamp_within (s : Span) {bounds : Span} (h : 0 ≤ bounds.length) :
    (s.clamp bounds).Within bounds := by
  simp only [Within, clamp, stop]
  split <;> split <;> omega

/-- A span of non-negative length that is already inside its bounds is left alone. -/
theorem clamp_of_within {s bounds : Span} (h : s.Within bounds) (hs : 0 ≤ s.length) :
    s.clamp bounds = s := by
  obtain ⟨h₁, h₂⟩ := h
  simp only [stop] at h₁ h₂
  cases s
  simp only [clamp, stop, mk.injEq] at *
  split <;> split <;> omega

/-- Clamping to a span with the same bounds shifted shifts the result. -/
theorem clamp_shift (s bounds : Span) (d : Int) :
    clamp ⟨s.start + d, s.length⟩ ⟨bounds.start + d, bounds.length⟩ =
      ⟨(s.clamp bounds).start + d, (s.clamp bounds).length⟩ := by
  simp only [clamp, stop, mk.injEq]
  repeat' split
  all_goals omega

end Span

end WindowTiling
