import WindowTiling.Proofs.Boxes

/-!
# Confined boxes

A window that is alone on an output is confined to the usable area: its full box is cut down to the
area, the decorations are taken off, and what is left is cut down to the area once more.

**Theorem (`confined_confined`).** Confining a window again changes nothing.

This takes an argument where the full box is smaller than the decorations. They leave an empty
content box then, whose full box is larger than the one it comes from and may reach beyond the
usable area. When that one is cut down in turn, the edge where the empty box is computed from may
move, but never so far that the empty box would move: either there is still room for the border
before it, or it is at the far edge, where it is held by the second cut (`Span.confined_point`).
-/

namespace WindowTiling

/-! ## One axis -/

namespace Span

variable {bounds : Span} {before after : Int}

theorem clamp_eq_between (s : Span) (h : 0 ≤ bounds.length) : s.clamp bounds =
    between (min (max s.start bounds.start) bounds.stop)
      (max (min (max s.start bounds.start) bounds.stop) (min s.stop bounds.stop)) := by
  simp only [clamp, stop, between, mk.injEq, true_and]
  by_cases hlow : s.start < bounds.start
  · simp only [if_pos hlow]
    split <;> omega
  · simp only [if_neg hlow]
    split <;> omega

/-- Grow outward at both ends. -/
def expand (s : Span) (before after : Int) : Span := ⟨s.start - before, s.length + (before + after)⟩

/-- Shrink inward at both ends. The length stops at zero. -/
def inset (s : Span) (before after : Int) : Span :=
  ⟨s.start + before, max 0 (s.length - (before + after))⟩

/-- What is left of a span of content when its full span is cut down to the bounds, and then what
the borders leave of that. -/
def confined (s : Span) (before after : Int) (bounds : Span) : Span :=
  (((s.expand before after).clamp bounds).inset before after).clamp bounds

/-- No part of the full span is lost but what is cut off. -/
theorem within_expand_confined (hb : 0 ≤ before) (ha : 0 ≤ after) (h : 0 ≤ bounds.length)
    (s : Span) : ((s.expand before after).clamp bounds).Within
      ((s.confined before after bounds).expand before after) := by
  obtain ⟨hstart, hstop⟩ := clamp_within (s.expand before after) h
  unfold confined
  generalize (s.expand before after).clamp bounds = full at *
  rw [clamp_eq_between _ h]
  simp only [Within, inset, expand, stop, between] at *
  omega

theorem clamp_point {p : Int} (hp : bounds.start ≤ p) (h : 0 ≤ bounds.length) :
    clamp ⟨p, 0⟩ bounds = ⟨min p bounds.stop, 0⟩ := by
  rw [clamp_eq_between _ h]
  simp only [between, stop, mk.injEq]
  omega

/-- A point with room for the border before it, or at the far end of the bounds, stays where it
is. -/
theorem confined_point (hb : 0 ≤ before) (ha : 0 ≤ after) {p : Int} (hlow : bounds.start ≤ p)
    (hhigh : p ≤ bounds.stop) (hedge : p = bounds.stop ∨ bounds.start + before ≤ p) :
    confined ⟨p, 0⟩ before after bounds = ⟨p, 0⟩ := by
  have h : 0 ≤ bounds.length := by
    simp only [stop] at hhigh
    omega
  have hfull : (expand ⟨p, 0⟩ before after).clamp bounds =
      between (max (p - before) bounds.start) (min (p + after) bounds.stop) := by
    rw [clamp_eq_between _ h]
    simp only [expand, stop, between, mk.injEq] at *
    omega
  have hcontent : ((expand ⟨p, 0⟩ before after).clamp bounds).inset before after =
      ⟨max p (bounds.start + before), 0⟩ := by
    rw [hfull]
    simp only [inset, between, mk.injEq]
    omega
  rw [confined, hcontent, clamp_point (by omega) h]
  simp only [mk.injEq, and_true]
  omega

theorem confined_clamp_inset (hb : 0 ≤ before) (ha : 0 ≤ after) (h : 0 ≤ bounds.length)
    {full : Span} (hw : full.Within bounds) (hn : 0 ≤ full.length) :
    ((full.inset before after).clamp bounds).confined before after bounds =
      (full.inset before after).clamp bounds := by
  by_cases hroom : before + after ≤ full.length
  · have hinside : (full.inset before after).Within bounds := by
      simp only [Within, inset, stop] at *
      omega
    have hfull : (full.inset before after).expand before after = full := by
      cases full
      simp only [inset, expand, mk.injEq] at *
      omega
    have hcontent : (full.inset before after).clamp bounds = full.inset before after :=
      clamp_of_within hinside (Int.le_max_left _ _)
    rw [hcontent, confined, hfull, clamp_of_within hw hn, hcontent]
  · -- The content is empty, at the start of the full span moved in by the border.
    obtain ⟨hstart, hstop⟩ := hw
    have hempty : full.inset before after = ⟨full.start + before, 0⟩ := by
      simp only [inset, mk.injEq, true_and]
      omega
    rw [hempty, clamp_point (by omega) h]
    apply confined_point hb ha
    all_goals
      simp only [stop] at *
      omega

theorem confined_confined (hb : 0 ≤ before) (ha : 0 ≤ after) (h : 0 ≤ bounds.length) (s : Span) :
    (s.confined before after bounds).confined before after bounds =
      s.confined before after bounds :=
  confined_clamp_inset hb ha h (clamp_within _ h) (length_clamp_nonneg _ _)

end Span

/-! ## Confined boxes -/

namespace Box

variable {m : Border} {usable : Box}

/-- The content box that a window with decorations is left with when it is alone: its full box is
cut down to the usable area, and so is the content box that this leaves. -/
def confined (b : Box) (m : Border) (usable : Box) : Box :=
  (((b.expand m).clamp usable).inset m).clamp usable

theorem confined_eq_ofSpans (b : Box) (m : Border) (usable : Box) : b.confined m usable =
    ofSpans (b.xs.confined m.left m.right usable.xs) (b.ys.confined m.top m.bottom usable.ys) :=
  rfl

/-- **A confined box is not changed by confining it again.** -/
theorem confined_confined (hm : m.Nonneg) (hu : usable.Nonneg) (b : Box) :
    (b.confined m usable).confined m usable = b.confined m usable := by
  obtain ⟨hl, ht, hr, hb⟩ := hm
  simp only [confined_eq_ofSpans, xs_ofSpans, ys_ofSpans]
  rw [Span.confined_confined hl hr hu.1, Span.confined_confined ht hb hu.2]

/-- Confining a window loses no part of its full box but what is cut off. -/
theorem within_expand_confined (hm : m.Nonneg) (hu : usable.Nonneg) (b : Box) :
    ((b.expand m).clamp usable).Within ((b.confined m usable).expand m) := by
  obtain ⟨hl, ht, hr, hb⟩ := hm
  exact ⟨Span.within_expand_confined hl hr hu.1 b.xs, Span.within_expand_confined ht hb hu.2 b.ys⟩

theorem confined_inset (hm : m.Nonneg) {full : Box} (hw : full.Within usable)
    (hwidth : m.horizontal ≤ full.width) (hheight : m.vertical ≤ full.height)
    (hn : full.Nonneg) : (full.inset m).confined m usable = full.inset m := by
  rw [confined, expand_inset hwidth hheight, clamp_of_within hw hn]
  exact clamp_of_within ((inset_within hm hwidth hheight).trans hw) (nonneg_inset _ _)

end Box

end WindowTiling
