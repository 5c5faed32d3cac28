import WindowTiling.Geometry.Side
import WindowTiling.Tile

/-!
# Boxes by their edges

Containment, overlap and membership as inequalities between edges, which is the form in which
linear arithmetic settles them, and what insetting and clamping do to the edges of a box.

The two notions of being apart differ on empty boxes. A box of no width can overlap another one
without sharing a cell with it, so not overlapping is the stronger of the two and is what the layout
keeps as long as it can; only cells count for what is seen on the screen.
-/

namespace WindowTiling

namespace Box

/-! ## Edges -/

theorem within_iff {a b : Box} : a.Within b ↔
    (b.x ≤ a.x ∧ a.right ≤ b.right) ∧ b.y ≤ a.y ∧ a.bottom ≤ b.bottom := Iff.rfl

theorem overlaps_iff {a b : Box} : a.Overlaps b ↔
    (a.x < b.right ∧ b.x < a.right) ∧ a.y < b.bottom ∧ b.y < a.bottom := Iff.rfl

theorem mem_iff {b : Box} {p : Int × Int} : p ∈ b ↔
    (b.x ≤ p.1 ∧ p.1 < b.right) ∧ b.y ≤ p.2 ∧ p.2 < b.bottom := Iff.rfl

theorem nonneg_iff {b : Box} : b.Nonneg ↔ b.x ≤ b.right ∧ b.y ≤ b.bottom := by
  simp only [Nonneg, right, bottom]; omega

@[simp] theorem x_ofEdges (l t r b : Int) : (ofEdges l t r b).x = l := rfl

@[simp] theorem y_ofEdges (l t r b : Int) : (ofEdges l t r b).y = t := rfl

theorem Within.refl (b : Box) : b.Within b :=
  ⟨⟨Int.le_refl _, Int.le_refl _⟩, Int.le_refl _, Int.le_refl _⟩

theorem Within.trans {a b c : Box} (h : a.Within b) (h' : b.Within c) : a.Within c := by
  rw [within_iff] at *
  omega

theorem area_le_of_within {a b : Box} (h : a.Within b) (ha : a.Nonneg) : a.area ≤ b.area := by
  obtain ⟨hw, hh⟩ := ha
  rw [within_iff] at h
  simp only [right, bottom] at h
  have hwidth : a.width ≤ b.width := by omega
  have hheight : a.height ≤ b.height := by omega
  exact Int.mul_le_mul hwidth hheight hh (Int.le_trans hw hwidth)

/-! ## Cells -/

theorem mem_of_within {a b : Box} {p : Int × Int} (h : a.Within b) (hp : p ∈ a) : p ∈ b := by
  rw [within_iff] at h
  rw [mem_iff] at *
  omega

theorem Disjoint.of_within {a b c : Box} (h : b.Disjoint c) (ha : a.Within b) : a.Disjoint c :=
  fun p hp => h p ⟨mem_of_within ha hp.1, hp.2⟩

theorem overlaps_of_mem {a b : Box} {p : Int × Int} (ha : p ∈ a) (hb : p ∈ b) : a.Overlaps b := by
  rw [mem_iff] at ha hb
  rw [overlaps_iff]
  omega

theorem not_overlaps_of_within {a b c : Box} (h : ¬ a.Overlaps b) (hc : c.Within b) :
    ¬ a.Overlaps c := by
  rw [within_iff] at hc
  rw [overlaps_iff] at *
  omega

/-! ## Decorations -/

theorem mem_of_mem_inset {b : Box} {m : Border} (hm : m.Nonneg) {p : Int × Int}
    (hp : p ∈ b.inset m) : p ∈ b := by
  obtain ⟨hl, ht, hr, hb⟩ := hm
  simp only [mem_iff, inset, right, bottom, Border.horizontal, Border.vertical] at *
  omega

theorem mem_expand_of_mem {b : Box} {m : Border} (hm : m.Nonneg) {p : Int × Int}
    (hp : p ∈ b) : p ∈ b.expand m := by
  obtain ⟨hl, ht, hr, hb⟩ := hm
  simp only [mem_iff, expand, right, bottom, Border.horizontal, Border.vertical] at *
  omega

theorem within_expand (b : Box) {m : Border} (hm : m.Nonneg) : b.Within (b.expand m) := by
  obtain ⟨hl, ht, hr, hb⟩ := hm
  simp only [within_iff, expand, right, bottom, Border.horizontal, Border.vertical]
  omega

theorem nonneg_expand {b : Box} {m : Border} (hb : b.Nonneg) (hm : m.Nonneg) :
    (b.expand m).Nonneg := by
  obtain ⟨hw, hh⟩ := hb
  obtain ⟨hl, ht, hr, hb⟩ := hm
  simp only [Nonneg, expand, Border.horizontal, Border.vertical]
  omega

theorem inset_within {b : Box} {m : Border} (hm : m.Nonneg) (hw : m.horizontal ≤ b.width)
    (hh : m.vertical ≤ b.height) : (b.inset m).Within b := by
  obtain ⟨hl, ht, hr, hb⟩ := hm
  simp only [within_iff, inset, right, bottom, Border.horizontal, Border.vertical] at *
  omega

/-- Cutting down to bounds of proper size moves no edge further than to the edge of the bounds. -/
theorem edges_clamp (b : Box) {bounds : Box} (h : bounds.Nonneg) :
    ((b.clamp bounds).x ≤ max b.x bounds.x ∧
        min b.right bounds.right ≤ (b.clamp bounds).right) ∧
      (b.clamp bounds).y ≤ max b.y bounds.y ∧
        min b.bottom bounds.bottom ≤ (b.clamp bounds).bottom := by
  obtain ⟨hw, hh⟩ := h
  simp only [clamp, ofSpans, Span.clamp, Span.stop, xs, ys, right, bottom]
  omega

theorem border_lt_of_mem_inset {b : Box} {m : Border} {p : Int × Int} (hp : p ∈ b.inset m) :
    m.horizontal < b.width ∧ m.vertical < b.height := by
  simp only [mem_iff, inset, right, bottom] at hp
  omega

end Box

namespace Tile

theorem contentOf_within (t : Tile) (full : Box) {usable : Box} (h : usable.Nonneg) :
    (t.contentOf full usable).Within usable := Box.clamp_within _ h

theorem nonneg_contentOf (t : Tile) (full usable : Box) : (t.contentOf full usable).Nonneg :=
  Box.nonneg_clamp _ _

/-- The cells of the content that a full box leaves lie in the full box and in the usable area. -/
theorem mem_contentOf {t : Tile} (hm : t.margins.Nonneg) {full usable : Box} {p : Int × Int}
    (hp : p ∈ t.contentOf full usable) : p ∈ full ∧ p ∈ usable :=
  ⟨Box.mem_of_mem_inset hm (Box.mem_clamp.1 hp).1, (Box.mem_clamp.1 hp).2⟩

theorem contentOf_of_within {t : Tile} (hm : t.margins.Nonneg) {full usable : Box}
    (h : full.Within usable) (hw : t.margins.horizontal ≤ full.width)
    (hh : t.margins.vertical ≤ full.height) : t.contentOf full usable = full.inset t.margins :=
  Box.clamp_of_within ((Box.inset_within hm hw hh).trans h) (Box.nonneg_inset _ _)

end Tile

end WindowTiling
