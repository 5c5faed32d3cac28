import WindowTiling.Geometry.Span

/-!
# Boxes and borders

An axis-aligned rectangle in layout coordinates, given by its near corner and its size, all
arbitrary integers. A window's *content box* excludes its decorations; expanding it by the
decoration border gives the *full box* that takes part in the layout.

Main facts: `mem_clamp` (clamping is intersection), `clamp_within`, `clamp_of_within` and
`clamp_clamp` (clamping again changes nothing).
-/

namespace WindowTiling

/-- Decoration thickness around a content box. -/
structure Border where
  left : Int := 0
  top : Int := 0
  right : Int := 0
  bottom : Int := 0
  deriving DecidableEq, Repr, Inhabited

namespace Border

def horizontal (b : Border) : Int := b.left + b.right

def vertical (b : Border) : Int := b.top + b.bottom

/-- No side has a negative thickness. -/
def Nonneg (b : Border) : Prop := 0 ≤ b.left ∧ 0 ≤ b.top ∧ 0 ≤ b.right ∧ 0 ≤ b.bottom

end Border

/-- An axis-aligned rectangle. -/
structure Box where
  x : Int := 0
  y : Int := 0
  width : Int := 0
  height : Int := 0
  deriving DecidableEq, Repr, Inhabited

namespace Box

/-- The extent along the horizontal axis. -/
def xs (b : Box) : Span := ⟨b.x, b.width⟩

/-- The extent along the vertical axis. -/
def ys (b : Box) : Span := ⟨b.y, b.height⟩

/-- The box with the given extents. -/
def ofSpans (xs ys : Span) : Box := ⟨xs.start, ys.start, xs.length, ys.length⟩

@[simp] theorem xs_ofSpans (a b : Span) : (ofSpans a b).xs = a := rfl

@[simp] theorem ys_ofSpans (a b : Span) : (ofSpans a b).ys = b := rfl

@[simp] theorem ofSpans_xs_ys (b : Box) : ofSpans b.xs b.ys = b := rfl

def right (b : Box) : Int := b.x + b.width

def bottom (b : Box) : Int := b.y + b.height

def area (b : Box) : Int := b.width * b.height

/-- The box with the given edges. -/
def ofEdges (left top right bottom : Int) : Box := ⟨left, top, right - left, bottom - top⟩

@[simp] theorem right_ofEdges (l t r b : Int) : (ofEdges l t r b).right = r := by
  simp only [ofEdges, right]; omega

@[simp] theorem bottom_ofEdges (l t r b : Int) : (ofEdges l t r b).bottom = b := by
  simp only [ofEdges, bottom]; omega

/-- No width or no height is left. -/
def IsEmpty (b : Box) : Prop := b.width ≤ 0 ∨ b.height ≤ 0

instance (b : Box) : Decidable b.IsEmpty :=
  inferInstanceAs (Decidable (b.width ≤ 0 ∨ b.height ≤ 0))

/-- Neither the width nor the height is negative. -/
def Nonneg (b : Box) : Prop := 0 ≤ b.width ∧ 0 ≤ b.height

instance (b : Box) : Decidable b.Nonneg :=
  inferInstanceAs (Decidable (0 ≤ b.width ∧ 0 ≤ b.height))

/-! ## Decorations -/

/-- Grow outward by a border: from a content box to its full box. -/
def expand (b : Box) (m : Border) : Box :=
  ⟨b.x - m.left, b.y - m.top, b.width + m.horizontal, b.height + m.vertical⟩

/-- Shrink inward by a border: from a full box to its content box. Sizes stop at zero. -/
def inset (b : Box) (m : Border) : Box :=
  ⟨b.x + m.left, b.y + m.top, max 0 (b.width - m.horizontal), max 0 (b.height - m.vertical)⟩

theorem nonneg_inset (b : Box) (m : Border) : (b.inset m).Nonneg := by
  simp only [Nonneg, inset]; omega

/-- A box at least as large as its border comes back from `inset` by `expand`. -/
theorem expand_inset {b : Box} {m : Border} (hw : m.horizontal ≤ b.width)
    (hh : m.vertical ≤ b.height) : (b.inset m).expand m = b := by
  cases b
  simp only [inset, expand, mk.injEq] at *
  omega

/-! ## Points, overlap and containment -/

/-- The unit cell at `p` lies in the box. An empty box has no cells. -/
def Mem (b : Box) (p : Int × Int) : Prop := p.1 ∈ b.xs ∧ p.2 ∈ b.ys

instance : Membership (Int × Int) Box := ⟨Mem⟩

theorem mem_def {b : Box} {p : Int × Int} : p ∈ b ↔ p.1 ∈ b.xs ∧ p.2 ∈ b.ys := Iff.rfl

/-- No unit cell lies in both boxes. -/
def Disjoint (a b : Box) : Prop := ∀ p : Int × Int, ¬ (p ∈ a ∧ p ∈ b)

/-- The extents overlap along both axes. -/
def Overlaps (a b : Box) : Prop := a.xs.Overlaps b.xs ∧ a.ys.Overlaps b.ys

instance (a b : Box) : Decidable (a.Overlaps b) :=
  inferInstanceAs (Decidable (a.xs.Overlaps b.xs ∧ a.ys.Overlaps b.ys))

theorem Overlaps.symm {a b : Box} (h : a.Overlaps b) : b.Overlaps a := ⟨h.1.symm, h.2.symm⟩

/-- Boxes that do not overlap share no cell. -/
theorem disjoint_of_not_overlaps {a b : Box} (h : ¬ a.Overlaps b) : Disjoint a b := by
  rintro p ⟨⟨ha₁, ha₂⟩, hb₁, hb₂⟩
  simp only [Span.mem_def] at ha₁ ha₂ hb₁ hb₂
  exact h ⟨⟨by omega, by omega⟩, by omega, by omega⟩

/-- `inner` lies between the edges of `outer` on both axes. -/
def Within (inner outer : Box) : Prop := inner.xs.Within outer.xs ∧ inner.ys.Within outer.ys

instance (a b : Box) : Decidable (a.Within b) :=
  inferInstanceAs (Decidable (a.xs.Within b.xs ∧ a.ys.Within b.ys))

/-- The smallest box covering both. -/
def union (a b : Box) : Box := ofSpans (a.xs.hull b.xs) (a.ys.hull b.ys)

/-- The smallest box covering all boxes of a list; none for the empty list. -/
def bounding : List Box → Option Box
  | [] => none
  | b :: bs => some (bs.foldl union b)

/-! ## Clamping -/

/-- Cut a box down to its bounds, axis by axis. -/
def clamp (b bounds : Box) : Box := ofSpans (b.xs.clamp bounds.xs) (b.ys.clamp bounds.ys)

theorem nonneg_clamp (b bounds : Box) : (b.clamp bounds).Nonneg :=
  ⟨Span.length_clamp_nonneg b.xs bounds.xs, Span.length_clamp_nonneg b.ys bounds.ys⟩

/-- **Clamping is intersection.** -/
theorem mem_clamp {b bounds : Box} {p : Int × Int} : p ∈ b.clamp bounds ↔ p ∈ b ∧ p ∈ bounds := by
  simp only [mem_def, clamp, xs_ofSpans, ys_ofSpans, Span.mem_clamp]
  exact ⟨fun h => ⟨⟨h.1.1, h.2.1⟩, h.1.2, h.2.2⟩, fun h => ⟨⟨h.1.1, h.2.1⟩, h.1.2, h.2.2⟩⟩

theorem clamp_within (b : Box) {bounds : Box} (h : bounds.Nonneg) :
    (b.clamp bounds).Within bounds :=
  ⟨Span.clamp_within b.xs h.1, Span.clamp_within b.ys h.2⟩

theorem clamp_of_within {b bounds : Box} (h : b.Within bounds) (hb : b.Nonneg) :
    b.clamp bounds = b := by
  simp only [clamp, Span.clamp_of_within h.1 hb.1, Span.clamp_of_within h.2 hb.2, ofSpans_xs_ys]

/-- Clamping again to the same bounds changes nothing. -/
theorem clamp_clamp (b : Box) {bounds : Box} (h : bounds.Nonneg) :
    (b.clamp bounds).clamp bounds = b.clamp bounds :=
  clamp_of_within (clamp_within b h) (nonneg_clamp b bounds)

/-! ## Text -/

/-- Size and position, as boxes are written in messages. -/
def text (b : Box) : String := s!"Box({b.width}x{b.height}+{b.x}+{b.y})"

end Box

end WindowTiling
