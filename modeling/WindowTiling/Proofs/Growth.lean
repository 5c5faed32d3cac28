import Mathlib.Data.List.Nodup
import WindowTiling.Proofs.FillRounds

/-!
# What filling does to one window

A round gives a window at most one new box, grown from its full box and seen against an occupied box
that covers the full boxes of all windows of the region. Once a window has been given a box with
a cell in it, its full box lies in the usable area and is at least as large as its decorations; from
then on it only grows. A window that fits from the start behaves so in every round.

A box that fits and is clear of another one stays clear of it while it grows, as long as that other
one is thicker than the gap and the tolerance: an edge moves only if it is near the border of the
occupied box, and so it cannot jump over a thick box inside.

Main facts: `grow_spec` (the edges of a grown box), `round_cases` (one round), `run_induction`
(what every round keeps, the rounds keep), `mem_filled_of_mem` (a cell once covered stays covered)
and `Clear.filled` (a thick window that is left alone stays clear).
-/

namespace WindowTiling

/-! ## The occupied box -/

namespace Box

theorem within_union_left (a b : Box) : a.Within (a.union b) := by
  simp only [within_iff, union, ofSpans, Span.hull, Span.between, xs, ys, right, bottom, Span.stop]
  omega

theorem within_union_right (a b : Box) : b.Within (a.union b) := by
  simp only [within_iff, union, ofSpans, Span.hull, Span.between, xs, ys, right, bottom, Span.stop]
  omega

theorem within_foldl_union (bs : List Box) (a : Box) :
    a.Within (bs.foldl union a) ∧ ∀ b ∈ bs, b.Within (bs.foldl union a) := by
  induction bs generalizing a with
  | nil => exact ⟨Within.refl a, fun b hb => absurd hb List.not_mem_nil⟩
  | cons c bs ih =>
    obtain ⟨hac, hbs⟩ := ih (a.union c)
    refine ⟨(within_union_left a c).trans hac, List.forall_mem_cons.2 ⟨?_, hbs⟩⟩
    exact (within_union_right a c).trans hac

theorem within_bounding {bs : List Box} {occupied : Box} (h : bounding bs = some occupied) :
    ∀ b ∈ bs, b.Within occupied := by
  cases bs with
  | nil => exact fun b hb => absurd hb List.not_mem_nil
  | cons a bs =>
    obtain rfl := Option.some.inj h
    obtain ⟨ha, hbs⟩ := within_foldl_union bs a
    exact List.forall_mem_cons.2 ⟨ha, hbs⟩

end Box

/-! ## Growing a box -/

section Grow

variable {gap : Int} {usable occupied full : Box}

/-- Where an edge goes: it stays, or it moves to `edge` from near the border of the occupied box. -/
theorem moved_cases {room t edge a b : Int} :
    (if gap < room ∧ Near t a b then edge else a) = a ∨
      (if gap < room ∧ Near t a b then edge else a) = edge ∧ gap < room ∧ Near t a b := by
  by_cases h : gap < room ∧ Near t a b
  · exact .inr ⟨if_pos h, h⟩
  · exact .inl (if_neg h)

theorem grow_eq (gap : Int) (usable occupied full : Box) : ∃ l t r b,
    grow gap usable occupied full = (Box.ofEdges l t r b).clamp usable ∧
      (l = full.x ∨ l = usable.x + gap ∧ gap < freeSpace occupied usable .left ∧
        Near (gap + edgeTolerance) full.x occupied.x) ∧
      (t = full.y ∨ t = usable.y + gap ∧ gap < freeSpace occupied usable .top ∧
        Near (gap + edgeTolerance) full.y occupied.y) ∧
      (r = full.right ∨ r = usable.right - gap ∧ gap < freeSpace occupied usable .right ∧
        Near (gap + edgeTolerance) full.right occupied.right) ∧
      (b = full.bottom ∨ b = usable.bottom - gap ∧ gap < freeSpace occupied usable .bottom ∧
        Near (gap + edgeTolerance) full.bottom occupied.bottom) :=
  ⟨_, _, _, _, rfl, moved_cases, moved_cases, moved_cases, moved_cases⟩

/-- **The edges of a grown box.** A box inside the usable area and the occupied box is not cut by
the clamping: each edge stays, or it moves outward to the gap inside the usable edge, which happens
only if it is near the border of the occupied box. -/
theorem grow_spec (hg : 0 ≤ gap) (hw : full.Within usable) (hn : full.Nonneg)
    (ho : full.Within occupied) :
    let grown := grow gap usable occupied full
    (grown.Within usable ∧ full.Within grown) ∧
      (grown.x = full.x ∨ full.x - occupied.x ≤ gap + edgeTolerance) ∧
      (grown.y = full.y ∨ full.y - occupied.y ≤ gap + edgeTolerance) ∧
      (grown.right = full.right ∨ occupied.right - full.right ≤ gap + edgeTolerance) ∧
      (grown.bottom = full.bottom ∨ occupied.bottom - full.bottom ≤ gap + edgeTolerance) := by
  intro grown
  rw [Box.within_iff] at hw ho
  rw [Box.nonneg_iff] at hn
  obtain ⟨l, t, r, b, hgrown, hl, ht, hr, hb⟩ := grow_eq gap usable occupied full
  simp only [freeSpace, Near] at hl ht hr hb
  -- The grown edges stay inside the usable area and in order, so that the clamping cuts nothing
  -- off.
  have hin : (Box.ofEdges l t r b).Within usable := by
    simp only [Box.within_iff, Box.x_ofEdges, Box.y_ofEdges, Box.right_ofEdges, Box.bottom_ofEdges]
    omega
  have hnn : (Box.ofEdges l t r b).Nonneg := by
    simp only [Box.nonneg_iff, Box.x_ofEdges, Box.y_ofEdges, Box.right_ofEdges, Box.bottom_ofEdges]
    omega
  rw [show grown = _ from hgrown, Box.clamp_of_within hin hnn]
  refine ⟨⟨hin, ?_⟩, ?_, ?_, ?_, ?_⟩
  · simp only [Box.within_iff, Box.x_ofEdges, Box.y_ofEdges, Box.right_ofEdges, Box.bottom_ofEdges]
    omega
  · exact hl.imp id fun h => h.2.2.1
  · exact ht.imp id fun h => h.2.2.1
  · rw [Box.right_ofEdges]
    exact hr.imp id fun h => h.2.2.2
  · rw [Box.bottom_ofEdges]
    exact hb.imp id fun h => h.2.2.2

theorem not_overlaps_grow (hg : 0 ≤ gap) (hw : full.Within usable) (hn : full.Nonneg)
    (ho : full.Within occupied) {b : Box} (hb : b.Within occupied)
    (hwidth : gap + edgeTolerance < b.width) (hheight : gap + edgeTolerance < b.height)
    (hclear : ¬ full.Overlaps b) : ¬ (grow gap usable occupied full).Overlaps b := by
  obtain ⟨-, hl, ht, hr, hb'⟩ := grow_spec hg hw hn ho
  rw [Box.within_iff] at ho hb
  rw [Box.overlaps_iff] at *
  simp only [Box.right, Box.bottom] at *
  omega

end Grow

/-! ## Growing a window -/

namespace Tile

/-- The full box lies in the usable area, around a proper content box. -/
structure Fits (t : Tile) (usable : Box) : Prop where
  nonneg : t.box.Nonneg
  within : t.full.Within usable

instance (t : Tile) (usable : Box) : Decidable (t.Fits usable) :=
  decidable_of_iff (t.box.Nonneg ∧ t.full.Within usable) ⟨fun h => ⟨h.1, h.2⟩, fun h => ⟨h.1, h.2⟩⟩

variable {t : Tile} {gap : Int} {usable occupied : Box}

theorem Fits.border_le (h : t.Fits usable) :
    t.margins.horizontal ≤ t.full.width ∧ t.margins.vertical ≤ t.full.height := by
  obtain ⟨⟨hw, hh⟩, -⟩ := h
  simp only [full, Box.expand]
  omega

theorem Fits.nonneg_full (h : t.Fits usable) (hm : t.margins.Nonneg) : t.full.Nonneg :=
  Box.nonneg_expand h.1 hm

theorem fits_of_border_le (hm : t.margins.Nonneg) {full : Box} (hw : full.Within usable)
    (hh : t.margins.horizontal ≤ full.width) (hv : t.margins.vertical ≤ full.height) :
    t.contentOf full usable = full.inset t.margins ∧
      Tile.full { t with box := t.contentOf full usable } = full ∧
      Tile.Fits { t with box := t.contentOf full usable } usable := by
  have hc := contentOf_of_within hm hw hh hv
  have hfull : Tile.full { t with box := t.contentOf full usable } = full := by
    show (t.contentOf full usable).expand t.margins = full
    rw [hc]
    exact Box.expand_inset hh hv
  exact ⟨hc, hfull, t.nonneg_contentOf full usable, by rwa [hfull]⟩

theorem fits_of_mem_contentOf (hm : t.margins.Nonneg) {full : Box} (hw : full.Within usable)
    {x : Int × Int} (hx : x ∈ t.contentOf full usable) :
    Tile.Fits { t with box := t.contentOf full usable } usable := by
  have hlt := Box.border_lt_of_mem_inset (Box.mem_clamp.1 hx).1
  exact (fits_of_border_le hm hw (Int.le_of_lt hlt.1) (Int.le_of_lt hlt.2)).2.2

/-- **A window that fits only grows**, and fits again. -/
theorem Fits.grow (h : t.Fits usable) (hm : t.margins.Nonneg) (hg : 0 ≤ gap)
    (ho : t.full.Within occupied) :
    let grown := WindowTiling.grow gap usable occupied t.full
    Tile.full { t with box := t.contentOf grown usable } = grown ∧
      Tile.Fits { t with box := t.contentOf grown usable } usable ∧
      t.box.Within (t.contentOf grown usable) := by
  intro grown
  obtain ⟨hw, hv⟩ := h.border_le
  obtain ⟨⟨hgw, hgrow⟩, -⟩ : (grown.Within usable ∧ t.full.Within grown) ∧ _ :=
    grow_spec hg h.within (h.nonneg_full hm) ho
  have hsize : t.full.width ≤ grown.width ∧ t.full.height ≤ grown.height := by
    rw [Box.within_iff] at hgrow
    simp only [Box.right, Box.bottom] at hgrow
    omega
  obtain ⟨hc, hfull, hfits⟩ := fits_of_border_le hm hgw
    (Int.le_trans hw hsize.1) (Int.le_trans hv hsize.2)
  refine ⟨hfull, hfits, ?_⟩
  rw [hc]
  rw [Box.within_iff] at *
  simp only [Tile.full, Box.expand, Box.inset, Box.right, Box.bottom, Border.horizontal,
    Border.vertical] at *
  omega

end Tile

/-! ## One round -/

section Round

variable {gap : Int} {skip : Option WindowRef}

theorem mem_fillFrom {usable occupied : Box} {ts : List Tile} {p : Placement}
    (hp : p ∈ fillFrom gap skip usable occupied ts) :
    ∃ t ∈ ts, ∃ o, occupied.Within o ∧ skip ≠ some t.window ∧
      p = ⟨t.window, t.contentOf (grow gap usable o t.full) usable⟩ := by
  induction ts generalizing occupied with
  | nil => exact absurd hp List.not_mem_nil
  | cons t ts ih =>
    simp only [fillFrom] at hp
    split at hp
    · obtain ⟨u, hu, hrest⟩ := ih hp
      exact ⟨u, List.mem_cons_of_mem t hu, hrest⟩
    · next hskip =>
      split at hp
      · obtain ⟨u, hu, hrest⟩ := ih hp
        exact ⟨u, List.mem_cons_of_mem t hu, hrest⟩
      · rcases List.mem_cons.1 hp with rfl | hp
        · exact ⟨t, List.mem_cons_self, occupied, Box.Within.refl _, hskip, rfl⟩
        · obtain ⟨u, hu, o, ho, hrest⟩ := ih hp
          exact ⟨u, List.mem_cons_of_mem t hu, o, (Box.within_union_left _ _).trans ho, hrest⟩

theorem sublist_fillFrom {usable occupied : Box} {ts : List Tile} :
    ((fillFrom gap skip usable occupied ts).map (·.window)).Sublist (ts.map (·.window)) := by
  induction ts generalizing occupied with
  | nil => exact List.Sublist.refl _
  | cons t ts ih =>
    simp only [fillFrom]
    split
    · exact ih.cons _
    · split
      · exact ih.cons _
      · exact ih.cons_cons _

variable {r : Region}

/-- What a round places is grown against a box that covers all windows of the region. -/
theorem mem_fillRegion {p : Placement} (hp : p ∈ fillRegion gap skip r) :
    ∃ t ∈ r.tiles, ∃ o, (∀ u ∈ r.tiles, u.full.Within o) ∧ skip ≠ some t.window ∧
      p = ⟨t.window, t.contentOf (grow gap r.usable o t.full) r.usable⟩ := by
  simp only [fillRegion] at hp
  split at hp
  · exact absurd hp List.not_mem_nil
  · next occupied hb =>
    split at hp
    · exact absurd hp List.not_mem_nil
    · obtain ⟨t, ht, o, ho, hrest⟩ := mem_fillFrom hp
      refine ⟨t, ht, o, fun u hu => ?_, hrest⟩
      exact (Box.within_bounding hb _ (List.mem_map_of_mem hu)).trans ho

theorem nodup_fillRegion (hn : (r.tiles.map (·.window)).Nodup) :
    ((fillRegion gap skip r).map (·.window)).Nodup := by
  simp only [fillRegion]
  split
  · exact List.nodup_nil
  · split
    · exact List.nodup_nil
    · exact hn.sublist sublist_fillFrom

/-- **What a round does to a window**: it leaves it alone or gives it one grown box. -/
theorem round_cases (hn : (r.tiles.map (·.window)).Nodup) {t : Tile} (ht : t ∈ r.tiles) :
    boxAfter (fillRegion gap skip r) t.window t.box = t.box ∨
      ∃ o, (∀ u ∈ r.tiles, u.full.Within o) ∧ skip ≠ some t.window ∧
        boxAfter (fillRegion gap skip r) t.window t.box =
          t.contentOf (grow gap r.usable o t.full) r.usable := by
  by_cases hp : ∃ p ∈ fillRegion gap skip r, p.window = t.window
  · right
    obtain ⟨p, hp, hpw, hbox⟩ := boxAfter_mem hp t.box
    obtain ⟨u, hu, o, ho, hskip, rfl⟩ := mem_fillRegion hp
    obtain rfl : u = t := List.inj_on_of_nodup_map hn hu ht hpw
    exact ⟨o, ho, hskip, hbox⟩
  · exact .inl (boxAfter_of_forall_ne (fun p hmem hpw => hp ⟨p, hmem, hpw⟩) _)

end Round

/-! ## All rounds -/

/-- Each window is on the region once, no decoration is negative, and neither is the usable area. -/
structure Region.Sane (r : Region) : Prop where
  nodup : (r.tiles.map (·.window)).Nodup
  margins : ∀ t ∈ r.tiles, t.margins.Nonneg
  nonneg : r.usable.Nonneg

namespace Region

variable {r : Region} {gap : Int} {skip : Option WindowRef}

theorem mem_placeAll_iff {ps : List Placement} {t : Tile} : t ∈ (r.placeAll ps).tiles ↔
    ∃ u ∈ r.tiles, { u with box := boxAfter ps u.window u.box } = t := by
  simp only [placeAll, placeAll_eq_map, List.mem_map]

theorem Sane.placeAll (h : r.Sane) (ps : List Placement) : (r.placeAll ps).Sane where
  nodup := (map_window_placeAll r ps).symm ▸ h.nodup
  margins t ht := by
    obtain ⟨u, hu, rfl⟩ := mem_placeAll_iff.1 ht
    exact h.margins u hu
  nonneg := h.nonneg

/-- What every round keeps, the rounds keep. -/
theorem run_induction {P : Region → Prop}
    (hstep : ∀ r : Region, P r → P (r.placeAll (fillRegion gap skip r))) (n : Nat) {f : Filling}
    (h : P f.region) : P (f.region.placeAll (f.run gap skip n)) := by
  induction n generalizing f with
  | zero => exact h
  | succ n ih =>
    rw [Filling.run, placeAll_append]
    refine ih (f := f.next gap skip) ?_
    show P (f.region.placeAll (f.placements gap skip))
    rw [Filling.placements]
    split
    · exact h
    · exact hstep f.region h

/-- A window covers a cell and fits. -/
def Covers (r : Region) (w : WindowRef) (x : Int × Int) : Prop :=
  ∃ t ∈ r.tiles, t.window = w ∧ t.Fits r.usable ∧ x ∈ t.box

theorem Covers.round (hg : 0 ≤ gap) (hs : r.Sane) {w : WindowRef} {x : Int × Int}
    (h : r.Covers w x) : (r.placeAll (fillRegion gap skip r)).Covers w x := by
  obtain ⟨t, ht, rfl, hfits, hx⟩ := h
  refine ⟨_, mem_placeAll_iff.2 ⟨t, ht, rfl⟩, rfl, ?_⟩
  rcases @round_cases gap skip r hs.nodup t ht with hsame | ⟨o, ho, -, hgrown⟩
  · rw [hsame]
    exact ⟨hfits, hx⟩
  · obtain ⟨-, hfits', hbox⟩ := hfits.grow (hs.margins t ht) hg (ho t ht)
    rw [hgrown]
    exact ⟨hfits', Box.mem_of_within hbox hx⟩

/-- A window that a round gives a cell covers it and fits after the round. -/
theorem covers_of_mem_fillRegion (hs : r.Sane) {p : Placement}
    (hp : p ∈ fillRegion gap skip r) {x : Int × Int} (hx : x ∈ p.box) :
    (r.placeAll (fillRegion gap skip r)).Covers p.window x := by
  have hbox := fun b => boxAfter_of_mem (nodup_fillRegion hs.nodup) hp b
  obtain ⟨t, ht, o, -, -, rfl⟩ := mem_fillRegion hp
  refine ⟨_, mem_placeAll_iff.2 ⟨t, ht, rfl⟩, rfl, ?_⟩
  rw [hbox]
  exact ⟨Tile.fits_of_mem_contentOf (hs.margins t ht) (Box.clamp_within _ hs.nonneg) hx, hx⟩

theorem covers_of_mem_run (hg : 0 ≤ gap) {n : Nat} {f : Filling} (hs : f.region.Sane)
    {p : Placement} (hp : p ∈ f.run gap skip n) {x : Int × Int} (hx : x ∈ p.box) :
    (f.region.placeAll (f.run gap skip n)).Covers p.window x := by
  induction n generalizing f with
  | zero => exact absurd hp List.not_mem_nil
  | succ n ih =>
    rw [Filling.run, placeAll_append]
    rcases List.mem_append.1 hp with hp | hp
    · refine (run_induction (P := fun r => r.Sane ∧ r.Covers p.window x)
        (fun _ h => ⟨h.1.placeAll _, h.2.round hg h.1⟩) n (f := f.next gap skip)
        ⟨hs.placeAll _, ?_⟩).2
      show (f.region.placeAll (f.placements gap skip)).Covers p.window x
      rw [Filling.placements] at *
      split at hp
      · exact absurd hp List.not_mem_nil
      · next hsettled =>
        rw [if_neg hsettled]
        exact covers_of_mem_fillRegion hs hp hx
    · exact ih (f := f.next gap skip) (hs.placeAll _) hp

/-- **A cell that filling gives to a window stays with it.** -/
theorem mem_filled_of_mem (hg : 0 ≤ gap) (hs : r.Sane) {rounds : Nat} {t : Tile}
    (ht : t ∈ r.tiles) {p : Placement} (hp : p ∈ r.fillPlacements gap skip rounds)
    (hpt : p.window = t.window) {x : Int × Int} (hx : x ∈ p.box) :
    x ∈ boxAfter (r.fillPlacements gap skip rounds) t.window t.box := by
  obtain ⟨t', ht', htw, -, hx'⟩ := covers_of_mem_run hg (f := { region := r }) hs hp hx
  obtain ⟨u, hu, rfl⟩ := mem_placeAll_iff.1 ht'
  obtain rfl : u = t := List.inj_on_of_nodup_map hs.nodup hu ht (htw.trans hpt)
  exact hx'

/-- The full box of one window, and the others inside the usable area and clear of it. -/
structure Clear (r : Region) (w : WindowRef) (full : Box) : Prop where
  self : ∃ t ∈ r.tiles, t.window = w ∧ t.full = full
  others : ∀ t ∈ r.tiles, t.window ≠ w → t.Fits r.usable ∧ ¬ t.full.Overlaps full

theorem Clear.round (hg : 0 ≤ gap) (hs : r.Sane) {w : WindowRef} {full : Box}
    (hwidth : gap + edgeTolerance < full.width) (hheight : gap + edgeTolerance < full.height)
    (h : r.Clear w full) : (r.placeAll (fillRegion gap (some w) r)).Clear w full := by
  obtain ⟨⟨c, hc, rfl, rfl⟩, hothers⟩ := h
  constructor
  · refine ⟨_, mem_placeAll_iff.2 ⟨c, hc, rfl⟩, rfl, ?_⟩
    rcases @round_cases gap (some c.window) r hs.nodup c hc with hsame | ⟨o, -, hne, -⟩
    · rw [hsame]
    · exact absurd rfl hne
  · intro t' ht' hne
    obtain ⟨t, ht, rfl⟩ := mem_placeAll_iff.1 ht'
    obtain ⟨hfits, hclear⟩ := hothers t ht hne
    rcases @round_cases gap (some c.window) r hs.nodup t ht with hsame | ⟨o, ho, -, hgrown⟩
    · rw [hsame]
      exact ⟨hfits, hclear⟩
    · -- The occupied box covers the window left alone as well, and that one is too thick to be
      -- grown over.
      have hn := hfits.nonneg_full (hs.margins t ht)
      obtain ⟨hfull, hfits', -⟩ := hfits.grow (hs.margins t ht) hg (ho t ht)
      rw [hgrown]
      refine ⟨hfits', ?_⟩
      rw [hfull]
      exact not_overlaps_grow hg hfits.within hn (ho t ht) (ho c hc) hwidth hheight hclear

/-- **Windows do not grow over a window that is left alone**, if that one is thicker than the gap
and the tolerance. -/
theorem Clear.filled (hg : 0 ≤ gap) (hs : r.Sane) {w : WindowRef} {full : Box}
    (hwidth : gap + edgeTolerance < full.width) (hheight : gap + edgeTolerance < full.height)
    (h : r.Clear w full) (rounds : Nat) : (r.filled gap (some w) rounds).Clear w full :=
  (run_induction (P := fun r => r.Sane ∧ r.Clear w full)
    (fun _ h => ⟨h.1.placeAll _, h.2.round hg h.1 hwidth hheight⟩) rounds
    (f := { region := r }) ⟨hs, h⟩).2

end Region

end WindowTiling
