import WindowTiling.Proofs.FillSettling

/-!
# Filling keeps windows apart

A window may grow on several sides at once, and on sides where it is only near the border of the
occupied box. Something may lie between it and the border, which is then grown over.

**Theorem (`fill_keeps_apart`).** This does not happen to windows that are thicker than the gap and
the tolerance. If the full boxes of a region lie in its usable area, do not overlap, and are all
that thick, then filling keeps them so, with any number of rounds and whatever the other regions
are.

In a round the first window grows against the others as they are, and the others then grow against
it as it has become. So the induction over the windows of a round asks two things of one window at a
time: it does not grow over a box that stays (`not_overlaps_after`), and a box that has grown is
clear of the windows whose turn comes later and is still thick.
-/

namespace WindowTiling

/-- Wider and taller than the gap and the tolerance. -/
def Box.Thick (gap : Int) (b : Box) : Prop :=
  gap + edgeTolerance < b.width ∧ gap + edgeTolerance < b.height

instance (gap : Int) (b : Box) : Decidable (b.Thick gap) :=
  inferInstanceAs (Decidable (gap + edgeTolerance < b.width ∧ gap + edgeTolerance < b.height))

theorem Box.Thick.of_within {gap : Int} {a b : Box} (h : a.Thick gap) (hw : a.Within b) :
    b.Thick gap := by
  rw [Box.within_iff] at hw
  simp only [Box.Thick, Box.right, Box.bottom] at *
  omega

/-- The full boxes of the windows are thick, and those of different windows do not overlap. -/
structure Spread (gap : Int) (ts : List Tile) : Prop where
  thick : ∀ t ∈ ts, t.full.Thick gap
  clear : ∀ t ∈ ts, ∀ u ∈ ts, t.window ≠ u.window → ¬ t.full.Overlaps u.full

instance (gap : Int) (ts : List Tile) : Decidable (Spread gap ts) :=
  decidable_of_iff ((∀ t ∈ ts, t.full.Thick gap) ∧
      ∀ t ∈ ts, ∀ u ∈ ts, t.window ≠ u.window → ¬ t.full.Overlaps u.full)
    ⟨fun h => ⟨h.1, h.2⟩, fun h => ⟨h.1, h.2⟩⟩

theorem Spread.tail {gap : Int} {t : Tile} {ts : List Tile} (h : Spread gap (t :: ts)) :
    Spread gap ts where
  thick u hu := h.thick u (List.mem_cons_of_mem t hu)
  clear u hu v hv := h.clear u (List.mem_cons_of_mem t hu) v (List.mem_cons_of_mem t hv)

/-! ## One round -/

section Round

variable {gap : Int} {skip : Option WindowRef} {usable occupied : Box} {t : Tile} {ts : List Tile}

/-- **A window does not grow over a thick box** that is covered by the occupied box. -/
theorem not_overlaps_after (hg : 0 ≤ gap) (h : AllFit usable ts)
    (hw : ∀ u ∈ ts, u.full.Within occupied) {b : Box} (hb : b.Within occupied)
    (hthick : b.Thick gap) (ht : t ∈ ts) (hclear : ¬ t.full.Overlaps b) :
    ¬ (t.after (fillFrom gap skip usable occupied ts)).full.Overlaps b := by
  by_cases hp : ∃ p ∈ fillFrom gap skip usable occupied ts, p.window = t.window
  · obtain ⟨p, hp, hpt, hbox⟩ := boxAfter_mem hp t.box
    obtain ⟨u, hu, o, ho, -, rfl⟩ := mem_fillFrom hp
    obtain rfl : u = t := h.alike u hu t ht hpt
    have hwo : u.full.Within o := (hw u hu).trans ho
    have hm := h.margins u hu
    have hfit := h.fits u hu
    rw [Tile.after, hbox, (hfit.grow hm hg hwo).1]
    exact not_overlaps_grow hg hfit.within (hfit.nonneg_full hm) hwo (hb.trans ho) hthick.1
      hthick.2 hclear
  · rw [Tile.after_of_forall_ne fun p hmem hpt => hp ⟨p, hmem, hpt⟩]
    exact hclear

/-- **A round keeps windows apart.** -/
theorem Spread.clear_after (hg : 0 ≤ gap) (h : AllFit usable ts) (hs : Spread gap ts)
    (ho : occupied.Within usable) (hw : ∀ u ∈ ts, u.full.Within occupied) :
    let ps := fillFrom gap skip usable occupied ts
    ∀ u ∈ ts, ∀ v ∈ ts, u.window ≠ v.window → ¬ (u.after ps).full.Overlaps (v.after ps).full := by
  induction ts generalizing occupied with
  | nil => exact fun t ht => absurd ht List.not_mem_nil
  | cons t ts ih =>
    intro ps
    obtain ⟨hwt, hw'⟩ := List.forall_mem_cons.1 hw
    have hthick := hs.thick t List.mem_cons_self
    have hclear : ∀ u ∈ ts, u.window ≠ t.window → ¬ u.full.Overlaps t.full := fun u hu =>
      hs.clear u (List.mem_cons_of_mem t hu) t List.mem_cons_self
    -- A window that is listed again is the first one, so it is enough to look at the other ones.
    have hcases : ∀ u ∈ t :: ts, u = t ∨ u ∈ ts ∧ u.window ≠ t.window := by
      intro u hu
      by_cases hut : u.window = t.window
      · exact .inl (h.alike u hu t List.mem_cons_self hut)
      · exact .inr ⟨(List.mem_cons.1 hu).resolve_left fun heq => hut (heq ▸ rfl), hut⟩
    suffices hothers : (∀ u ∈ ts, u.window ≠ t.window →
        ¬ (u.after ps).full.Overlaps (t.after ps).full) ∧
        ∀ u ∈ ts, ∀ v ∈ ts, u.window ≠ t.window → v.window ≠ t.window → u.window ≠ v.window →
          ¬ (u.after ps).full.Overlaps (v.after ps).full by
      intro u hu v hv huv
      rcases hcases u hu with hut | ⟨hu, hut⟩ <;> rcases hcases v hv with hvt | ⟨hv, hvt⟩
      · exact absurd (hut.trans hvt.symm ▸ rfl) huv
      · exact hut ▸ fun hov => hothers.1 v hv hvt hov.symm
      · exact hvt ▸ hothers.1 u hu hut
      · exact hothers.2 u hu v hv hut hvt huv
    rcases h.fillFrom_cases hg ho hw with ⟨-, heq, hne⟩ | ⟨side, -, heq, hne⟩
    · rw [show ps = _ from heq, Tile.after_of_forall_ne hne]
      refine ⟨fun u hu hut => ?_, fun u hu v hv _ _ => ih h.tail hs.tail ho hw' u hu v hv⟩
      exact not_overlaps_after hg h.tail hw' hwt hthick hu (hclear u hu hut)
    · have hm := h.margins t List.mem_cons_self
      have hfit := h.fits t List.mem_cons_self
      have hn := hfit.nonneg_full hm
      have hinside := union_grow_within hg ho hwt hn
      have hcovered := fun u hu => (hw' u hu).trans (advances_union_grow hg ho hwt hn).within
      obtain ⟨⟨-, hgrows⟩, -⟩ := grow_spec hg hfit.within hn hwt
      rw [show ps = _ from heq, Tile.after_cons_of_forall_ne hne, (hfit.grow hm hg hwt).1]
      refine ⟨fun u hu hut => ?_, fun u hu v hv hut hvt huv => ?_⟩
      · have hu' := hs.thick u (List.mem_cons_of_mem t hu)
        have hstart : ¬ (grow gap usable occupied t.full).Overlaps u.full :=
          not_overlaps_grow hg hfit.within hn hwt (hw' u hu) hu'.1 hu'.2
            fun hov => hclear u hu hut hov.symm
        rw [Tile.after_cons_of_ne (Ne.symm hut)]
        exact not_overlaps_after hg h.tail hcovered (Box.within_union_right _ _)
          (hthick.of_within hgrows) hu fun hov => hstart hov.symm
      · rw [Tile.after_cons_of_ne (Ne.symm hut), Tile.after_cons_of_ne (Ne.symm hvt)]
        exact ih h.tail hs.tail hinside hcovered u hu v hv huv

end Round

/-! ## All rounds -/

section Rounds

variable {gap : Int} {skip : Option WindowRef} {r : Region}

theorem Spread.round (hg : 0 ≤ gap) (h : AllFit r.usable r.tiles)
    (hs : Spread gap r.tiles) :
    let after := r.placeAll (fillRegion gap skip r)
    AllFit after.usable after.tiles ∧ Spread gap after.tiles := by
  intro after
  rcases fillRegion_cases gap skip r with hnil | ⟨occupied, hb, heq⟩
  · rw [show after = r from congrArg r.placeAll hnil]
    exact ⟨h, hs⟩
  · have hw : ∀ t ∈ r.tiles, t.full.Within occupied := fun t ht =>
      Box.within_bounding hb _ (List.mem_map_of_mem ht)
    have ho : occupied.Within r.usable := by
      refine bounding_within hb (List.forall_mem_map.2 fun t ht => ?_)
      exact (h.fits t ht).within
    obtain ⟨final, hround⟩ := @roundTo_fillFrom gap skip _ _ _ hg h ho hw
    have hclear := @Spread.clear_after gap skip _ _ _ hg h hs ho hw
    rw [← heq] at hround hclear
    refine ⟨h.placeAll fun t ht => (hround.tiles t ht).fits, ?_, ?_⟩
    · rw [Region.tiles_placeAll]
      exact List.forall_mem_map.2 fun t ht => (hs.thick t ht).of_within (hround.tiles t ht).grows
    · rw [Region.tiles_placeAll]
      simp only [List.forall_mem_map]
      exact hclear

/-- **Filling keeps windows apart.** On regions without a common window, take one whose windows fit
its usable area, are thicker than the gap and the tolerance, and do not overlap. After any number of
rounds the same holds of it. -/
theorem fill_keeps_apart (hg : 0 ≤ gap) (skip : Option WindowRef) (max : Nat) {rs : List Region}
    (hapart : rs.Pairwise Region.Apart) (hr : r ∈ rs) (hfit : AllFit r.usable r.tiles)
    (hspread : Spread gap r.tiles) :
    let after := r.placeAll (fill gap skip max rs).placements
    AllFit after.usable after.tiles ∧ Spread gap after.tiles := by
  rw [placeAll_fill gap skip max hapart hr]
  exact Region.run_induction (P := fun r => AllFit r.usable r.tiles ∧ Spread gap r.tiles)
    (fun _ h => h.2.round hg h.1) max (f := { region := r }) ⟨hfit, hspread⟩

end Rounds

/-- Three windows apart, two of them decorated. -/
def apartRegion : Region :=
  ⟨⟨0, 0, 1000, 800⟩,
    [⟨⟨0⟩, ⟨2, 26, 2, 2⟩, ⟨100, 100, 300, 200⟩⟩, ⟨⟨1⟩, ⟨2, 26, 2, 2⟩, ⟨104, 340, 400, 300⟩⟩,
      ⟨⟨2⟩, {}, ⟨420, 80, 150, 150⟩⟩]⟩

/-- The first window grows to the left and upward, the others downward and to the right. -/
theorem fill_keeps_apart_three :
    let rs := [apartRegion, ⟨⟨1000, 0, 500, 500⟩, [⟨⟨3⟩, {}, ⟨1100, 100, 200, 200⟩⟩]⟩]
    let after := apartRegion.placeAll (fill 10 none 10 rs).placements
    (rs.Pairwise Region.Apart ∧ AllFit apartRegion.usable apartRegion.tiles ∧
      Spread 10 apartRegion.tiles) ∧
      after.tiles.map Tile.full =
        [⟨10, 10, 392, 292⟩, ⟨102, 314, 404, 476⟩, ⟨420, 80, 570, 150⟩] ∧
      Spread 10 after.tiles := by
  intro rs after
  have hapart : rs.Pairwise Region.Apart := by decide
  have hfit : AllFit apartRegion.usable apartRegion.tiles := by decide
  have hspread : Spread 10 apartRegion.tiles := by decide
  obtain ⟨-, hafter⟩ := fill_keeps_apart (by decide : (0 : Int) ≤ 10) none 10 hapart
    List.mem_cons_self hfit hspread
  exact ⟨⟨hapart, hfit, hspread⟩, by decide, hafter⟩

/-- A window that is no wider than the gap is grown over: the other one is near enough to the left
border although this one lies between. -/
example :
    let wide : Tile := ⟨⟨0⟩, {}, ⟨110, 100, 400, 800⟩⟩
    let thin : Tile := ⟨⟨1⟩, {}, ⟨100, 100, 10, 800⟩⟩
    let ps := (fill 10 none 10 [⟨⟨0, 0, 1000, 1000⟩, [wide, thin]⟩]).placements
    ¬ wide.full.Overlaps thin.full ∧ (wide.after ps).full.Overlaps (thin.after ps).full := by
  decide

end WindowTiling
