import WindowTiling.Proofs.PassOutcome

/-!
# Windows inside the usable area

Whatever a pass places lies in the usable area of its output. What it leaves in place need not: a
window that is neither adjacent to the resized one nor in the way of the strip keeps its box, and
this may lie outside. It is brought in only when the filler runs, because the filler clamps every
window that it looks at.

**Theorem (`contained_iff`).** After a pass all windows tiled on an output lie in its usable area
just when the windows left in place did, or the boxes after the layout leave more room than the gap
on some side, so that the filler runs.

The second case is settled by the first round. A window outside has a full box outside, and this is
not what growing makes of it, since the grown box is clamped; so the window is placed. Later rounds
place windows inside again.
-/

namespace WindowTiling

/-! ## Filling -/

theorem full_within_of_not_filled {gap : Int} {skip : Option WindowRef} {usable occupied : Box}
    (hu : usable.Nonneg) {ts : List Tile} {t : Tile} (ht : t ∈ ts) (hs : skip ≠ some t.window)
    (hp : ∀ p ∈ fillFrom gap skip usable occupied ts, p.window ≠ t.window) :
    t.full.Within usable := by
  induction ts generalizing occupied with
  | nil => exact absurd ht List.not_mem_nil
  | cons u ts ih =>
    simp only [fillFrom] at hp
    by_cases hsu : skip = some u.window
    · rw [if_pos hsu] at hp
      rcases List.mem_cons.1 ht with rfl | ht
      · exact absurd hsu hs
      · exact ih ht hp
    · rw [if_neg hsu] at hp
      by_cases hg : grow gap usable occupied u.full = u.full
      · rw [if_pos hg] at hp
        rcases List.mem_cons.1 ht with rfl | ht
        · rw [← hg]
          exact Box.clamp_within _ hu
        · exact ih ht hp
      · rw [if_neg hg] at hp
        obtain ⟨hpu, hp⟩ := List.forall_mem_cons.1 hp
        rcases List.mem_cons.1 ht with rfl | ht
        · exact absurd rfl hpu
        · exact ih ht hp

theorem Region.fillPlacements_of_filled {gap : Int} {skip : Option WindowRef} {r : Region}
    (h : ∀ occupied, Box.bounding (r.tiles.map Tile.full) = some occupied →
      Filled gap r.usable occupied) (rounds : Nat) : r.fillPlacements gap skip rounds = [] := by
  have hfill : fillRegion gap skip r = [] := by
    simp only [fillRegion]
    split
    · rfl
    · next occupied hb => rw [if_pos (h occupied hb)]
  cases rounds with
  | zero => rfl
  | succ n =>
    have hfirst : Filling.placements gap skip { region := r } = [] := hfill
    rw [Region.fillPlacements, Filling.run, hfirst, List.nil_append]
    exact Filling.run_of_settled (by rw [Filling.next, hfirst]; rfl) n

theorem Region.mem_fillPlacements_of_first {gap : Int} {skip : Option WindowRef} {r : Region}
    {p : Placement} (hp : p ∈ fillRegion gap skip r) {rounds : Nat} (hr : 0 < rounds) :
    p ∈ r.fillPlacements gap skip rounds := by
  obtain ⟨n, rfl⟩ := Nat.exists_eq_add_one.2 hr
  exact List.mem_append_left _ hp

theorem Region.boxAfter_within {r : Region} (hu : r.usable.Nonneg) {ps : List Placement}
    (hps : r.Accepts ps) {w : WindowRef} {b : Box}
    (h : (∀ p ∈ ps, p.window ≠ w) → b.Within r.usable) : (boxAfter ps w b).Within r.usable := by
  by_cases hw : ∃ p ∈ ps, p.window = w
  · obtain ⟨p, hp, -, hbox⟩ := boxAfter_mem hw b
    rw [hbox]
    exact (hps p hp).2.2 hu
  · have hne : ∀ p ∈ ps, p.window ≠ w := fun p hp hpw => hw ⟨p, hp, hpw⟩
    rw [boxAfter_of_forall_ne hne]
    exact h hne

/-- **Filling brings in what lies outside**, unless there is nothing to fill. -/
theorem Region.within_filled_iff {gap : Int} {skip : Option WindowRef} {r : Region}
    (hu : r.usable.Nonneg) (hm : ∀ t ∈ r.tiles, t.margins.Nonneg)
    (hskip : ∀ t ∈ r.tiles, skip = some t.window → t.box.Within r.usable) {rounds : Nat}
    (hr : 0 < rounds) :
    (∀ t ∈ (r.filled gap skip rounds).tiles, t.box.Within r.usable) ↔
      (∀ t ∈ r.tiles, t.box.Within r.usable) ∨
        ∃ occupied, Box.bounding (r.tiles.map Tile.full) = some occupied ∧
          ¬ Filled gap r.usable occupied := by
  have htiles : (r.filled gap skip rounds).tiles = r.tiles.map fun t =>
      { t with box := boxAfter (r.fillPlacements gap skip rounds) t.window t.box } :=
    placeAll_eq_map _ _
  have hacc := r.accepts_fillPlacements gap skip rounds
  rw [htiles, List.forall_mem_map]
  -- A window that is placed ends up inside. So only those that are never placed matter, and with
  -- room to fill these were looked at in the first round.
  constructor
  · intro h
    by_cases hroom : ∃ occupied, Box.bounding (r.tiles.map Tile.full) = some occupied ∧
        ¬ Filled gap r.usable occupied
    · exact .inr hroom
    · left
      intro t ht
      have hnil : r.fillPlacements gap skip rounds = [] := r.fillPlacements_of_filled
        (fun occupied hb => Classical.not_not.1 fun hn => hroom ⟨occupied, hb, hn⟩) rounds
      have hbox := h t ht
      rwa [hnil] at hbox
  · rintro (h | ⟨occupied, hb, hroom⟩) t ht
    · exact r.boxAfter_within hu hacc fun _ => h t ht
    · refine r.boxAfter_within hu hacc fun hne => ?_
      by_cases hs : skip = some t.window
      · exact hskip t ht hs
      · -- The first round has looked at the window and has found nothing to do.
        have hfirst : fillRegion gap skip r = fillFrom gap skip r.usable occupied r.tiles := by
          simp only [fillRegion, hb, if_neg hroom]
        have hfull : t.full.Within r.usable := full_within_of_not_filled hu ht hs fun p hp =>
          hne p (r.mem_fillPlacements_of_first (hfirst ▸ hp) hr)
        exact (Box.within_expand t.box (hm t ht)).trans hfull

/-! ## The layout -/

namespace Screen

variable {s : Screen} {gap : Int} {target : Option Target}

theorem laidOut_tiles (gap : Int) (target : Option Target) (s : Screen) :
    (s.laidOut gap target).tiles = s.region.tiles.map fun t =>
      { t with box := boxAfter (s.placements gap target) t.window t.box } := placeAll_eq_map _ _

/-- The layout leaves windows outside the usable area only where it leaves them in place. -/
theorem within_laidOut_iff (h : s.Proper) :
    (∀ t ∈ (s.laidOut gap target).tiles, t.box.Within s.region.usable) ↔
      ∀ resized geometry, s.region.resized? target = some (resized, geometry) →
        ∀ t ∈ s.kept gap resized geometry, t.box.Within s.region.usable := by
  rw [laidOut_tiles, List.forall_mem_map]
  constructor
  · intro hin resized geometry hr t ht
    have hto := (mem_kept.1 ht).1
    have ho : s.others resized ≠ [] := List.ne_nil_of_mem hto
    have hbox := hin t (mem_others.1 hto).1
    rwa [boxAfter_of_forall_ne (ne_of_mem_kept h hr ho ht)] at hbox
  · intro hkept t ht
    refine Region.boxAfter_within h.nonneg (accepts_placements h gap target) fun hne => ?_
    obtain ⟨resized, geometry, hr, hk⟩ := exists_kept_of_forall_ne h ht hne
    exact hkept resized geometry hr t hk

theorem exists_placement_of_target (h : s.Proper) (gap : Int) {t : Tile}
    (ht : t ∈ s.region.tiles) (htarget : target.map (·.window) = some t.window) :
    ∃ p ∈ s.placements gap target, p.window = t.window := by
  refine Classical.byContradiction fun hn => ?_
  obtain ⟨resized, geometry, hr, hk⟩ :=
    @exists_kept_of_forall_ne s gap target h t ht fun p hp hpw => hn ⟨p, hp, hpw⟩
  obtain ⟨-, rfl⟩ := Region.of_resized? hr
  exact (mem_others.1 (mem_kept.1 hk).1).2 (Option.some.inj htarget).symm

end Screen

/-! ## The pass -/

namespace Desktop

variable {d : Desktop} {decoration : Decoration}

/-- **When a pass keeps the windows of an output inside its usable area.** They all lie inside just
when the windows left in place did, or the layout leaves more room than the gap on some side of
what it occupies, so that the filler runs. -/
theorem contained_iff (h : d.Sound) (hp : d.Plannable decoration)
    (hm : ∀ w, (decoration.margins (d.window w)).Nonneg) {o : OutputRef}
    (ho : o ∈ d.outputs.values) (husable : (d.output o).isUsable = true) (gap : Int)
    (target : Option Target) :
    let pass := d.arrange decoration gap .smart target
    let s := d.screen decoration o
    pass.fault = none ∧
      ((∀ w ∈ d.eligible o, (pass.desktop.window w).box.Within (d.output o).usable) ↔
        (∀ resized geometry, s.region.resized? target = some (resized, geometry) →
          ∀ t ∈ s.kept gap resized geometry, t.box.Within (d.output o).usable) ∨
        ∃ occupied, Box.bounding ((s.laidOut gap target).tiles.map Tile.full) = some occupied ∧
          ¬ Filled gap (d.output o).usable occupied) := by
  intro pass s
  refine ⟨(arrange_fault_eq_none_iff h).2 hp, ?_⟩
  by_cases hc : d.Concerns o
  · have hproper : s.Proper := h.proper_screen hp ho hc
    have hmargins : ∀ t ∈ (s.laidOut gap target).tiles, t.margins.Nonneg := by
      rw [Screen.laidOut_tiles, List.forall_mem_map]
      intro t ht
      obtain ⟨w, -, rfl⟩ := List.mem_map.1 ht
      exact hm w
    -- The filler leaves the target's window alone, which the layout has placed.
    have hskip : ∀ t ∈ (s.laidOut gap target).tiles, target.map (·.window) = some t.window →
        t.box.Within s.region.usable := by
      rw [Screen.laidOut_tiles, List.forall_mem_map]
      intro t ht htarget
      refine Region.boxAfter_within hproper.nonneg
        (Screen.accepts_placements hproper gap target) fun hne => ?_
      obtain ⟨p, hpm, hpw⟩ := Screen.exists_placement_of_target hproper gap ht htarget
      exact absurd hpw (hne p hpm)
    have hfilled := @Region.within_filled_iff gap (target.map (·.window)) (s.laidOut gap target)
      hproper.nonneg hmargins hskip maxFillRounds (by decide)
    refine Iff.trans ?_ (hfilled.trans (or_congr_left (Screen.within_laidOut_iff hproper)))
    have hregion : (pass.desktop.screen decoration o).region =
        (s.laidOut gap target).filled gap (target.map (·.window)) maxFillRounds :=
      region_arrange h hp ho hc
    rw [← hregion]
    show _ ↔ ∀ t ∈ (pass.desktop.eligible o).map (pass.desktop.tile decoration), _
    rw [List.forall_mem_map, eligible_arrange]
    exact Iff.rfl
  · have hnone : d.eligible o = [] := Classical.not_not.1 fun hne => hc ⟨husable, .inl hne⟩
    have htiles : s.region.tiles = [] := congrArg (List.map (d.tile decoration)) hnone
    refine iff_of_true (by simp [hnone]) (.inl fun resized geometry hr => ?_)
    exact absurd (htiles ▸ (Region.of_resized? hr).1) List.not_mem_nil

/-- Two windows side by side and one far outside. -/
def strayDesktop : Desktop := .ofBoxes ⟨0, 0, 1920, 1080⟩
  [⟨10, 10, 945, 1060⟩, ⟨965, 10, 945, 1060⟩, ⟨5000, 5000, 10, 10⟩]

set_option maxRecDepth 4000 in
/-- When the first window is resized so that there is room around, all end up inside. -/
theorem contained_iff_stray :
    let target : Option Target := some ⟨⟨0⟩, ⟨300, 200, 600, 500⟩⟩
    strayDesktop.Sound ∧ strayDesktop.Plannable .off ∧
      (∀ w, (Decoration.off.margins (strayDesktop.window w)).Nonneg) ∧
      ∀ w ∈ strayDesktop.eligible ⟨0⟩,
        ((strayDesktop.arrange .off 10 .smart target).desktop.window w).box.Within
          (strayDesktop.output ⟨0⟩).usable := by
  intro target
  have hm := fun w => nonneg_margins_off (strayDesktop.window w)
  refine ⟨by decide, by decide, hm, ?_⟩
  have hiff := @contained_iff strayDesktop .off (by decide) (by decide) hm ⟨0⟩ (by decide)
    (by decide) 10 target
  exact hiff.2.2 (.inr ⟨⟨300, 10, 4710, 5000⟩, by decide, by decide⟩)

set_option maxRecDepth 4000 in
/-- When it is resized to the box it has, the window outside is left there. -/
theorem stray_left_outside :
    let target : Option Target := some ⟨⟨0⟩, ⟨10, 10, 945, 1060⟩⟩
    strayDesktop.Sound ∧ (strayDesktop.output ⟨0⟩).isUsable = true ∧
      (strayDesktop.arrange .off 10 .smart target).fault = none ∧
      ∃ w ∈ strayDesktop.eligible ⟨0⟩,
        ¬ ((strayDesktop.arrange .off 10 .smart target).desktop.window w).box.Within
          (strayDesktop.output ⟨0⟩).usable := by decide

end Desktop

end WindowTiling
