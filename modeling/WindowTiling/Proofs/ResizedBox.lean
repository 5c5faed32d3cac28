import WindowTiling.Proofs.PassOutcome
import WindowTiling.Proofs.Resolver

/-!
# The box of the resized window

The user's own resizing is kept. The window gets the box that it is resized to, clamped to the
usable area, or the box cut from that one when it leaves no room for the others; and one edge may
move out to the gap inside the usable edge.

**Theorem (`resize_preserved`).** This is all that a pass does to the resized window. The part of
the resolver that shrinks a box off the windows left in place is never reached, the filler leaves
the window alone, and the target that the pass returns has the window's final box.

The shrinking part is not reached because a window left in place never overlaps the box that
`reconcile` returns; this is `not_overlaps_of_not_placed`. The growing part moves one edge, and it
moves it outward since only a side with more room than the gap is grown to.
-/

namespace WindowTiling

/-! ## The resolver on a screen -/

namespace Screen

variable {s : Screen} {gap : Int} {resized : Tile} {geometry : Box}

theorem parts_fitted (h : s.Proper) (hg : 0 ≤ gap) (resized : Tile) (geometry : Box) :
    ∃ side, Parts ((geometry.expand resized.margins).clamp s.region.usable) s.region.usable gap
      (s.fitted gap resized geometry) side :=
  reconcile_parts _ h.width_pos h.height_pos _ hg _

theorem resized_within (h : s.Proper) (hg : 0 ≤ gap) :
    (s.fitted gap resized geometry).resized.Within s.region.usable ∧
      (s.fitted gap resized geometry).resized.Nonneg := by
  obtain ⟨side, parts⟩ := parts_fitted h hg resized geometry
  exact parts.resized_within (Box.clamp_within _ h.nonneg) (Box.nonneg_clamp _ _) h.nonneg

theorem not_overlaps_of_mem_kept (h : s.Proper) (hg : 0 ≤ gap) {t : Tile}
    (ht : t ∈ s.kept gap resized geometry) :
    ¬ (s.fitted gap resized geometry).resized.Overlaps t.full := by
  obtain ⟨hto, htp⟩ := mem_kept.1 ht
  have hplaced : t ∉ (s.fitted gap resized geometry).placed :=
    fun hmem => htp (List.mem_map_of_mem hmem)
  have hclear := not_overlaps_of_not_placed h.width_pos h.height_pos hg hto hplaced
  exact fun hov => hclear.1 hov.symm

/-- **The box that the resized window ends up with** is the one it keeps, or that one with one edge
grown to the gap, clear of all other windows. -/
theorem settled_cases (h : s.Proper) (hg : 0 ≤ gap) :
    s.settled gap resized geometry = (s.fitted gap resized geometry).resized ∨
      ∃ side, gap < freeSpace (s.fitted gap resized geometry).resized s.region.usable side ∧
        s.settled gap resized geometry =
          growTo (s.fitted gap resized geometry).resized s.region.usable gap side ∧
        (∀ t ∈ s.kept gap resized geometry, ¬ (s.settled gap resized geometry).Overlaps t.full) ∧
        ∀ t ∈ s.neighbours gap resized geometry,
          ¬ (s.settled gap resized geometry).Overlaps t.full := by
  obtain ⟨hw, hn⟩ := @resized_within s gap resized geometry h hg
  have hclear : ∀ other ∈ (s.kept gap resized geometry).map Tile.full,
      ¬ (s.fitted gap resized geometry).resized.Overlaps other := by
    rw [List.forall_mem_map]
    exact fun t ht => not_overlaps_of_mem_kept h hg ht
  rcases resolveResized_of_clear hg hw hn hclear
    ((s.neighbours gap resized geometry).map Tile.full) with
    ⟨heq, -⟩ | ⟨side, hfirst, heq, hall⟩
  · exact .inl heq
  · obtain ⟨hkept, hneighbours⟩ := List.forall_mem_append.1 hall
    exact .inr ⟨side, hfirst.isOpen.2, heq, fun t ht => hkept _ (List.mem_map_of_mem ht),
      fun t ht => hneighbours _ (List.mem_map_of_mem ht)⟩

end Screen

/-! ## The pass -/

namespace Desktop

variable {d : Desktop} {decoration : Decoration} {gap : Int}

theorem resized?_screen {o : OutputRef} {t : Target} (ht : t.window ∈ d.eligible o) :
    (d.screen decoration o).region.resized? (some t) =
      some (d.tile decoration t.window, t.geometry) := by
  cases hr : (d.screen decoration o).region.resized? (some t) with
  | none =>
    have hmem : d.tile decoration t.window ∈ (d.screen decoration o).region.tiles :=
      List.mem_map_of_mem ht
    exact absurd rfl (Region.resized?_eq_none_iff.1 hr _ hmem)
  | some e =>
    obtain ⟨tile, geometry⟩ := e
    obtain ⟨hmem, htarget⟩ := Region.of_resized? hr
    obtain ⟨w, -, rfl⟩ := List.mem_map.1 hmem
    obtain rfl := Option.some.inj htarget
    rfl

theorem others_screen_eq_nil_iff {o : OutputRef} {tile : Tile} :
    (d.screen decoration o).others tile = [] ↔ ∀ w ∈ d.eligible o, w = tile.window := by
  simp only [Screen.others, screen, List.filter_eq_nil_iff, List.forall_mem_map, decide_eq_true_eq,
    Classical.not_not]
  exact Iff.rfl

theorem box_arrange_target (h : d.Sound) (hp : d.Plannable decoration) {o : OutputRef}
    (ho : o ∈ d.outputs.values) (hc : d.Concerns o) {t : Target} (ht : t.window ∈ d.eligible o) :
    ((d.arrange decoration gap .smart (some t)).desktop.window t.window).box =
      boxAfter ((d.screen decoration o).placements gap (some t)) t.window
        (d.window t.window).box := by
  rw [box_arrange h hp ho hc ht]
  exact boxAfter_of_forall_ne Region.fillPlacements_skip _

/-- **Resizing is preserved.** The resized window gets the clamped box that it is resized to when it
is alone. Otherwise it gets the box that is left to it after the others are fitted around, or that
box with one edge moved out to the gap inside the usable edge; it is not shrunk off the windows left
in place. The filler does not place it, and the target follows it. -/
theorem resize_preserved (h : d.Sound) (hp : d.Plannable decoration) {o : OutputRef}
    (ho : o ∈ d.outputs.values) (husable : (d.output o).isUsable = true) (hg : 0 ≤ gap)
    {t : Target} (ht : t.window ∈ d.eligible o) :
    let usable := (d.output o).usable
    let tile := d.tile decoration t.window
    let clamped := (t.geometry.expand tile.margins).clamp usable
    let s := d.screen decoration o
    let r := s.fitted gap tile t.geometry
    let full := s.settled gap tile t.geometry
    let plan := layOutAll gap (d.screens decoration) (some t)
    let pass := d.arrange decoration gap .smart (some t)
    let final := (pass.desktop.window t.window).box
    pass.fault = none ∧
      ((∀ w ∈ d.eligible o, w = t.window) → final = tile.contentOf clamped usable) ∧
      ((∃ w ∈ d.eligible o, w ≠ t.window) →
        final = tile.contentOf full usable ∧
        (shrinkOffAll (r.resized.clamp usable)
          ((s.kept gap tile t.geometry).map Tile.full) gap).2 = false ∧
        ((∃ side, gap < freeSpace clamped usable side) → r.resized = clamped) ∧
        ((∀ side, freeSpace clamped usable side ≤ gap) →
          r.resized = (carveSide clamped usable).1) ∧
        (full = r.resized ∨ ∃ side, gap < freeSpace r.resized usable side ∧
          ∀ side', freeSpace full usable side' =
            if side' = side then gap else freeSpace r.resized usable side')) ∧
      (∀ p ∈ (fill gap (plan.target.map (·.window)) maxFillRounds plan.regions).placements,
        p.window ≠ t.window) ∧
      pass.target = some ⟨t.window, final⟩ := by
  intro usable tile clamped s r full plan pass final
  have hc : d.Concerns o := ⟨husable, .inl (List.ne_nil_of_mem ht)⟩
  have hproper : s.Proper := h.proper_screen hp ho hc
  have hr : s.region.resized? (some t) = some (tile, t.geometry) := resized?_screen ht
  have hfinal : final = boxAfter (s.placements gap (some t)) t.window (d.window t.window).box :=
    box_arrange_target h hp ho hc ht
  have htarget : ∀ {l : Layout}, s.layOut gap (some t) = .ok l → pass.target = l.target :=
    fun hl => target_arrange h hp ho hc (by rw [hr]; simp) hl
  have halone : s.others tile = [] ↔ ∀ w ∈ d.eligible o, w = t.window := others_screen_eq_nil_iff
  have hfill : ∀ p ∈ (fill gap (plan.target.map (·.window)) maxFillRounds plan.regions).placements,
      p.window ≠ t.window := by
    have hwindow := (@layOutAll_ok gap _ (h.proper_screens hp) (h.apart_screens decoration)
      (some t)).window_eq
    rw [show plan.target.map (·.window) = some t.window from hwindow]
    exact fill_skip
  -- Alone on its screen the window gets the clamped box; beside others it is reconciled with them
  -- and then settled.
  by_cases ho' : s.others tile = []
  · have hlayout := @Screen.layOut_alone s gap _ _ _ hproper hr ho'
    have hbox : final = tile.contentOf clamped usable := by
      rw [hfinal, Screen.placements, hlayout]
      exact if_pos rfl
    refine ⟨(arrange_fault_eq_none_iff h).2 hp, fun _ => hbox, fun hother => ?_, hfill, ?_⟩
    · obtain ⟨w, hw, hne⟩ := hother
      exact absurd (halone.1 ho' w hw) hne
    · rw [htarget hlayout, hbox]
      rfl
  · have hlayout := @Screen.layOut_around s gap _ _ _ hproper hr ho'
    have hbox : final = tile.contentOf full usable :=
      hfinal.trans (Screen.boxAfter_resized hproper hr ho' _)
    obtain ⟨side, parts⟩ := Screen.parts_fitted hproper hg tile t.geometry
    obtain ⟨hw, hn⟩ := @Screen.resized_within s gap tile t.geometry hproper hg
    refine ⟨(arrange_fault_eq_none_iff h).2 hp, fun hall => absurd (halone.2 hall) ho',
      fun _ => ⟨hbox, ?_, fun hfree => (parts.kept hfree).1, fun hfree => (parts.cut hfree).1, ?_⟩,
      hfill, ?_⟩
    · -- The windows left in place are clear of the box already, so the scan shrinks nothing.
      have hclear : ∀ other ∈ (s.kept gap tile t.geometry).map Tile.full,
          ¬ r.resized.Overlaps other := by
        rw [List.forall_mem_map]
        exact fun u hu => Screen.not_overlaps_of_mem_kept hproper hg hu
      have hclamp : r.resized.clamp usable = r.resized := Box.clamp_of_within hw hn
      rw [hclamp, shrinkOffAll_of_clear hclear]
    · rcases Screen.settled_cases hproper hg with heq | ⟨side', hfree, heq, -⟩
      · exact .inl heq
      · refine .inr ⟨side', hfree, fun side'' => ?_⟩
        rw [show full = _ from heq]
        exact freeSpace_growTo _ _ _ _ _
    · rw [htarget hlayout, hbox]
      rfl

set_option maxRecDepth 4000 in
/-- The left window, resized to leave room on the right and below, gets its lower edge moved out. -/
theorem resize_preserved_pair :
    let target : Target := ⟨⟨0⟩, ⟨10, 10, 400, 500⟩⟩
    let pass := pairDesktop.arrange .off 10 .smart (some target)
    let tile := pairDesktop.tile .off ⟨0⟩
    let s := pairDesktop.screen .off ⟨0⟩
    pairDesktop.Sound ∧ pairDesktop.Plannable .off ∧ (pairDesktop.output ⟨0⟩).isUsable = true ∧
      pass.fault = none ∧ (s.fitted 10 tile target.geometry).resized = target.geometry ∧
      s.settled 10 tile target.geometry = ⟨10, 10, 400, 780⟩ ∧
      (pass.desktop.window ⟨0⟩).box = ⟨10, 10, 400, 780⟩ ∧
      pass.target = some ⟨⟨0⟩, ⟨10, 10, 400, 780⟩⟩ := by
  intro target pass tile s
  obtain ⟨hfault, -, hothers, -, htarget⟩ := @resize_preserved pairDesktop .off 10 (by decide)
    (by decide) ⟨0⟩ (by decide) (by decide) (by decide) target (by decide)
  obtain ⟨hbox, -, hkept, -, -⟩ := hothers ⟨⟨1⟩, by decide, by decide⟩
  have hsettled : s.settled 10 tile target.geometry = ⟨10, 10, 400, 780⟩ := by decide
  have hfinal : (pass.desktop.window ⟨0⟩).box = ⟨10, 10, 400, 780⟩ := by
    refine hbox.trans ?_
    rw [hsettled]
    decide
  refine ⟨by decide, by decide, by decide, hfault, hkept ⟨.right, by decide⟩, hsettled, hfinal, ?_⟩
  exact htarget.trans (by rw [hfinal])

end Desktop

end WindowTiling
