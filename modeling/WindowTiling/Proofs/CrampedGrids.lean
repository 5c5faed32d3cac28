import WindowTiling.Proofs.CleanScreen
import WindowTiling.Proofs.History

/-!
# Grids without room

A grid divides an area that has no room for the gaps as if there were no gaps, and still puts them
between the cells. Its cells then reach beyond the area, windows are cut off at the edge of it, and
a cell that is smaller than the decorations of its window leaves no content at all.

**Theorem (`arrange_grid_disjoint`).** Windows are never stacked on each other, even so. After a
pass with plain grids no two windows tiled on an output share a cell of the screen, whatever the
gap, the decorations and the area are. Where a fault stops the pass, this holds of the outputs laid
out before, and on the others the windows have the boxes they had.

The cells of the grid keep the gap to each other in every area (`gridCells_spaced`). Taking off
decorations and cutting down to the usable area only takes away cells of the screen, and so what is
left to the windows of two cells is disjoint.
-/

namespace WindowTiling

/-! ## One screen -/

theorem Box.SpacedBy.disjoint {gap : Int} (hg : 0 ≤ gap) {a b : Box} (h : a.SpacedBy gap b) :
    a.Disjoint b := by
  rintro p ⟨ha, hb⟩
  rw [Box.mem_iff] at ha hb
  unfold Box.SpacedBy at h
  omega

theorem Tile.disjoint_contentOf {t u : Tile} (ht : t.margins.Nonneg) (hu : u.margins.Nonneg)
    {a b : Box} (h : a.Disjoint b) (usable : Box) :
    (t.contentOf a usable).Disjoint (u.contentOf b usable) := by
  rintro p ⟨hp, hq⟩
  exact h p ⟨(Tile.mem_contentOf ht hp).1, (Tile.mem_contentOf hu hq).1⟩

/-- **After a plain grid** no two windows share a cell. -/
theorem Screen.disjoint_laidOut {s : Screen} (h : s.Proper)
    (hm : ∀ t ∈ s.region.tiles, t.margins.Nonneg) {gap : Int} (hg : 0 ≤ gap)
    {target : Option Target} (hr : s.region.resized? target = none) :
    (s.laidOut gap target).tiles.Pairwise fun t u => t.box.Disjoint u.box := by
  have hcells : ((s.region.tiles.zip (s.gridCells gap)).map Prod.snd).Pairwise
      (Box.SpacedBy gap) := by
    rw [List.map_snd_zip (Nat.le_of_eq (length_gridCells h gap))]
    exact gridCells_spaced h hg
  rw [tiles_laidOut_plain h hr, List.pairwise_map]
  rw [List.pairwise_map] at hcells
  apply hcells.imp_of_mem
  intro e e' he he' hspaced
  exact Tile.disjoint_contentOf (hm _ (List.of_mem_zip he).1) (hm _ (List.of_mem_zip he').1)
    (hspaced.disjoint hg) _

/-! ## Screens one after the other -/

theorem Region.placeAll_layOutAll_of_apart {r : Region} {screens : List Screen}
    (h : ∀ s ∈ screens, r.Apart s.region) (gap : Int) (target : Option Target) :
    r.placeAll (layOutAll gap screens target).placements = r := by
  have hsame : WindowTiling.placeAll r.tiles (layOutAll gap screens target).placements =
      r.tiles := by
    apply placeAll_of_forall_ne
    intro t ht p hp heq
    obtain ⟨s, hs, hacc⟩ := (layOutAll_accepts gap screens target).1 p hp
    obtain ⟨u, hu, huw⟩ := List.mem_map.1 (hacc p List.mem_cons_self).1
    exact h s hs t ht u hu (heq.symm.trans huw.symm)
  rw [Region.placeAll, hsame]

/-- **Each screen is laid out or left.** It is left only where a fault has stopped the pass. -/
theorem laidOut_or_left {screens : List Screen}
    (h : screens.Pairwise fun s t => s.region.Apart t.region) (gap : Int) :
    ∀ s ∈ screens,
      (∃ l, s.layOut gap none = .ok l) ∧
        s.region.placeAll (layOutAll gap screens none).placements = s.laidOut gap none ∨
      (layOutAll gap screens none).fault ≠ none ∧
        s.region.placeAll (layOutAll gap screens none).placements = s.region := by
  induction screens with
  | nil =>
    intro s hs
    exact absurd hs List.not_mem_nil
  | cons s rest ih =>
    obtain ⟨hapart, hrest⟩ := List.pairwise_cons.1 h
    cases hl : s.layOut gap none with
    | error fault =>
      simp only [layOutAll, hl]
      intro r _
      exact .inr ⟨Option.some_ne_none fault, rfl⟩
    | ok l =>
      have htarget : l.target = none := (Screen.of_layOut_plain hl rfl).1
      simp only [layOutAll, hl, htarget, Region.placeAll_append]
      refine List.forall_mem_cons.2 ⟨.inl ⟨⟨l, hl⟩, ?_⟩, fun r hr => ?_⟩
      · -- The screens that follow place none of the windows of this one.
        rw [Region.placeAll_layOutAll_of_apart, Screen.laidOut, Screen.placements, hl]
        intro r hr
        exact Region.apart_congr (Region.map_window_placeAll _ _) rfl (hapart r hr)
      · rw [Region.placeAll_of_apart (hapart r hr).symm (Screen.accepts_of_layOut hl)]
        exact ih hrest r hr

/-! ## The desktop -/

namespace Desktop

variable {d : Desktop} {decoration : Decoration} {gap : Int}

/-- **Plain grids never stack windows.** A pass runs through unless a fault is come upon in the
rules or the aspect of an area is no number. On every usable output no two of the windows tiled
there share a cell afterwards; or a fault has stopped the pass before, and the windows have the
boxes that they had. -/
theorem arrange_grid_disjoint (h : d.Sound) (hm : ∀ w, (decoration.margins (d.window w)).Nonneg)
    (hg : 0 ≤ gap) (target : Option Target) :
    let pass := d.arrange decoration gap .grid target
    (pass.fault = none ↔ d.Plannable decoration) ∧
      ∀ o ∈ d.outputs.values, (d.output o).isUsable = true →
        ((d.eligible o).Pairwise fun v w =>
          (pass.desktop.window v).box.Disjoint (pass.desktop.window w).box) ∨
        pass.fault ≠ none ∧
          ∀ w ∈ d.eligible o, (pass.desktop.window w).box = (d.window w).box := by
  intro pass
  have hfault : pass.fault = (layOutAll gap (d.screens decoration) none).fault := fault_arrange
  refine ⟨hfault ▸ fault_layOutAll_screens_eq_none_iff h, ?_⟩
  intro o ho hu
  by_cases hnil : d.eligible o = []
  · rw [hnil]
    exact .inl .nil
  have hc : d.Concerns o := ⟨hu, .inl hnil⟩
  have htiles : (d.eligible o).map (pass.desktop.tile decoration) =
      ((d.screen decoration o).region.placeAll
        (layOutAll gap (d.screens decoration) none).placements).tiles := by
    rw [← @eligible_arrange d decoration gap .grid target o]
    exact congrArg Region.tiles (@region_arrange_eq_placeAll d decoration gap .grid target o)
  have hs : d.screen decoration o ∈ d.screens decoration := mem_screens.2 ⟨o, ho, hc, rfl⟩
  -- The pass may have been stopped on a screen before this one.
  rcases laidOut_or_left (h.apart_screens decoration) gap _ hs with
    ⟨⟨l, hl⟩, hlaid⟩ | ⟨hstopped, hleft⟩
  · obtain ⟨hf, hq⟩ := Screen.of_layOut_ok hl
    have hproper := h.proper_of_aspect hc hf hq
    have hdisjoint := Screen.disjoint_laidOut hproper (nonneg_margins_screen hm o) hg (rfl :
      (d.screen decoration o).region.resized? none = none)
    rw [← hlaid, ← htiles, List.pairwise_map] at hdisjoint
    exact .inl hdisjoint
  · rw [hleft] at htiles
    refine .inr ⟨hfault ▸ hstopped, ?_⟩
    intro w hw
    exact congrArg Tile.box (List.map_inj_left.1 htiles w hw)

/-- Four windows with frames on an output that has room for the cell of the first only. -/
def crampedFrames : Desktop :=
  (ofBoxes ⟨0, 0, 20, 8⟩ [⟨0, 0, 5, 5⟩, ⟨0, 0, 5, 5⟩, ⟨1, 1, 9, 9⟩, ⟨7, 7, 1, 1⟩]).framed

set_option maxRecDepth 4000 in
/-- The cells of the others reach beyond the right and the lower edge. The windows get what is left
of their cells there, two of them nothing at all. -/
theorem arrange_grid_disjoint_cramped :
    let pass := crampedFrames.arrange { borderWidth := 1, titlebarHeight := 0 } 3 .grid none
    (crampedFrames.eligible ⟨0⟩).map (fun w => (pass.desktop.window w).box) =
        [⟨4, 4, 8, 2⟩, ⟨17, 4, 3, 2⟩, ⟨4, 8, 8, 0⟩, ⟨17, 8, 3, 0⟩] ∧
      (crampedFrames.eligible ⟨0⟩).Pairwise fun v w =>
        (pass.desktop.window v).box.Disjoint (pass.desktop.window w).box := by
  intro pass
  obtain ⟨hfault, hdisjoint⟩ := @arrange_grid_disjoint crampedFrames
    { borderWidth := 1, titlebarHeight := 0 } 3 (by decide)
    (fun w => Decoration.nonneg_margins ⟨by decide, by decide⟩ _) (by decide) none
  refine ⟨by decide, (hdisjoint ⟨0⟩ (by decide) (by decide)).resolve_right ?_⟩
  rintro ⟨hstopped, -⟩
  exact hstopped (hfault.2 (by decide))

end Desktop

end WindowTiling
