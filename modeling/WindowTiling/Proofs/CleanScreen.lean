import WindowTiling.Proofs.Containment
import WindowTiling.Proofs.GridTiling
import WindowTiling.Proofs.Growth
import WindowTiling.Proofs.Independence

/-!
# Screens on which grids come out clean

The filler has nothing to do after a plain grid. The cells reach as far as the gap on every side of
the usable area, and so do the full boxes that the windows get in them, whatever is cut off on the
way. So where no window is under resize, filling and plain grids come to the same
(`arrange_smart_eq_arrange_grid`), in small areas too.

Where there is room for the gaps and every cell is as large as the decorations of its window, what
the windows get is exactly their cells.

**Theorem (`arrange_clean`).** On such screens a pass that fills ends as one with plain grids does.
The full box of every window is its cell, it lies at least the gap inside the usable area, and any
two are at least the gap apart along some axis.
-/

namespace WindowTiling

/-! ## Nothing to fill -/

theorem Tile.freeSpace_expand_contentOf {t : Tile} (hm : t.margins.Nonneg) {cell usable : Box}
    (hu : usable.Nonneg) {gap : Int} (hg : 0 ≤ gap) {side : Side}
    (h : freeSpace cell usable side ≤ gap) :
    freeSpace ((t.contentOf cell usable).expand t.margins) usable side ≤ gap := by
  obtain ⟨hl, ht, hr, hb⟩ := hm
  -- What is cut off ends at the edge of the usable area, and the border comes on top of that.
  obtain ⟨⟨hx, hright⟩, hy, hbottom⟩ := (cell.inset t.margins).edges_clamp hu
  simp only [contentOf]
  generalize (cell.inset t.margins).clamp usable = content at *
  simp only [Box.inset, Box.right, Box.bottom, Border.horizontal, Border.vertical] at *
  cases side <;>
  · simp only [freeSpace, Box.expand, Box.right, Box.bottom, Border.horizontal,
      Border.vertical] at *
    omega

theorem filled_of_near {gap : Int} {usable occupied : Box} {bs : List Box}
    (hb : Box.bounding bs = some occupied)
    (h : ∀ side, ∃ b ∈ bs, freeSpace b usable side ≤ gap) : Filled gap usable occupied := by
  have hside : ∀ side, freeSpace occupied usable side ≤ gap := by
    intro side
    obtain ⟨b, hmem, hfree⟩ := h side
    have hwithin := Box.within_iff.1 (Box.within_bounding hb b hmem)
    cases side <;> simp only [freeSpace] at * <;> omega
  exact ⟨hside .left, hside .right, hside .top, hside .bottom⟩

theorem placements_fillRounds_eq_nil {gap : Int} {skip : Option WindowRef} {max : Nat}
    {fs : List Filling} (h : ∀ f ∈ fs, f.placements gap skip = []) :
    (fillRounds gap skip max fs).placements = [] := by
  induction max generalizing fs with
  | zero => rfl
  | succ max ih =>
    simp only [fillRounds]
    split
    · rfl
    · refine List.append_eq_nil_iff.2 ⟨List.flatMap_eq_nil_iff.2 h, ih ?_⟩
      rw [List.forall_mem_map]
      intro f hf
      exact Filling.placements_of_settled (by rw [Filling.next, h f hf]; rfl)

namespace Screen

variable {s : Screen} {gap : Int} {target : Option Target}

theorem tiles_laidOut_plain (h : s.Proper) (hr : s.region.resized? target = none) :
    (s.laidOut gap target).tiles = (s.region.tiles.zip (s.gridCells gap)).map fun e =>
      { e.1 with box := e.1.contentOf e.2 s.region.usable } := by
  have hlength := length_gridCells h gap
  have hzip : (s.region.tiles.zip (s.gridCells gap)).map Prod.fst = s.region.tiles :=
    List.map_fst_zip (Nat.le_of_eq hlength.symm)
  have hbox : ∀ e ∈ s.region.tiles.zip (s.gridCells gap),
      boxAfter (s.placements gap target) e.1.window e.1.box =
        e.1.contentOf e.2 s.region.usable := by
    intro e he
    simp only [placements, layOut_plain h hr]
    exact boxAfter_zip h.nodup hlength (fun t c => t.contentOf c s.region.usable) he _
  calc (s.laidOut gap target).tiles
      = ((s.region.tiles.zip (s.gridCells gap)).map Prod.fst).map fun t =>
          { t with box := boxAfter (s.placements gap target) t.window t.box } := by
        rw [hzip, laidOut_tiles]
    _ = _ := by
        rw [List.map_map]
        exact List.map_congr_left fun e he => congrArg (fun b => { e.1 with box := b }) (hbox e he)

/-- **A plain grid leaves nothing to fill.** -/
theorem fillRegion_laidOut_eq_nil (h : s.Proper) (hm : ∀ t ∈ s.region.tiles, t.margins.Nonneg)
    (hg : 0 ≤ gap) (hr : s.region.resized? target = none) (skip : Option WindowRef) :
    fillRegion gap skip (s.laidOut gap target) = [] := by
  obtain ⟨g, -, hfits, hcells⟩ := gridCells_spec h gap
  have hnear : ∀ side, ∃ b ∈ (s.laidOut gap target).tiles.map Tile.full,
      freeSpace b s.region.usable side ≤ gap := by
    intro side
    obtain ⟨c, hc, hfree⟩ := Grid.exists_cell_near hfits (List.length_pos_iff.2 h.tiles_ne)
      hcells side
    rw [← List.map_snd_zip (Nat.le_of_eq (length_gridCells h gap))] at hc
    obtain ⟨e, he, rfl⟩ := List.mem_map.1 hc
    rw [tiles_laidOut_plain h hr, List.map_map]
    exact ⟨_, List.mem_map_of_mem he, Tile.freeSpace_expand_contentOf
      (hm e.1 (List.of_mem_zip he).1) h.nonneg hg hfree⟩
  simp only [fillRegion]
  cases hb : Box.bounding ((s.laidOut gap target).tiles.map Tile.full) with
  | none => rfl
  | some occupied => exact if_pos (filled_of_near hb hnear)

end Screen

namespace Desktop

variable {d : Desktop} {decoration : Decoration} {gap : Int}

theorem placements_filled_layOutAll (h : d.Sound)
    (hm : ∀ w, (decoration.margins (d.window w)).Nonneg) (hg : 0 ≤ gap) :
    ((layOutAll gap (d.screens decoration) none).filled gap).placements =
      (layOutAll gap (d.screens decoration) none).placements := by
  by_cases hf : (layOutAll gap (d.screens decoration) none).fault = none
  · have hproper := h.proper_screens ((fault_layOutAll_screens_eq_none_iff h).1 hf)
    have hlaid := @layOutAll_ok gap _ hproper (h.apart_screens decoration) none
    rw [Plan.placements_filled hf, hlaid.regions_eq, fill, placements_fillRounds_eq_nil,
      List.append_nil]
    refine List.forall_mem_map.2 (List.forall_mem_map.2 fun s hs => ?_)
    obtain ⟨o, -, -, rfl⟩ := mem_screens.1 hs
    exact Screen.fillRegion_laidOut_eq_nil (hproper _ hs) (nonneg_margins_screen hm o) hg rfl _
  · rw [Plan.filled, if_pos (Option.isSome_iff_ne_none.2 hf)]

/-- **Without a window under resize** a pass that fills ends as one with plain grids does. -/
theorem arrange_smart_eq_arrange_grid (h : d.Sound)
    (hm : ∀ w, (decoration.margins (d.window w)).Nonneg) (hg : 0 ≤ gap) :
    d.arrange decoration gap .smart none = d.arrange decoration gap .grid none := by
  simp only [arrange, planPass, placements_filled_layOutAll h hm hg, Plan.target_filled,
    Plan.fault_filled]

end Desktop

/-! ## Clean screens -/

/-- The grid of the screen has room for the gaps, and every cell is at least as large as the
decorations of its window. -/
structure Screen.Clean (s : Screen) (gap : Int) : Prop where
  roomy : ∀ g ∈ s.gridFor s.region.tiles.length, g.Roomy s.region.usable gap
  large : ∀ e ∈ s.region.tiles.zip (s.gridCells gap),
    e.1.margins.horizontal ≤ e.2.width ∧ e.1.margins.vertical ≤ e.2.height

instance (s : Screen) (gap : Int) : Decidable (s.Clean gap) :=
  decidable_of_iff
    ((∀ g ∈ s.gridFor s.region.tiles.length, g.Roomy s.region.usable gap) ∧
      ∀ e ∈ s.region.tiles.zip (s.gridCells gap),
        e.1.margins.horizontal ≤ e.2.width ∧ e.1.margins.vertical ≤ e.2.height)
    ⟨fun h => ⟨h.1, h.2⟩, fun h => ⟨h.roomy, h.large⟩⟩

namespace Screen

variable {s : Screen} {gap : Int} {target : Option Target}

theorem Clean.inside (hc : s.Clean gap) (h : s.Proper) (hg : 0 ≤ gap) :
    ∀ c ∈ s.gridCells gap, c.InsideBy gap s.region.usable ∧ c.Nonneg := by
  obtain ⟨g, hgrid, hfits, hcells⟩ := gridCells_spec h gap
  exact Grid.cells_inside hfits hg (hc.roomy g hgrid) (Grid.shape_of_splitsLeft hgrid)
    (List.length_pos_iff.2 h.tiles_ne) hcells

theorem gridCells_spaced (h : s.Proper) (hg : 0 ≤ gap) :
    (s.gridCells gap).Pairwise (Box.SpacedBy gap) := by
  obtain ⟨g, -, hfits, hcells⟩ := gridCells_spec h gap
  exact Grid.cells_spaced hfits hg (List.length_pos_iff.2 h.tiles_ne) hcells

/-- **On a clean screen** the full boxes after a plain grid are the cells. -/
theorem Clean.map_full_laidOut (hc : s.Clean gap) (h : s.Proper)
    (hm : ∀ t ∈ s.region.tiles, t.margins.Nonneg) (hg : 0 ≤ gap)
    (hr : s.region.resized? target = none) :
    (s.laidOut gap target).tiles.map Tile.full = s.gridCells gap := by
  have hcells : (s.region.tiles.zip (s.gridCells gap)).map Prod.snd = s.gridCells gap :=
    List.map_snd_zip (Nat.le_of_eq (length_gridCells h gap))
  rw [tiles_laidOut_plain h hr, List.map_map]
  conv_rhs => rw [← hcells]
  apply List.map_congr_left
  intro e he
  obtain ⟨ht, hcell⟩ := List.of_mem_zip he
  obtain ⟨hwide, htall⟩ := hc.large e he
  have hwithin : e.2.Within s.region.usable := by
    have hinside := Box.insideBy_iff.1 (hc.inside h hg e.2 hcell).1
    rw [Box.within_iff]
    omega
  show (e.1.contentOf e.2 s.region.usable).expand e.1.margins = e.2
  rw [Tile.contentOf_of_within (hm e.1 ht) hwithin hwide htall, Box.expand_inset hwide htall]

end Screen

namespace Desktop

variable {d : Desktop} {decoration : Decoration} {gap : Int}

theorem map_fullBox_arrange_grid (h : d.Sound) (hp : d.Plannable decoration) {o : OutputRef}
    (ho : o ∈ d.outputs.values) (hc : d.Concerns o) :
    (d.eligible o).map ((d.arrange decoration gap .grid none).desktop.fullBox decoration) =
      ((d.screen decoration o).laidOut gap none).tiles.map Tile.full := by
  rw [Screen.laidOut_tiles]
  simp only [screen, List.map_map]
  apply List.map_congr_left
  intro w hw
  have hbox := @box_arrange_grid d decoration gap none h hp o ho hc w hw
  rw [fullBox, alike_arrange.margins_eq, hbox]
  rfl

/-- **Filling and plain grids on clean screens.** They end the same; and unless a fault stops the
pass, on every usable output the full boxes of the windows tiled there are the cells of the grid,
lie at least the gap inside the usable area, and are at least the gap apart. -/
theorem arrange_clean (h : d.Sound) (hm : ∀ w, (decoration.margins (d.window w)).Nonneg)
    (hg : 0 ≤ gap) (hclean : ∀ s ∈ d.screens decoration, s.Clean gap) :
    let pass := d.arrange decoration gap .smart none
    pass = d.arrange decoration gap .grid none ∧
    (pass.fault = none → ∀ o ∈ d.outputs.values, (d.output o).isUsable = true →
      (d.eligible o).map (pass.desktop.fullBox decoration) =
        (d.screen decoration o).gridCells gap ∧
      (∀ w ∈ d.eligible o,
        (pass.desktop.fullBox decoration w).InsideBy gap (d.output o).usable) ∧
      (d.eligible o).Pairwise fun v w =>
        (pass.desktop.fullBox decoration v).SpacedBy gap (pass.desktop.fullBox decoration w)) := by
  intro pass
  have hgrid : pass = d.arrange decoration gap .grid none := arrange_smart_eq_arrange_grid h hm hg
  refine ⟨hgrid, fun hf o ho hu => ?_⟩
  have hp : d.Plannable decoration := (arrange_fault_eq_none_iff h).1 hf
  by_cases hnil : d.eligible o = []
  · rw [hnil]
    refine ⟨?_, fun w hw => absurd hw List.not_mem_nil, .nil⟩
    simp only [screen, Screen.gridCells, hnil]
    rfl
  · have hc : d.Concerns o := ⟨hu, .inl hnil⟩
    have hproper := h.proper_screen hp ho hc
    have hsclean := hclean _ (mem_screens.2 ⟨o, ho, hc, rfl⟩)
    have hboxes : (d.eligible o).map (pass.desktop.fullBox decoration) =
        (d.screen decoration o).gridCells gap := by
      rw [hgrid, map_fullBox_arrange_grid h hp ho hc]
      exact hsclean.map_full_laidOut hproper (nonneg_margins_screen hm o) hg rfl
    refine ⟨hboxes, fun w hw => ?_, ?_⟩
    · exact (hsclean.inside hproper hg _ (hboxes ▸ List.mem_map_of_mem hw)).1
    · rw [← List.pairwise_map (R := Box.SpacedBy gap), hboxes]
      exact Screen.gridCells_spaced hproper hg

/-- Two windows with borders and titlebars. -/
def framedDesktop : Desktop :=
  (ofBoxes ⟨0, 0, 1000, 800⟩ [⟨0, 0, 5, 5⟩, ⟨5, 5, 9, 9⟩]).framed

set_option maxRecDepth 2000 in
/-- They share the output with nothing but gaps between their frames. -/
theorem arrange_clean_framed :
    let pass := framedDesktop.arrange {} 10 .smart none
    pass.fault = none ∧ pass.moves = (framedDesktop.arrange {} 10 .grid none).moves ∧
      (framedDesktop.eligible ⟨0⟩).map (pass.desktop.fullBox {}) =
        [⟨10, 10, 485, 780⟩, ⟨505, 10, 485, 780⟩] := by
  intro pass
  have hfault : pass.fault = none := by decide
  obtain ⟨hgrid, hcells⟩ := @arrange_clean framedDesktop {} 10 (by decide)
    (fun w => Decoration.nonneg_margins ⟨by decide, by decide⟩ _) (by decide) (by decide)
  obtain ⟨hboxes, -, -⟩ := hcells hfault ⟨0⟩ (by decide) (by decide)
  refine ⟨hfault, congrArg (fun p : Pass => p.moves) hgrid, hboxes.trans ?_⟩
  decide

end Desktop

end WindowTiling
