import WindowTiling.Proofs.Growth
import WindowTiling.Proofs.ResizedBox

/-!
# Windows clear of the resized one

The windows around a resized one are meant to stay clear of it, and they do where there is room:
the strip has room for the gaps, its cells for the decorations, and the resized window is thicker
than the gap and the tolerance. Where there is none they may come to lie over it, in two ways. Cells
of a strip that is too small for the gaps stick out of the strip. And the filler, which leaves the
resized window alone but does not go around it, may grow a window over it: over a window so thin
that it takes the window's far edge for the border of the occupied box, or after decorations larger
than a cell have pushed a full box over it.

**Theorem (`clear_iff`).** These are the only ways. After a pass the resized window shares no cell
with another one just when the cells of the windows that the filler does not place leave it clear,
and so does every box that the filler gives. Windows left in place are always clear of it.

The filler's boxes matter one by one, not only the last ones, because a window that has got a cell
by being grown never gives it up (`Region.mem_filled_of_mem`).

`Desktop.clear_of_roomy` is the case with room.
-/

namespace WindowTiling

namespace Screen

variable {s : Screen} {gap : Int} {target : Option Target} {resized : Tile} {geometry : Box}

/-! ## Windows left in place -/

theorem settled_within (h : s.Proper) :
    (s.settled gap resized geometry).Within s.region.usable ∧
      (s.settled gap resized geometry).Nonneg :=
  ⟨resolveResized_within _ h.nonneg _ _ _, nonneg_resolveResized _ _ _ _ _⟩

theorem not_overlaps_settled_of_mem_kept (h : s.Proper) (hg : 0 ≤ gap) {t : Tile}
    (ht : t ∈ s.kept gap resized geometry) :
    ¬ (s.settled gap resized geometry).Overlaps t.full := by
  rcases @settled_cases s gap resized geometry h hg with heq | ⟨side, -, -, hclear, -⟩
  · rw [heq]
    exact not_overlaps_of_mem_kept h hg ht
  · exact hclear t ht

theorem disjoint_of_not_overlaps_full (hm : resized.margins.Nonneg) {full usable : Box} {t : Tile}
    (htm : t.margins.Nonneg) (h : ¬ full.Overlaps t.full) :
    (resized.contentOf full usable).Disjoint t.box := fun _ hp =>
  h (Box.overlaps_of_mem (Tile.mem_contentOf hm hp.1).1 (Box.mem_expand_of_mem htm hp.2))

theorem kept_or_strip (h : s.Proper) {t : Tile} (ht : t ∈ s.others resized) :
    t ∈ s.kept gap resized geometry ∨ ∃ e ∈ s.strip gap resized geometry, e.1 = t := by
  by_cases hp : t.window ∈ (s.fitted gap resized geometry).placed.map (·.window)
  · right
    obtain ⟨u, hu, hut⟩ := List.mem_map.1 hp
    have hmem := (mem_others.1 (mem_others_of_mem_placed hu)).1
    obtain rfl : u = t := List.inj_on_of_nodup_map h.nodup hmem (mem_others.1 ht).1 hut
    exact exists_mem_strip (List.ne_nil_of_mem ht) hu
  · exact .inl (mem_kept.2 ⟨ht, hp⟩)

/-! ## Where there is room -/

/-- There is room around the resized window: the strip has room for the gaps and its cells for the
decorations, the windows left in place fit, and the resized window is thicker than the gap and the
tolerance and as large as its decorations. -/
structure Roomy (s : Screen) (gap : Int) (resized : Tile) (geometry : Box) : Prop where
  grid : ∀ g ∈ (s.fitted gap resized geometry).grid,
    g.Roomy (s.fitted gap resized geometry).area gap
  cells : ∀ e ∈ s.strip gap resized geometry,
    e.1.margins.horizontal ≤ e.2.width ∧ e.1.margins.vertical ≤ e.2.height
  kept : ∀ t ∈ s.kept gap resized geometry, t.Fits s.region.usable
  width : gap + edgeTolerance < (s.settled gap resized geometry).width
  height : gap + edgeTolerance < (s.settled gap resized geometry).height
  border : resized.margins.horizontal ≤ (s.settled gap resized geometry).width ∧
    resized.margins.vertical ≤ (s.settled gap resized geometry).height

theorem exists_cell_of_mem_strip (ho : s.others resized ≠ []) {e : Tile × Box}
    (he : e ∈ s.strip gap resized geometry) : ∃ g ∈ (s.fitted gap resized geometry).grid,
      g.Fits (s.fitted gap resized geometry).placed.length ∧
      ∃ i < (s.fitted gap resized geometry).placed.length,
        e.2 = g.cell (s.fitted gap resized geometry).area gap
          (g.cellSize (s.fitted gap resized geometry).area gap) (i : Int) := by
  obtain ⟨g, hg, hfits⟩ := @fitted_grid s gap resized geometry ho
  have hmem : e.2 ∈ s.stripCells gap resized geometry := (List.of_mem_zip he).2
  have hpos : (s.fitted gap resized geometry).placed.length ≠ 0 :=
    Nat.ne_of_gt (List.length_pos_of_mem (mem_of_mem_strip he))
  simp only [stripCells, hg, Option.bind_some, Grid.cells, if_neg hpos, Bool.false_and,
    Bool.false_eq_true, if_false, if_pos hfits.divisible, Option.getD_some] at hmem
  obtain ⟨i, hi, heq⟩ := List.mem_map.1 hmem
  exact ⟨g, hg, hfits, i, List.mem_range.1 hi, heq.symm⟩

/-- With room the cells lie in the strip, and so beside the box that the resized window keeps. -/
theorem Roomy.cell_clear (hroom : s.Roomy gap resized geometry) (h : s.Proper) (hg : 0 ≤ gap)
    (ho : s.others resized ≠ []) {e : Tile × Box} (he : e ∈ s.strip gap resized geometry) :
    e.2.Within s.region.usable ∧ ¬ (s.fitted gap resized geometry).resized.Overlaps e.2 := by
  obtain ⟨g, hgrid, hfits, i, hi, hcell⟩ := exists_cell_of_mem_strip ho he
  obtain ⟨⟨hl, hr⟩, ⟨ht, hb⟩, -⟩ := Grid.cell_inside hfits hg (hroom.grid g hgrid) hi
  have hinside : e.2.Within (s.fitted gap resized geometry).area := by
    rw [hcell, Box.within_iff]
    omega
  obtain ⟨side, parts⟩ := parts_fitted h hg resized geometry
  obtain ⟨hw, hn⟩ := @resized_within s gap resized geometry h hg
  refine ⟨hinside.trans ?_, Box.not_overlaps_of_within ?_ hinside⟩
  · rw [parts.area_eq]
    exact sideArea_within hw hn side
  · rw [parts.area_eq]
    exact not_overlaps_sideArea _ _ _

theorem Roomy.full_cell (hroom : s.Roomy gap resized geometry) (h : s.Proper) (hg : 0 ≤ gap)
    (ho : s.others resized ≠ []) {e : Tile × Box} (he : e ∈ s.strip gap resized geometry)
    (hm : e.1.margins.Nonneg) :
    Tile.full { e.1 with box := e.1.contentOf e.2 s.region.usable } = e.2 ∧
      Tile.Fits { e.1 with box := e.1.contentOf e.2 s.region.usable } s.region.usable :=
  (Tile.fits_of_border_le hm (hroom.cell_clear h hg ho he).1 (hroom.cells e he).1
    (hroom.cells e he).2).2

theorem Roomy.cell_clear_settled (hroom : s.Roomy gap resized geometry) (h : s.Proper)
    (hg : 0 ≤ gap) (ho : s.others resized ≠ []) {e : Tile × Box}
    (he : e ∈ s.strip gap resized geometry) (hm : e.1.margins.Nonneg) :
    ¬ (s.settled gap resized geometry).Overlaps e.2 := by
  rcases @settled_cases s gap resized geometry h hg with heq | ⟨side, -, -, -, hclear⟩
  · rw [heq]
    exact (hroom.cell_clear h hg ho he).2
  · -- The window of the cell is one of those that the grown box is clear of.
    have hbox : boxAfter (s.stripPlacements gap resized geometry) e.1.window e.1.box =
        e.1.contentOf e.2 s.region.usable :=
      boxAfter_zip (nodup_placed h) (stripPlacements_ok ho).1
        (fun t c => t.contentOf c s.region.usable) he _
    have hmem : { e.1 with box := e.1.contentOf e.2 s.region.usable } ∈
        s.neighbours gap resized geometry := by
      rw [neighbours, placeAll_eq_map, ← hbox]
      exact List.mem_map_of_mem (mem_of_mem_strip he)
    rw [← (hroom.full_cell h hg ho he hm).1]
    exact hclear _ hmem

/-- **With room the layout leaves all windows clear of the resized one.** -/
theorem Roomy.laidOut_clear (hroom : s.Roomy gap resized geometry) (h : s.Proper) (hg : 0 ≤ gap)
    (hm : ∀ t ∈ s.region.tiles, t.margins.Nonneg)
    (hr : s.region.resized? target = some (resized, geometry)) (ho : s.others resized ≠ []) :
    (s.laidOut gap target).Clear resized.window (s.settled gap resized geometry) := by
  have hresized := (Region.of_resized? hr).1
  refine ⟨⟨_, Region.mem_placeAll_iff.2 ⟨resized, hresized, rfl⟩, rfl, ?_⟩, fun t' ht' hne => ?_⟩
  · rw [boxAfter_resized h hr ho]
    exact (Tile.fits_of_border_le (hm resized hresized) (settled_within h).1 hroom.border.1
      hroom.border.2).2.1
  · obtain ⟨t, ht, rfl⟩ := Region.mem_placeAll_iff.1 ht'
    rcases @kept_or_strip s gap resized geometry h t (mem_others.2 ⟨ht, hne⟩) with hk | ⟨e, he, rfl⟩
    · rw [boxAfter_of_forall_ne (ne_of_mem_kept h hr ho hk)]
      exact ⟨hroom.kept t hk, fun hov => not_overlaps_settled_of_mem_kept h hg hk hov.symm⟩
    · obtain ⟨hfull, hfits⟩ := hroom.full_cell h hg ho he (hm e.1 ht)
      rw [boxAfter_placed h hr ho he, hfull]
      exact ⟨hfits, fun hov => hroom.cell_clear_settled h hg ho he (hm e.1 ht) hov.symm⟩

end Screen

/-! ## The pass -/

namespace Desktop

variable {d : Desktop} {decoration : Decoration} {gap : Int} {o : OutputRef} {t : Target}

theorem Sound.sane_laidOut (h : d.Sound) (hp : d.Plannable decoration)
    (hm : ∀ w, (decoration.margins (d.window w)).Nonneg) (ho : o ∈ d.outputs.values)
    (hc : d.Concerns o) (gap : Int) (target : Option Target) :
    ((d.screen decoration o).laidOut gap target).Sane := by
  have hproper := h.proper_screen hp ho hc
  exact Region.Sane.placeAll ⟨hproper.nodup, nonneg_margins_screen hm o, hproper.nonneg⟩ _

theorem box_arrange_resized (h : d.Sound) (hp : d.Plannable decoration)
    (ho : o ∈ d.outputs.values) (hc : d.Concerns o) (ht : t.window ∈ d.eligible o)
    (hother : (d.screen decoration o).others (d.tile decoration t.window) ≠ []) :
    ((d.arrange decoration gap .smart (some t)).desktop.window t.window).box =
      (d.screen decoration o).settledContent gap (d.tile decoration t.window) t.geometry := by
  have hproper := h.proper_screen hp ho hc
  rw [box_arrange_target h hp ho hc ht]
  exact Screen.boxAfter_resized hproper (resized?_screen ht) hother _

theorem tile_mem_others {w : WindowRef} (hw : w ∈ d.eligible o) (hne : w ≠ t.window) :
    d.tile decoration w ∈ (d.screen decoration o).others (d.tile decoration t.window) :=
  Screen.mem_others.2 ⟨List.mem_map_of_mem hw, hne⟩

/-- **Where there is room, a pass leaves all windows clear of the resized one.** -/
theorem clear_of_roomy (h : d.Sound) (hp : d.Plannable decoration)
    (hm : ∀ w, (decoration.margins (d.window w)).Nonneg) (ho : o ∈ d.outputs.values)
    (hc : d.Concerns o) (hg : 0 ≤ gap) (ht : t.window ∈ d.eligible o)
    (hroom : (d.screen decoration o).Roomy gap (d.tile decoration t.window) t.geometry)
    {w : WindowRef} (hw : w ∈ d.eligible o) (hne : w ≠ t.window) :
    let pass := d.arrange decoration gap .smart (some t)
    ((pass.desktop.window t.window).box).Disjoint (pass.desktop.window w).box := by
  intro pass
  have hproper := h.proper_screen hp ho hc
  have hother := List.ne_nil_of_mem (@tile_mem_others d decoration o t w hw hne)
  have hlaid := hroom.laidOut_clear hproper hg (nonneg_margins_screen hm o) (resized?_screen ht)
    hother
  have hsane := h.sane_laidOut hp hm ho hc gap (some t)
  have hregion : (pass.desktop.screen decoration o).region =
      ((d.screen decoration o).laidOut gap (some t)).filled gap (some t.window) maxFillRounds :=
    region_arrange h hp ho hc
  have hfilled : (pass.desktop.screen decoration o).region.Clear t.window
      ((d.screen decoration o).settled gap (d.tile decoration t.window) t.geometry) := by
    rw [hregion]
    exact hlaid.filled hg hsane hroom.width hroom.height maxFillRounds
  have hmem : pass.desktop.tile decoration w ∈ (pass.desktop.screen decoration o).region.tiles := by
    refine List.mem_map_of_mem ?_
    rw [eligible_arrange]
    exact hw
  have hwm : (pass.desktop.tile decoration w).margins.Nonneg := by
    rw [hregion] at hmem
    exact (hsane.placeAll _).margins _ hmem
  rw [box_arrange_resized h hp ho hc ht hother]
  exact Screen.disjoint_of_not_overlaps_full (hm t.window) hwm
    fun hov => (hfilled.others _ hmem hne).2 hov.symm

/-- **Where the other windows end up.** A window beside the resized one has a box that the filler
gives it; else it is left in place, or has the content that its cell in the strip leaves. -/
theorem box_arrange_other (h : d.Sound) (hp : d.Plannable decoration) (ho : o ∈ d.outputs.values)
    (hc : d.Concerns o) (ht : t.window ∈ d.eligible o) {w : WindowRef} (hw : w ∈ d.eligible o)
    (hne : w ≠ t.window) :
    let tile := d.tile decoration t.window
    let s := d.screen decoration o
    let fills := d.fillPlacements decoration gap (some t) o
    let final := ((d.arrange decoration gap .smart (some t)).desktop.window w).box
    (∃ p ∈ fills, p.window = w ∧ final = p.box) ∨
      (∀ p ∈ fills, p.window ≠ w) ∧
        (d.tile decoration w ∈ s.kept gap tile t.geometry ∧ final = (d.window w).box ∨
          ∃ e ∈ s.strip gap tile t.geometry, e.1 = d.tile decoration w ∧
            final = e.1.contentOf e.2 s.region.usable) := by
  intro tile s fills final
  have hproper : s.Proper := h.proper_screen hp ho hc
  have hother : d.tile decoration w ∈ s.others tile := tile_mem_others hw hne
  have hr : s.region.resized? (some t) = some (tile, t.geometry) := resized?_screen ht
  have hbox : final = boxAfter fills w
      (boxAfter (s.placements gap (some t)) w (d.window w).box) := box_arrange h hp ho hc hw
  rw [hbox]
  by_cases hf : ∃ p ∈ fills, p.window = w
  · exact .inl (boxAfter_mem hf _)
  · have hnone : ∀ p ∈ fills, p.window ≠ w := fun p hpf hpw => hf ⟨p, hpf, hpw⟩
    refine .inr ⟨hnone, ?_⟩
    rw [boxAfter_of_forall_ne hnone]
    rcases @Screen.kept_or_strip s gap tile t.geometry hproper _ hother with hk | ⟨e, he, heq⟩
    · have hsame := Screen.ne_of_mem_kept hproper hr (List.ne_nil_of_mem hother) hk
      exact .inl ⟨hk, boxAfter_of_forall_ne hsame _⟩
    · have hcell := Screen.boxAfter_placed hproper hr (List.ne_nil_of_mem hother) he
        (d.window w).box
      rw [show e.1.window = w from congrArg Tile.window heq] at hcell
      exact .inr ⟨e, he, heq, hcell⟩

theorem window_of_mem_fillPlacements (d : Desktop) {target : Option Target} {p : Placement}
    (hp : p ∈ d.fillPlacements decoration gap target o) :
    p.window ∈ (d.screen decoration o).region.tiles.map (·.window) := by
  have hmem := (Region.accepts_fillPlacements gap _ maxFillRounds _ p hp).1
  rwa [Screen.laidOut, Region.map_window_placeAll] at hmem

/-- **When a pass leaves all windows clear of the resized one.** They share no cell with it just
when the cells of those windows of the strip that the filler leaves alone do not, and the boxes that
the filler gives do not. Where there is room this is so. -/
theorem clear_iff (h : d.Sound) (hp : d.Plannable decoration)
    (hm : ∀ w, (decoration.margins (d.window w)).Nonneg) (ho : o ∈ d.outputs.values)
    (husable : (d.output o).isUsable = true) (hg : 0 ≤ gap) (ht : t.window ∈ d.eligible o) :
    let tile := d.tile decoration t.window
    let s := d.screen decoration o
    let fills := d.fillPlacements decoration gap (some t) o
    let pass := d.arrange decoration gap .smart (some t)
    let final := fun w => (pass.desktop.window w).box
    pass.fault = none ∧
      ((∀ w ∈ d.eligible o, w ≠ t.window → (final t.window).Disjoint (final w)) ↔
        (∀ e ∈ s.strip gap tile t.geometry, (∀ p ∈ fills, p.window ≠ e.1.window) →
          (final t.window).Disjoint (e.1.contentOf e.2 (d.output o).usable)) ∧
        ∀ p ∈ fills, (final t.window).Disjoint p.box) ∧
      (s.Roomy gap tile t.geometry →
        ∀ w ∈ d.eligible o, w ≠ t.window → (final t.window).Disjoint (final w)) := by
  intro tile s fills pass final
  have hc : d.Concerns o := ⟨husable, .inl (List.ne_nil_of_mem ht)⟩
  have hproper : s.Proper := h.proper_screen hp ho hc
  have hr : s.region.resized? (some t) = some (tile, t.geometry) := resized?_screen ht
  have hsane := h.sane_laidOut hp hm ho hc gap (some t)
  -- Every window has the box that the layout and then the filler give it.
  have hbox : ∀ u ∈ s.region.tiles, u.window ∈ d.eligible o ∧ final u.window =
      boxAfter fills u.window (boxAfter (s.placements gap (some t)) u.window u.box) := by
    intro u hu
    obtain ⟨w, hw, rfl⟩ := List.mem_map.1 hu
    exact ⟨hw, box_arrange h hp ho hc hw⟩
  refine ⟨(arrange_fault_eq_none_iff h).2 hp, ⟨fun hall => ⟨fun e he hne => ?_, fun p hpf => ?_⟩,
    fun ⟨hcells, hfills⟩ w hw hne => ?_⟩, fun hroom w hw hne =>
      clear_of_roomy h hp hm ho hc hg ht hroom hw hne⟩
  · -- The filler leaves the window alone, so that it has what its cell leaves in the end.
    have hother := Screen.mem_others_of_mem_placed (Screen.mem_of_mem_strip he)
    obtain ⟨hmem, hne'⟩ := Screen.mem_others.1 hother
    obtain ⟨hw, hlast⟩ := hbox e.1 hmem
    have hclear := hall e.1.window hw hne'
    rwa [hlast, boxAfter_of_forall_ne hne,
      Screen.boxAfter_placed hproper hr (List.ne_nil_of_mem hother) he] at hclear
  · -- A window may be filled again, but what it covers it goes on to cover, so that the boxes on
    -- the way are clear as well.
    obtain ⟨u, hu, huw⟩ := List.mem_map.1 (d.window_of_mem_fillPlacements hpf)
    obtain ⟨hw, hlast⟩ := hbox u hu
    have hne : u.window ≠ t.window := huw ▸ Region.fillPlacements_skip p hpf
    refine fun x hx => hall u.window hw hne x ⟨hx.1, ?_⟩
    rw [hlast]
    exact Region.mem_filled_of_mem hg hsane (Region.mem_placeAll_iff.2 ⟨u, hu, rfl⟩) hpf huw.symm
      hx.2
  · -- The other way round a window was filled, left in place or put into its cell.
    rcases box_arrange_other h hp ho hc ht hw hne with
      ⟨p, hpf, -, hlast⟩ | ⟨hnone, ⟨hk, hlast⟩ | ⟨e, he, heq, hlast⟩⟩
    · rw [show final w = _ from hlast]
      exact hfills p hpf
    · have hother := List.ne_nil_of_mem (@tile_mem_others d decoration o t w hw hne)
      rw [show final w = _ from hlast,
        show final t.window = _ from box_arrange_resized h hp ho hc ht hother]
      exact Screen.disjoint_of_not_overlaps_full (hm t.window) (hm w)
        (Screen.not_overlaps_settled_of_mem_kept hproper hg hk)
    · rw [show final w = _ from hlast]
      refine hcells e he ?_
      rwa [show e.1.window = w from congrArg Tile.window heq]

set_option maxRecDepth 4000 in
/-- Beside a window that leaves room for it another one is put clear of it. -/
theorem clear_iff_pair :
    let target : Target := ⟨⟨0⟩, ⟨10, 10, 400, 500⟩⟩
    let pass := pairDesktop.arrange .off 10 .smart (some target)
    pairDesktop.Sound ∧ pairDesktop.Plannable .off ∧
      (∀ w, (Decoration.off.margins (pairDesktop.window w)).Nonneg) ∧
      (pass.desktop.window ⟨0⟩).box = ⟨10, 10, 400, 780⟩ ∧
      (pass.desktop.window ⟨1⟩).box = ⟨420, 10, 570, 780⟩ ∧
      ((pass.desktop.window ⟨0⟩).box).Disjoint (pass.desktop.window ⟨1⟩).box := by
  intro target pass
  have hm := fun w => nonneg_margins_off (pairDesktop.window w)
  have hroom : (pairDesktop.screen .off ⟨0⟩).Roomy 10 (pairDesktop.tile .off ⟨0⟩)
      target.geometry :=
    ⟨by decide, by decide, by decide, by decide, by decide, by decide⟩
  obtain ⟨-, -, hclear⟩ := @clear_iff pairDesktop .off 10 ⟨0⟩ target (by decide) (by decide) hm
    (by decide) (by decide) (by decide) (by decide)
  exact ⟨by decide, by decide, hm, by decide, by decide,
    hclear hroom ⟨1⟩ (by decide) (by decide)⟩

/-- A window that leaves a strip just wider than the gap, and another one in the corner. -/
def narrowDesktop : Desktop := .ofBoxes ⟨0, 0, 100, 100⟩ [⟨11, 0, 89, 100⟩, ⟨0, 0, 5, 5⟩]

set_option maxRecDepth 4000 in
/-- The strip has no room for the gaps, and the cell in it sticks out over the resized window. -/
theorem narrow_strip_overlaps :
    let target : Target := ⟨⟨0⟩, ⟨11, 0, 89, 100⟩⟩
    let pass := narrowDesktop.arrange .off 10 .smart (some target)
    narrowDesktop.Sound ∧ (narrowDesktop.output ⟨0⟩).isUsable = true ∧
      pass.fault = none ∧ ⟨0⟩ ∈ narrowDesktop.eligible ⟨0⟩ ∧ ⟨1⟩ ∈ narrowDesktop.eligible ⟨0⟩ ∧
      (pass.desktop.window ⟨0⟩).box = ⟨11, 0, 89, 100⟩ ∧
      (pass.desktop.window ⟨1⟩).box = ⟨10, 10, 11, 90⟩ ∧
      ¬ ((pass.desktop.window ⟨0⟩).box).Disjoint (pass.desktop.window ⟨1⟩).box := by
  intro target pass
  have hresized : (pass.desktop.window ⟨0⟩).box = ⟨11, 0, 89, 100⟩ := by decide
  have hother : (pass.desktop.window ⟨1⟩).box = ⟨10, 10, 11, 90⟩ := by decide
  refine ⟨by decide, by decide, by decide, by decide, by decide, hresized, hother, fun h => ?_⟩
  rw [hresized, hother] at h
  refine h (15, 50) ⟨?_, ?_⟩ <;> simp [Box.mem_iff, Box.right, Box.bottom]

end Desktop

end WindowTiling
