import Mathlib.Data.List.Forall2
import WindowTiling.Proofs.PassOutcome

/-!
# Passes without memory

Where no window is under resize a pass does not look at where windows were. A grid gives every
window of a screen a new box, worked out from the number of windows and the usable area, and the
filler sees only these new boxes. So the plan of a pass is the same however windows lay before, and
a second pass makes the same plan again.

**Theorem (`arrange_forgets`).** Two passes over desktops that differ only in where windows are end
with the same boxes for the windows tiled on usable outputs, and after a pass a further one changes
no box. Windows on an output without usable area keep the boxes they had.

Small areas are no exception, although cells stick out there and little or nothing of them may be
left, because plans are compared as they are and not by what they achieve. Outputs without usable
area are (`unusable_output_remembers`): no window on them is ever placed, so there two passes end as
differently as they began.
-/

namespace WindowTiling

/-! ## Placing every window -/

theorem boxAfter_congr_of_mem {ps : List Placement} {w : WindowRef} (h : ∃ p ∈ ps, p.window = w)
    (b b' : Box) : boxAfter ps w b = boxAfter ps w b' := by
  induction ps generalizing b b' with
  | nil =>
    obtain ⟨p, hp, -⟩ := h
    exact absurd hp List.not_mem_nil
  | cons p ps ih =>
    rw [boxAfter_cons, boxAfter_cons]
    by_cases hp : p.window = w
    · rw [if_pos hp, if_pos hp]
    · refine ih ?_ _ _
      obtain ⟨q, hq, hqw⟩ := h
      rcases List.mem_cons.1 hq with rfl | hq
      · exact absurd hqw hp
      · exact ⟨q, hq, hqw⟩

theorem boxAfter_boxAfter (ps : List Placement) (w : WindowRef) (b : Box) :
    boxAfter ps w (boxAfter ps w b) = boxAfter ps w b := by
  by_cases h : ∃ p ∈ ps, p.window = w
  · exact boxAfter_congr_of_mem h _ _
  · have hne : ∀ p ∈ ps, p.window ≠ w := fun p hp hpw => h ⟨p, hp, hpw⟩
    rw [boxAfter_of_forall_ne hne, boxAfter_of_forall_ne hne]

namespace Tile

/-- What a tile shows of its window apart from where it is. -/
def bare (t : Tile) : WindowRef × Border := (t.window, t.margins)

end Tile

/-- Placements that name every window lead to the same tiles wherever these were. -/
theorem placeAll_congr {tiles tiles' : List Tile} (h : tiles'.map Tile.bare = tiles.map Tile.bare)
    {ps : List Placement} (hps : ∀ t ∈ tiles, ∃ p ∈ ps, p.window = t.window) :
    placeAll tiles' ps = placeAll tiles ps := by
  have key : ∀ l : List Tile, (∀ t ∈ l, ∃ p ∈ ps, p.window = t.window) →
      placeAll l ps = (l.map Tile.bare).map fun e => ⟨e.1, e.2, boxAfter ps e.1 {}⟩ := by
    intro l hl
    rw [placeAll_eq_map, List.map_map]
    apply List.map_congr_left
    intro t ht
    rw [boxAfter_congr_of_mem (hl t ht) t.box {}]
    rfl
  have hwindows : tiles'.map (·.window) = tiles.map (·.window) := by
    have := congrArg (List.map Prod.fst) h
    rwa [List.map_map, List.map_map] at this
  have hps' : ∀ t ∈ tiles', ∃ p ∈ ps, p.window = t.window := by
    intro t ht
    obtain ⟨u, hu, huw⟩ := List.mem_map.1 (hwindows ▸ List.mem_map_of_mem ht)
    exact huw ▸ hps u hu
  rw [key tiles hps, key tiles' hps', h]

/-! ## One screen -/

section Grids

variable {gap : Int} {usable area : Box} {grid : Option Grid} {allowSplit : Bool}
  {tiles tiles' : List Tile}

theorem placements_eq_bare (usable : Box) (tiles : List Tile) (cells : List Box) :
    ((tiles.zip cells).map fun (t, cell) =>
      (⟨t.window, t.contentOf cell usable⟩ : Placement)) =
    ((tiles.map Tile.bare).zip cells).map fun e => ⟨e.1.1, (e.2.inset e.1.2).clamp usable⟩ := by
  rw [List.zip_map_left, List.map_map]
  rfl

theorem gridPlacements_congr (h : tiles'.map Tile.bare = tiles.map Tile.bare) :
    gridPlacements gap usable area grid allowSplit tiles' =
      gridPlacements gap usable area grid allowSplit tiles := by
  have hlength : tiles'.length = tiles.length := by
    simpa only [List.length_map] using congrArg List.length h
  cases grid with
  | none => rfl
  | some g => simp only [gridPlacements, hlength, placements_eq_bare, h]

theorem exists_placement_of_gridPlacements {ps : List Placement}
    (h : gridPlacements gap usable area grid allowSplit tiles = .ok ps) :
    ∀ t ∈ tiles, ∃ p ∈ ps, p.window = t.window := by
  intro t ht
  simp only [gridPlacements] at h
  split at h
  · simp at h
  · split at h
    · simp at h
    · next cells hcells =>
      obtain rfl := Except.ok.inj h
      obtain ⟨e, he, rfl⟩ := Screen.exists_mem_zip (Grid.length_cells hcells) ht
      exact ⟨_, List.mem_map_of_mem he, rfl⟩

end Grids

namespace Screen

/-- Two screens are alike if they differ at most in where windows are. -/
structure Alike (s s' : Screen) : Prop where
  usable_eq : s'.region.usable = s.region.usable
  preference_eq : s'.preference = s.preference
  fault_eq : s'.fault = s.fault
  bare_eq : s'.region.tiles.map Tile.bare = s.region.tiles.map Tile.bare

variable {s s' : Screen} {gap : Int} {target : Option Target}

theorem Alike.map_window_eq (h : s.Alike s') :
    s'.region.tiles.map (·.window) = s.region.tiles.map (·.window) := by
  have := congrArg (List.map Prod.fst) h.bare_eq
  rwa [List.map_map, List.map_map] at this

theorem Alike.resized?_eq_none (h : s.Alike s') (hr : s.region.resized? target = none) :
    s'.region.resized? target = none := by
  rw [Region.resized?_eq_none_iff] at hr ⊢
  intro t ht
  obtain ⟨u, hu, huw⟩ := List.mem_map.1 (h.map_window_eq ▸ List.mem_map_of_mem ht)
  exact huw ▸ hr u hu

theorem Alike.layOut_eq (h : s.Alike s') (hr : s.region.resized? target = none) :
    s'.layOut gap target = s.layOut gap target := by
  have hlength : s'.region.tiles.length = s.region.tiles.length := by
    simpa only [List.length_map] using congrArg List.length h.bare_eq
  simp only [layOut, h.fault_eq, h.usable_eq, h.preference_eq, h.resized?_eq_none hr, hr, hlength,
    gridPlacements_congr h.bare_eq]

theorem of_layOut_plain {l : Layout} (hl : s.layOut gap target = .ok l)
    (hr : s.region.resized? target = none) :
    l.target = target ∧ ∀ t ∈ s.region.tiles, ∃ p ∈ l.placements, p.window = t.window := by
  simp only [layOut, hr] at hl
  split at hl
  · simp at hl
  · simp at hl
  · cases hg : gridPlacements gap s.region.usable s.region.usable _ true s.region.tiles with
    | error fault => rw [hg] at hl; cases hl
    | ok ps =>
      rw [hg] at hl
      cases hl
      exact ⟨rfl, exists_placement_of_gridPlacements hg⟩

end Screen

/-! ## All screens -/

section Plan

variable {gap : Int} {mode : TilingMode} {target : Option Target} {screens screens' : List Screen}

theorem layOutAll_congr (h : List.Forall₂ Screen.Alike screens screens')
    (hr : ∀ s ∈ screens, s.region.resized? target = none) :
    layOutAll gap screens' target = layOutAll gap screens target := by
  induction h with
  | nil => rfl
  | @cons s s' rest rest' hs _ ih =>
    obtain ⟨hrs, hr⟩ := List.forall_mem_cons.1 hr
    have hl' : s'.layOut gap target = s.layOut gap target := hs.layOut_eq hrs
    cases hl : s.layOut gap target with
    | error fault => simp only [layOutAll, hl', hl]
    | ok l =>
      obtain ⟨htarget, hplaced⟩ := Screen.of_layOut_plain hl hrs
      have hregion : s'.region.placeAll l.placements = s.region.placeAll l.placements := by
        rw [Region.placeAll, Region.placeAll, hs.usable_eq, placeAll_congr hs.bare_eq hplaced]
      simp only [layOutAll, hl', hl, htarget, ih hr, hregion]

theorem exists_placement_of_layOutAll (hr : ∀ s ∈ screens, s.region.resized? target = none)
    (hf : (layOutAll gap screens target).fault = none) :
    ∀ s ∈ screens, ∀ t ∈ s.region.tiles,
      ∃ p ∈ (layOutAll gap screens target).placements, p.window = t.window := by
  induction screens with
  | nil => exact fun s hs => absurd hs List.not_mem_nil
  | cons s rest ih =>
    obtain ⟨hrs, hr⟩ := List.forall_mem_cons.1 hr
    cases hl : s.layOut gap target with
    | error fault => simp [layOutAll, hl] at hf
    | ok l =>
      obtain ⟨htarget, hplaced⟩ := Screen.of_layOut_plain hl hrs
      simp only [layOutAll, hl, htarget] at hf ⊢
      refine List.forall_mem_cons.2 ⟨fun t ht => ?_, fun r hrest t ht => ?_⟩
      · obtain ⟨p, hp, hpw⟩ := hplaced t ht
        exact ⟨p, List.mem_append_left _ hp, hpw⟩
      · obtain ⟨p, hp, hpw⟩ := ih hr hf r hrest t ht
        exact ⟨p, List.mem_append_right _ hp, hpw⟩

/-- No window of the screens is under resize in a pass: there are only grids, or the target's window
is on none of the screens. -/
def AtRest (mode : TilingMode) (target : Option Target) (screens : List Screen) : Prop :=
  mode = .grid ∨ mode = .smart ∧ ∀ s ∈ screens, s.region.resized? target = none

/-- **Plans have no memory.** Where no window is under resize, where windows are does not matter for
the plan of a pass. -/
theorem planPass_congr (h : List.Forall₂ Screen.Alike screens screens')
    (hrest : AtRest mode target screens) :
    planPass mode gap screens' target = planPass mode gap screens target := by
  rcases hrest with rfl | ⟨rfl, hr⟩
  · exact layOutAll_congr h fun _ _ => rfl
  · rw [planPass, planPass, layOutAll_congr h hr]

theorem exists_placement_of_planPass (hrest : AtRest mode target screens)
    (hf : (planPass mode gap screens target).fault = none) :
    ∀ s ∈ screens, ∀ t ∈ s.region.tiles,
      ∃ p ∈ (planPass mode gap screens target).placements, p.window = t.window := by
  rcases hrest with rfl | ⟨rfl, hr⟩
  · exact exists_placement_of_layOutAll (fun _ _ => rfl) hf
  · rw [planPass, Plan.fault_filled] at hf
    intro s hs t ht
    obtain ⟨p, hp, hpw⟩ := exists_placement_of_layOutAll hr hf s hs t ht
    rw [planPass, Plan.placements_filled hf]
    exact ⟨p, List.mem_append_left _ hp, hpw⟩

end Plan

/-! ## The desktop -/

namespace Desktop

variable {d d' : Desktop} {decoration : Decoration} {gap : Int} {mode : TilingMode}
  {target : Option Target}

/-- Two desktops differ at most in where windows are. -/
structure Rearranged (d d' : Desktop) : Prop extends d.Alike d' where
  output_eq : ∀ o, d'.output o = d.output o

theorem Rearranged.screens (h : d.Rearranged d') (decoration : Decoration) :
    List.Forall₂ Screen.Alike (d.screens decoration) (d'.screens decoration) := by
  have hconcerns : ∀ o, d'.Concerns o ↔ d.Concerns o := fun o =>
    h.concerns_iff (by rw [h.output_eq])
  have hfilter : d'.outputs.values.filter (fun o => d'.Concerns o) =
      d.outputs.values.filter fun o => d.Concerns o := by
    rw [h.outputs_eq]
    exact List.filter_congr fun o _ => decide_eq_decide.2 (hconcerns o)
  rw [Desktop.screens, Desktop.screens, hfilter, List.forall₂_map_left_iff,
    List.forall₂_map_right_iff, List.forall₂_same]
  intro o _
  refine ⟨?_, ?_, ?_, ?_⟩
  · simp only [screen, h.output_eq]
  · simp only [screen, h.eligible_eq, h.preference_eq]
  · simp only [screen, h.eligible_eq, h.eligibleFault?_eq, h.preferenceFault?_eq]
  · simp only [screen, h.eligible_eq, List.map_map]
    apply List.map_congr_left
    intro w _
    simp only [Function.comp_apply, Tile.bare, tile, h.margins_eq]

theorem rearranged_arrange : d.Rearranged (d.arrange decoration gap mode target).desktop :=
  ⟨alike_arrange, output_arrange⟩

theorem rearranged_moveResize {w : WindowRef} {box : Box} (h : d.moveResize w box = some d') :
    d.Rearranged d' := by
  simp only [moveResize, Option.ite_none_right_eq_some] at h
  obtain ⟨-, h⟩ := h
  cases h
  refine ⟨⟨rfl, rfl, rfl, rfl, fun v => ?_⟩, fun o => rfl⟩
  rw [window_updateWindow]
  split
  · exact Window.Alike.withBox _ _
  · exact Window.Alike.refl _

theorem resized?_eq_none_of_forall_ne (h : ∀ o ∈ d.outputs.values, (d.output o).isUsable = true →
      ∀ w ∈ d.eligible o, some w ≠ target.map (·.window)) :
    ∀ s ∈ d.screens decoration, s.region.resized? target = none := by
  intro s hs
  obtain ⟨o, ho, hc, rfl⟩ := mem_screens.1 hs
  rw [Region.resized?_eq_none_iff]
  intro t ht
  obtain ⟨w, hw, rfl⟩ := List.mem_map.1 ht
  exact h o ho hc.1 w hw

/-- **Passes without memory.** Where no window is under resize, passes over desktops that differ
only in where windows are stop at the same fault, if at any, and if they run through give the
windows tiled on usable outputs the same boxes. A further pass changes no box. Windows on an output
without usable area keep their boxes. -/
theorem arrange_forgets (hrest : mode = .grid ∨ mode = .smart ∧ ∀ o ∈ d.outputs.values,
      (d.output o).isUsable = true → ∀ w ∈ d.eligible o, some w ≠ target.map (·.window))
    (h : d.Rearranged d') (decoration : Decoration) (gap : Int) :
    let pass := d.arrange decoration gap mode target
    let pass' := d'.arrange decoration gap mode target
    let again := pass.desktop.arrange decoration gap mode target
    pass'.fault = pass.fault ∧
      (pass.fault = none → ∀ o ∈ d.outputs.values, (d.output o).isUsable = true →
        ∀ w ∈ d.eligible o, (pass'.desktop.window w).box = (pass.desktop.window w).box) ∧
      again.fault = pass.fault ∧
      (∀ w, (again.desktop.window w).box = (pass.desktop.window w).box) ∧
      ∀ w o, (d.window w).output = some o → (d.output o).isUsable = false →
        (pass.desktop.window w).box = (d.window w).box := by
  intro pass pass' again
  have hscreens : AtRest mode target (d.screens decoration) :=
    hrest.imp_right fun hsmart => ⟨hsmart.1, resized?_eq_none_of_forall_ne hsmart.2⟩
  have hplan : planPass mode gap (d'.screens decoration) target =
      planPass mode gap (d.screens decoration) target :=
    planPass_congr (h.screens decoration) hscreens
  have hagain : planPass mode gap (pass.desktop.screens decoration) target =
      planPass mode gap (d.screens decoration) target :=
    planPass_congr (rearranged_arrange.screens decoration) hscreens
  refine ⟨?_, fun hf o ho hu w hw => ?_, ?_, fun w => ?_, fun w o ho hu => ?_⟩
  · rw [fault_arrange, fault_arrange, hplan]
  · rw [fault_arrange] at hf
    have hc : d.Concerns o := ⟨hu, .inl (List.ne_nil_of_mem hw)⟩
    have hplaced := exists_placement_of_planPass hscreens hf _ (mem_screens.2 ⟨o, ho, hc, rfl⟩)
      (d.tile decoration w) (List.mem_map_of_mem hw)
    rw [box_arrange_eq_boxAfter, box_arrange_eq_boxAfter, hplan]
    exact boxAfter_congr_of_mem hplaced _ _
  · rw [fault_arrange, fault_arrange, hagain]
  · rw [box_arrange_eq_boxAfter, hagain, box_arrange_eq_boxAfter, boxAfter_boxAfter]
  · exact box_arrange_of_not_concerns ho fun hc => by simp [hc.1] at hu

/-- Two windows on an output with no room for the gaps. -/
def crampedDesktop : Desktop := .ofBoxes ⟨0, 0, 25, 15⟩ [⟨0, 0, 5, 5⟩, ⟨60, 0, 5, 5⟩]

set_option maxRecDepth 2000 in
/-- Wherever the windows were, the first gets what is left of its cell, and the second, whose cell
lies beyond the edge, an empty box at the edge. -/
theorem arrange_forgets_cramped :
    let target : Option Target := some ⟨⟨7⟩, ⟨0, 0, 5, 5⟩⟩
    ∃ d', crampedDesktop.moveResize ⟨0⟩ ⟨-3, 4, 100, 0⟩ = some d' ∧
      ((d'.arrange .off 10 .smart target).desktop.window ⟨0⟩).box = ⟨10, 10, 12, 5⟩ ∧
      ((d'.arrange .off 10 .smart target).desktop.window ⟨1⟩).box = ⟨25, 10, 0, 5⟩ := by
  intro target
  obtain ⟨d', hd'⟩ : ∃ d', crampedDesktop.moveResize ⟨0⟩ ⟨-3, 4, 100, 0⟩ = some d' := ⟨_, rfl⟩
  obtain ⟨-, hboxes, -⟩ := @arrange_forgets crampedDesktop d' .smart target
    (.inr ⟨rfl, by decide⟩) (rearranged_moveResize hd') .off 10
  have hboxes := hboxes (by decide) ⟨0⟩ (by decide) (by decide)
  refine ⟨d', hd', ?_, ?_⟩
  · rw [hboxes ⟨0⟩ (by decide)]
    decide
  · rw [hboxes ⟨1⟩ (by decide)]
    decide

/-- **A window on an output without usable area** keeps its box, so where it was before a pass does
make a difference. -/
theorem unusable_output_remembers :
    let d := ofBoxes ⟨0, 0, 0, 0⟩ [⟨0, 0, 5, 5⟩]
    ∃ d', d.moveResize ⟨0⟩ ⟨40, 0, 5, 5⟩ = some d' ∧ d.Rearranged d' ∧
      ⟨0⟩ ∈ d.eligible ⟨0⟩ ∧ (d.arrange .off 10 .grid none).fault = none ∧
      (d'.arrange .off 10 .grid none).fault = none ∧
      ((d.arrange .off 10 .grid none).desktop.window ⟨0⟩).box = ⟨0, 0, 5, 5⟩ ∧
      ((d'.arrange .off 10 .grid none).desktop.window ⟨0⟩).box = ⟨40, 0, 5, 5⟩ := by
  intro d
  have hd' : d.moveResize ⟨0⟩ ⟨40, 0, 5, 5⟩ =
      some (d.updateWindow ⟨0⟩ fun v => { v with box := ⟨40, 0, 5, 5⟩ }) := rfl
  exact ⟨_, hd', rearranged_moveResize hd', by decide, by decide, by decide, by decide, by decide⟩

end Desktop

end WindowTiling
