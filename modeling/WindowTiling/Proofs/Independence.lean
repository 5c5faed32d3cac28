import WindowTiling.Proofs.PassOutcome

/-!
# Outputs do not interfere

A pass goes over all outputs one after the other, hands the resize target on from one to the next,
and fills all of them in common rounds. None of this can be seen on a single output: what a pass
makes of the windows there is told by the screen of that output, the mode and the target.

**Theorem (`arrange_congr_output`).** If two desktops agree on an output and on what is tiled
there, a pass gives the windows tiled there the same boxes on both, whatever other outputs and
windows there are, in whatever order the outputs are registered, and wherever the target's window
is.

For the mode without tiling and the one with grids this is the independence of the layouts of
screens, for the mode that fills it is the independence of regions in addition.
-/

namespace WindowTiling

/-! ## One screen -/

theorem Region.boxAfter_congr {r : Region} {ps qs : List Placement}
    (h : r.placeAll ps = r.placeAll qs) {t : Tile} (ht : t ∈ r.tiles) :
    boxAfter ps t.window t.box = boxAfter qs t.window t.box := by
  have htiles := congrArg Region.tiles h
  simp only [Region.placeAll, placeAll_eq_map] at htiles
  exact congrArg Tile.box (List.map_inj_left.1 htiles t ht)

/-- What a pass places on a screen, as if there were no other one. -/
def Screen.passPlacements (mode : TilingMode) (gap : Int) (target : Option Target) (s : Screen) :
    List Placement :=
  match mode with
  | .off => []
  | .grid => s.placements gap none
  | .smart => s.placements gap target ++
      (s.laidOut gap target).fillPlacements gap (target.map (·.window)) maxFillRounds

/-! ## The pass -/

theorem property_congr {w w' : Window} (ha : w'.appId = w.appId) (ht : w'.title = w.title)
    (rules : List Rule) (key : PropertyKey) : property rules w' key = property rules w key := by
  have hsets : ∀ r : Rule, r.Sets w' key ↔ r.Sets w key := by
    intro r
    rw [Rule.Sets, Rule.Sets, Rule.matchesWindow, Rule.matchesWindow, ha, ht]
  rw [property, property]
  congr 1
  funext result r
  exact ite_congr (propext (hsets r)) (fun _ => rfl) fun _ => rfl

namespace Desktop

variable {d d' : Desktop} {decoration : Decoration} {gap : Int} {mode : TilingMode}
  {target : Option Target}

theorem fault_arrange_eq_none (h : d.Sound) (hp : d.Plannable decoration) :
    (d.arrange decoration gap mode target).fault = none := by
  rw [fault_arrange]
  cases mode with
  | off => rfl
  | grid => exact (fault_layOutAll_screens_eq_none_iff h).2 hp
  | smart =>
    rw [planPass, Plan.fault_filled]
    exact (fault_layOutAll_screens_eq_none_iff h).2 hp

theorem box_arrange_grid (h : d.Sound) (hp : d.Plannable decoration) {o : OutputRef}
    (ho : o ∈ d.outputs.values) (hc : d.Concerns o) {w : WindowRef} (hw : w ∈ d.eligible o) :
    ((d.arrange decoration gap .grid target).desktop.window w).box =
      boxAfter ((d.screen decoration o).placements gap none) w (d.window w).box := by
  have hs : d.screen decoration o ∈ d.screens decoration := mem_screens.2 ⟨o, ho, hc, rfl⟩
  have hproper := h.proper_screens hp
  have hapart := h.apart_screens decoration
  have hplan : (planPass .grid gap (d.screens decoration) target).placements =
      (d.screens decoration).flatMap (Screen.placements gap none) :=
    (layOutAll_ok hproper hapart none).placements_eq
  rw [box_arrange_eq_boxAfter, hplan]
  exact Region.boxAfter_congr (placeAll_flatMap
    (fun s hs => Screen.accepts_placements (hproper s hs) gap none) hapart hs)
    (mem_tiles_screen hw)

/-- **The box of a window after a pass** in any mode: if its output is usable, what the pass places
on the screen of the output gives it. -/
theorem box_arrange_of_mode (h : d.Sound) (hp : d.Plannable decoration) {o : OutputRef}
    (ho : o ∈ d.outputs.values) {w : WindowRef} (hw : w ∈ d.eligible o) :
    ((d.arrange decoration gap mode target).desktop.window w).box =
      if (d.output o).isUsable then
        boxAfter ((d.screen decoration o).passPlacements mode gap target) w (d.window w).box
      else (d.window w).box := by
  by_cases hu : (d.output o).isUsable = true
  · have hc : d.Concerns o := ⟨hu, .inl (List.ne_nil_of_mem hw)⟩
    rw [if_pos hu]
    cases mode with
    | off => rfl
    | grid => exact box_arrange_grid h hp ho hc hw
    | smart =>
      rw [box_arrange h hp ho hc hw, Screen.passPlacements, boxAfter_append]
      rfl
  · rw [if_neg hu]
    obtain ⟨-, ⟨houtput, -⟩, -⟩ := mem_eligible_iff.1 hw
    exact box_arrange_of_not_concerns houtput fun hc => hu hc.1

/-! ## Two desktops -/

/-- Two desktops agree on an output: it has the same usable area, the same windows are tiled on it
in the same order, with the same names, content boxes and decorations, and the same rules hold. -/
structure AgreeOn (d d' : Desktop) (o : OutputRef) : Prop where
  usable_eq : (d'.output o).usable = (d.output o).usable
  rules_eq : d'.rules = d.rules
  eligible_eq : d'.eligible o = d.eligible o
  appId_eq : ∀ w ∈ d.eligible o, (d'.window w).appId = (d.window w).appId
  title_eq : ∀ w ∈ d.eligible o, (d'.window w).title = (d.window w).title
  box_eq : ∀ w ∈ d.eligible o, (d'.window w).box = (d.window w).box
  decorated_eq : ∀ w ∈ d.eligible o, (d'.window w).decorated = (d.window w).decorated

theorem fullscreen_of_mem_eligible {o : OutputRef} {w : WindowRef} (hw : w ∈ d.eligible o) :
    (d.window w).fullscreen = false := (mem_eligible_iff.1 hw).2.2.1.1.2

theorem AgreeOn.tile_eq {o : OutputRef} (h : d.AgreeOn d' o) {w : WindowRef}
    (hw : w ∈ d.eligible o) : d'.tile decoration w = d.tile decoration w := by
  have hw' : w ∈ d'.eligible o := h.eligible_eq ▸ hw
  simp only [tile, Decoration.margins, h.box_eq w hw, h.decorated_eq w hw,
    fullscreen_of_mem_eligible hw, fullscreen_of_mem_eligible hw']

theorem AgreeOn.preference_eq {o : OutputRef} (h : d.AgreeOn d' o) :
    d'.preference (d'.eligible o) = d.preference (d.eligible o) := by
  have hproperty : ∀ w ∈ d.eligible o,
      d'.property w .tileDirection = d.property w .tileDirection := by
    intro w hw
    rw [property, property, h.rules_eq]
    exact property_congr (h.appId_eq w hw) (h.title_eq w hw) d.rules _
  have hany : ∀ value : Tristate,
      ((d.eligible o).any fun w => d'.property w .tileDirection = value) =
        (d.eligible o).any fun w => d.property w .tileDirection = value := by
    intro value
    rw [Bool.eq_iff_iff, List.any_eq_true, List.any_eq_true]
    exact exists_congr fun w => and_congr_right fun hw => by rw [hproperty w hw]
  rw [h.eligible_eq, preference, preference, hany, hany]

theorem AgreeOn.screen_eq {o : OutputRef} (h : d.AgreeOn d' o)
    (hf : (d.screen decoration o).fault = none) (hf' : (d'.screen decoration o).fault = none) :
    d'.screen decoration o = d.screen decoration o := by
  have htiles : (d'.eligible o).map (d'.tile decoration) =
      (d.eligible o).map (d.tile decoration) := by
    rw [h.eligible_eq]
    exact List.map_congr_left fun w hw => h.tile_eq hw
  have hregion : (d'.screen decoration o).region = (d.screen decoration o).region := by
    simp only [screen, h.usable_eq, htiles]
  have hpreference : (d'.screen decoration o).preference = (d.screen decoration o).preference :=
    h.preference_eq
  cases hs : d.screen decoration o
  cases hs' : d'.screen decoration o
  simp only [hs, hs'] at hregion hpreference hf hf'
  rw [hregion, hpreference, hf, hf']

/-- **Outputs do not interfere.** Where two desktops agree on an output, a pass with the same mode
and the same target gives the windows tiled there the same boxes. -/
theorem arrange_congr_output (h : d.Sound) (h' : d'.Sound) (hp : d.Plannable decoration)
    (hp' : d'.Plannable decoration) {o : OutputRef} (ho : o ∈ d.outputs.values)
    (ho' : o ∈ d'.outputs.values) (hagree : d.AgreeOn d' o) (gap : Int) (mode : TilingMode)
    (target : Option Target) :
    let pass := d.arrange decoration gap mode target
    let pass' := d'.arrange decoration gap mode target
    pass.fault = none ∧ pass'.fault = none ∧
      ∀ w ∈ d.eligible o, (pass'.desktop.window w).box = (pass.desktop.window w).box := by
  intro pass pass'
  refine ⟨fault_arrange_eq_none h hp, fault_arrange_eq_none h' hp', fun w hw => ?_⟩
  have hw' : w ∈ d'.eligible o := hagree.eligible_eq ▸ hw
  have husable : (d'.output o).isUsable = (d.output o).isUsable := by
    rw [Output.isUsable, Output.isUsable, hagree.usable_eq]
  rw [box_arrange_of_mode h hp ho hw, box_arrange_of_mode h' hp' ho' hw', husable,
    hagree.box_eq w hw]
  by_cases hu : (d.output o).isUsable = true
  · have hc : d.Concerns o := ⟨hu, .inl (List.ne_nil_of_mem hw)⟩
    have hc' : d'.Concerns o := ⟨husable ▸ hu, .inl (List.ne_nil_of_mem hw')⟩
    rw [hagree.screen_eq (h.proper_screen hp ho hc).fault_eq
      (h'.proper_screen hp' ho' hc').fault_eq]
  · rw [if_neg hu, if_neg hu]

/-- The output of the pair registered after a small one, with a window on that one. -/
def crowdedDesktop : Desktop :=
  { pairDesktop with
    windowStates := pairDesktop.windowStates ++ [(⟨2⟩, {
      id := 2
      box := ⟨1003, 5, 7, 9⟩
      output := some ⟨1⟩
      workspace := some (.ofString "1") })]
    outputStates := pairDesktop.outputStates ++ [(⟨1⟩, { id := 1, area := ⟨1000, 0, 50, 40⟩ })]
    windowCount := 3
    outputCount := 2
    windows := (2, ⟨2⟩) :: pairDesktop.windows
    outputs := (1, ⟨1⟩) :: pairDesktop.outputs }

set_option maxRecDepth 4000 in
/-- The left window, resized, gets the same box whether or not there is another output. -/
theorem arrange_congr_output_crowded :
    let target : Option Target := some ⟨⟨0⟩, ⟨10, 10, 400, 500⟩⟩
    pairDesktop.Sound ∧ crowdedDesktop.Sound ∧ pairDesktop.Plannable .off ∧
      crowdedDesktop.Plannable .off ∧ pairDesktop.AgreeOn crowdedDesktop ⟨0⟩ ∧
      ((crowdedDesktop.arrange .off 10 .smart target).desktop.window ⟨0⟩).box =
        ⟨10, 10, 400, 780⟩ := by
  intro target
  have hagree : pairDesktop.AgreeOn crowdedDesktop ⟨0⟩ := ⟨by decide, rfl, by decide, by decide,
    by decide, by decide, by decide⟩
  refine ⟨by decide, by decide, by decide, by decide, hagree, ?_⟩
  obtain ⟨-, -, hboxes⟩ := @arrange_congr_output pairDesktop crowdedDesktop .off (by decide)
    (by decide) (by decide) (by decide) ⟨0⟩ (by decide) (by decide) hagree 10 .smart target
  rw [hboxes ⟨0⟩ (by decide)]
  decide

end Desktop

end WindowTiling
