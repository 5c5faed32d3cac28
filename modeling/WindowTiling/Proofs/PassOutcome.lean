import WindowTiling.Proofs.Planning

/-!
# The outcome of a pass

A pass threads the resize target through the screens and fills all regions together, so that at
first sight each screen depends on those before it. It does not: the target's window is on one
screen at most, the other screens neither change the target nor look at its geometry, and regions
are filled independently. So what a pass makes of a screen can be told from that screen alone.

Main facts: `layOutAll_ok` (the screens are laid out independently), `arrange_fault_eq_none_iff`
(when a pass runs through), `region_arrange` (the region of an output after a pass) and
`box_arrange` (the box of a window after a pass).
-/

namespace WindowTiling

/-! ## Screens one after the other -/

theorem Region.resized?_eq_none_congr {r : Region} {target target' : Option Target}
    (h : target.map (·.window) = target'.map (·.window)) :
    r.resized? target = none ↔ r.resized? target' = none := by
  rw [resized?_eq_none_iff, resized?_eq_none_iff, h]

/-- The target's window is on one region at most. -/
theorem Region.resized?_of_apart {r s : Region} (h : s.Apart r) {target : Option Target}
    (hs : s.resized? target ≠ none) : r.resized? target = none := by
  obtain ⟨⟨resized, geometry⟩, he⟩ := Option.ne_none_iff_exists'.1 hs
  obtain ⟨hmem, rfl⟩ := of_resized? he
  rw [resized?_eq_none_iff]
  intro t ht heq
  exact h resized hmem t ht (Option.some.inj heq).symm

/-- The layout of a screen does not change what the screens apart from it see of the target. -/
theorem Screen.resized?_layOut {gap : Int} {s : Screen} (h : s.Proper) {target : Option Target}
    {l : Layout} (hok : s.layOut gap target = .ok l) {r : Region} (hr : s.region.Apart r) :
    r.resized? l.target = r.resized? target := by
  obtain ⟨l', hok', -, hwindow, hsame⟩ := layOut_ok h gap target
  obtain rfl : l = l' := Except.ok.inj (hok.symm.trans hok')
  by_cases hn : s.region.resized? target = none
  · rw [hsame hn]
  · have hnone := Region.resized?_of_apart hr hn
    rw [hnone]
    exact (Region.resized?_eq_none_congr hwindow).2 hnone

/-- What laying out screens one after the other comes to, told screen by screen. -/
structure Plan.LaysOut (plan : Plan) (gap : Int) (target : Option Target)
    (screens : List Screen) : Prop where
  fault_eq : plan.fault = none
  placements_eq : plan.placements = screens.flatMap (Screen.placements gap target)
  regions_eq : plan.regions = screens.map (Screen.laidOut gap target)
  window_eq : plan.target.map (·.window) = target.map (·.window)
  target_of_none : (∀ s ∈ screens, s.region.resized? target = none) → plan.target = target
  target_of_mem : ∀ s ∈ screens, s.region.resized? target ≠ none →
    ∀ l, s.layOut gap target = .ok l → plan.target = l.target

/-- **The screens are laid out independently.** -/
theorem layOutAll_ok {gap : Int} {screens : List Screen} (hs : ∀ s ∈ screens, s.Proper)
    (hp : screens.Pairwise fun s t => s.region.Apart t.region) (target : Option Target) :
    (layOutAll gap screens target).LaysOut gap target screens := by
  induction screens generalizing target with
  | nil => exact ⟨rfl, rfl, rfl, rfl, fun _ => rfl, fun s h => absurd h List.not_mem_nil⟩
  | cons s rest ih =>
    obtain ⟨hproper, hs⟩ := List.forall_mem_cons.1 hs
    obtain ⟨hapart, hp⟩ := List.pairwise_cons.1 hp
    obtain ⟨l, hok, -, hwindow, hsame⟩ := Screen.layOut_ok hproper gap target
    have ihl := ih hs hp l.target
    -- The first screen hands on a target that looks the same to all screens apart from it.
    have hrest : ∀ r ∈ rest, r.region.resized? l.target = r.region.resized? target :=
      fun r hr => Screen.resized?_layOut hproper hok (hapart r hr)
    have hplacements : ∀ r ∈ rest, r.placements gap l.target = r.placements gap target :=
      fun r hr => Screen.placements_congr (hrest r hr)
    have hfirst : s.placements gap target = l.placements := by simp only [Screen.placements, hok]
    simp only [layOutAll, hok]
    refine ⟨ihl.fault_eq, ?_, ?_, ihl.window_eq.trans hwindow, fun hnone => ?_,
      fun r hr hrs l' hl' => ?_⟩
    · rw [ihl.placements_eq, List.flatMap_cons, hfirst, List.flatMap_def, List.flatMap_def,
        List.map_congr_left hplacements]
    · rw [ihl.regions_eq, List.map_cons, Screen.laidOut, hfirst]
      refine congrArg _ (List.map_congr_left fun r hr => ?_)
      rw [Screen.laidOut, Screen.laidOut, hplacements r hr]
    · obtain ⟨hnone, hnones⟩ := List.forall_mem_cons.1 hnone
      rw [ihl.target_of_none fun r hr => (hrest r hr).trans (hnones r hr), hsame hnone]
    · rcases List.mem_cons.1 hr with rfl | hr
      · obtain rfl : l = l' := Except.ok.inj (hok.symm.trans hl')
        refine ihl.target_of_none fun r' hr' => ?_
        rw [hrest r' hr', Region.resized?_of_apart (hapart r' hr') hrs]
      · have hn : s.region.resized? target = none :=
          Region.resized?_of_apart (hapart r hr).symm hrs
        rw [hsame hn] at ihl ⊢
        exact ihl.target_of_mem r hr hrs l' hl'

/-! ## When a pass runs through -/

theorem Plan.fault_filled (gap : Int) (p : Plan) : (p.filled gap).fault = p.fault := by
  rw [Plan.filled]
  split <;> rfl

theorem Plan.target_filled (gap : Int) (p : Plan) : (p.filled gap).target = p.target := by
  rw [Plan.filled]
  split <;> rfl

theorem Plan.placements_filled {p : Plan} (h : p.fault = none) (gap : Int) :
    (p.filled gap).placements =
      p.placements ++ (fill gap (p.target.map (·.window)) maxFillRounds p.regions).placements := by
  rw [Plan.filled, if_neg (by simp [h])]

theorem Screen.of_layOut_ok {gap : Int} {s : Screen} {target : Option Target} {l : Layout}
    (h : s.layOut gap target = .ok l) :
    s.fault = none ∧ (roundedRatio s.region.usable.width s.region.usable.height).isSome := by
  cases hf : s.fault with
  | some fault => simp [Screen.layOut, hf] at h
  | none =>
    cases hq : roundedRatio s.region.usable.width s.region.usable.height with
    | none => simp [Screen.layOut, hf, hq] at h
    | some q => exact ⟨rfl, rfl⟩

theorem of_layOutAll_fault_eq_none {gap : Int} {screens : List Screen} {target : Option Target}
    (h : (layOutAll gap screens target).fault = none) : ∀ s ∈ screens,
      s.fault = none ∧ (roundedRatio s.region.usable.width s.region.usable.height).isSome := by
  induction screens generalizing target with
  | nil => exact fun s hs => absurd hs List.not_mem_nil
  | cons s rest ih =>
    cases hl : s.layOut gap target with
    | error fault => simp [layOutAll, hl] at h
    | ok l =>
      simp only [layOutAll, hl] at h
      exact List.forall_mem_cons.2 ⟨Screen.of_layOut_ok hl, ih h⟩

namespace Desktop

variable {d : Desktop} {decoration : Decoration} {gap : Int} {target : Option Target}

/-- Nothing keeps the screens from being laid out: where rules are looked at no fault is come upon,
and the aspect of every usable area is a number. -/
def Plannable (d : Desktop) (decoration : Decoration) : Prop :=
  ∀ s ∈ d.screens decoration,
    s.fault = none ∧ (roundedRatio s.region.usable.width s.region.usable.height).isSome

instance (d : Desktop) (decoration : Decoration) : Decidable (d.Plannable decoration) :=
  inferInstanceAs (Decidable (∀ s ∈ d.screens decoration, _ ∧ _))

theorem Sound.proper_of_aspect (h : d.Sound) {o : OutputRef} (hc : d.Concerns o)
    (hf : (d.screen decoration o).fault = none)
    (hq : (roundedRatio (d.output o).usable.width (d.output o).usable.height).isSome) :
    (d.screen decoration o).Proper := by
  obtain ⟨husable, hsome⟩ := hc
  obtain ⟨hwidth, hheight⟩ := Output.isUsable_iff.1 husable
  refine ⟨hf, hq, hwidth, hheight, ?_, fun hnil => ?_⟩
  · rw [map_window_screen]
    exact h.nodup_eligible o
  · simp only [screen, Option.map_eq_none_iff, Option.or_eq_none_iff] at hf
    rcases hsome with hne | hfault
    · exact hne (List.map_eq_nil_iff.1 hnil)
    · rw [hf.1] at hfault
      simp at hfault

theorem Sound.proper_screen (h : d.Sound) (hp : d.Plannable decoration) {o : OutputRef}
    (ho : o ∈ d.outputs.values) (hc : d.Concerns o) : (d.screen decoration o).Proper := by
  obtain ⟨hf, hq⟩ := hp _ (mem_screens.2 ⟨o, ho, hc, rfl⟩)
  exact h.proper_of_aspect hc hf hq

theorem Sound.proper_screens (h : d.Sound) (hp : d.Plannable decoration) :
    ∀ s ∈ d.screens decoration, s.Proper := by
  intro s hs
  obtain ⟨o, ho, hc, rfl⟩ := mem_screens.1 hs
  exact h.proper_screen hp ho hc

theorem Sound.apart_screens (h : d.Sound) (decoration : Decoration) :
    (d.screens decoration).Pairwise fun s t => s.region.Apart t.region := by
  refine List.pairwise_map.2 ((h.nodup_output_values.filter _).imp fun hne t ht u hu heq => ?_)
  obtain ⟨w, hw, rfl⟩ := List.mem_map.1 ht
  obtain ⟨v, hv, rfl⟩ := List.mem_map.1 hu
  obtain rfl : w = v := heq
  exact hne (output_eq_of_mem_eligible hw hv)

/-! ## What a pass makes of an output -/

/-- What filling places in the region of an output, after it has been laid out. -/
def fillPlacements (d : Desktop) (decoration : Decoration) (gap : Int) (target : Option Target)
    (o : OutputRef) : List Placement :=
  ((d.screen decoration o).laidOut gap target).fillPlacements gap (target.map (·.window))
    maxFillRounds

theorem placements_planPass (h : d.Sound) (hp : d.Plannable decoration) (gap : Int)
    (target : Option Target) :
    (planPass .smart gap (d.screens decoration) target).placements =
      (d.screens decoration).flatMap (Screen.placements gap target) ++
        (fill gap (target.map (·.window)) maxFillRounds
          ((d.screens decoration).map (Screen.laidOut gap target))).placements := by
  have hl := @layOutAll_ok gap _ (h.proper_screens hp) (h.apart_screens decoration) target
  show ((layOutAll gap (d.screens decoration) target).filled gap).placements = _
  rw [Plan.placements_filled hl.fault_eq, hl.placements_eq, hl.window_eq, hl.regions_eq]

theorem fault_layOutAll_screens_eq_none_iff (h : d.Sound) :
    (layOutAll gap (d.screens decoration) target).fault = none ↔ d.Plannable decoration :=
  ⟨of_layOutAll_fault_eq_none, fun hp =>
    (layOutAll_ok (h.proper_screens hp) (h.apart_screens decoration) target).fault_eq⟩

/-- **A pass runs through** just when nothing keeps the screens from being laid out. -/
theorem arrange_fault_eq_none_iff (h : d.Sound) :
    (d.arrange decoration gap .smart target).fault = none ↔ d.Plannable decoration := by
  rw [fault_arrange, planPass, Plan.fault_filled]
  exact fault_layOutAll_screens_eq_none_iff h

/-- **The region of an output after a pass** is its region laid out and then filled, as if there
were no other output. -/
theorem region_arrange (h : d.Sound) (hp : d.Plannable decoration) {o : OutputRef}
    (ho : o ∈ d.outputs.values) (hc : d.Concerns o) :
    ((d.arrange decoration gap .smart target).desktop.screen decoration o).region =
      ((d.screen decoration o).laidOut gap target).placeAll
        (d.fillPlacements decoration gap target o) := by
  have hs : d.screen decoration o ∈ d.screens decoration := mem_screens.2 ⟨o, ho, hc, rfl⟩
  have hproper := h.proper_screens hp
  have hapart := h.apart_screens decoration
  -- The regions stay apart while they are laid out.
  have hlaid : ((d.screens decoration).map (Screen.laidOut gap target)).Pairwise
      Region.Apart := by
    refine List.pairwise_map.2 (hapart.imp fun hst => ?_)
    exact Region.apart_congr (Region.map_window_placeAll _ _) (Region.map_window_placeAll _ _) hst
  have hgrid : (d.screen decoration o).region.placeAll
      ((d.screens decoration).flatMap (Screen.placements gap target)) =
        (d.screen decoration o).laidOut gap target :=
    placeAll_flatMap
      (fun s hs => Screen.accepts_placements (hproper s hs) gap target) hapart hs
  rw [region_arrange_eq_placeAll, placements_planPass h hp, Region.placeAll_append, hgrid]
  exact placeAll_fill gap _ maxFillRounds hlaid (List.mem_map_of_mem hs)

/-- **The box of a window after a pass**: what the layout of its screen gives it, and what filling
gives it after that. -/
theorem box_arrange (h : d.Sound) (hp : d.Plannable decoration) {o : OutputRef}
    (ho : o ∈ d.outputs.values) (hc : d.Concerns o) {w : WindowRef} (hw : w ∈ d.eligible o) :
    ((d.arrange decoration gap .smart target).desktop.window w).box =
      boxAfter (d.fillPlacements decoration gap target o) w
        (boxAfter ((d.screen decoration o).placements gap target) w (d.window w).box) := by
  have htiles := congrArg Region.tiles (@region_arrange d decoration gap target h hp o ho hc)
  simp only [screen, Region.placeAll, Screen.laidOut, eligible_arrange, placeAll_eq_map,
    List.map_map] at htiles
  exact congrArg Tile.box (List.map_inj_left.1 htiles w hw)

theorem target_arrange (h : d.Sound) (hp : d.Plannable decoration) {o : OutputRef}
    (ho : o ∈ d.outputs.values) (hc : d.Concerns o)
    (hr : (d.screen decoration o).region.resized? target ≠ none) {l : Layout}
    (hl : (d.screen decoration o).layOut gap target = .ok l) :
    (d.arrange decoration gap .smart target).target = l.target := by
  show ((layOutAll gap (d.screens decoration) target).filled gap).target = _
  rw [Plan.target_filled]
  exact (layOutAll_ok (h.proper_screens hp) (h.apart_screens decoration) target).target_of_mem
    _ (mem_screens.2 ⟨o, ho, hc, rfl⟩) hr l hl

/-! ## Small desktops -/

/-- A desktop with one output and undecorated windows on it, numbered in order. -/
def ofBoxes (area : Box) (boxes : List Box) : Desktop where
  windowStates := boxes.zipIdx.map fun e => (⟨e.2⟩, {
    id := e.2
    box := e.1
    decorated := false
    output := some ⟨0⟩
    workspace := some (.ofString "1") })
  outputStates := [(⟨0⟩, { area })]
  windowCount := boxes.length
  outputCount := 1
  windows := boxes.zipIdx.map fun e => (e.2, ⟨e.2⟩)
  outputs := [(0, ⟨0⟩)]

/-- Two windows side by side on the only output. -/
def pairDesktop : Desktop :=
  .ofBoxes ⟨0, 0, 1000, 800⟩ [⟨10, 10, 485, 780⟩, ⟨505, 10, 485, 780⟩]

/-- All windows with decorations. -/
def framed (d : Desktop) : Desktop :=
  { d with windowStates := d.windowStates.map fun e => (e.1, { e.2 with decorated := true }) }

theorem nonneg_margins_off (w : Window) : (Decoration.off.margins w).Nonneg :=
  @Decoration.nonneg_margins .off ⟨by decide, by decide⟩ w

end Desktop

end WindowTiling
