import WindowTiling.Proofs.Registry
import WindowTiling.Proofs.ScreenLayout

/-!
# What a pass may place

Whatever the mode, and also when a fault stops the pass, a pass only places windows that are tiled
on a usable output, in proper boxes inside the usable area of that output. So a plan is always
carried out in full, the faults of a pass are those of its plan, and a window that is not tiled on
any of the screens is left alone.

Main facts: `mem_planPass` (what is placed), `fault_arrange` and `box_arrange_eq_boxAfter` (what
becomes of the desktop).
-/

namespace WindowTiling

/-! ## All screens -/

section Plan

variable {gap : Int} {skip : Option WindowRef} {mode : TilingMode} {target : Option Target}

theorem exists_accepts_of_mem_fillRounds {max : Nat} {fs : List Filling} {p : Placement}
    (hp : p ∈ (fillRounds gap skip max fs).placements) : ∃ f ∈ fs, f.region.Accepts [p] := by
  induction max generalizing fs with
  | zero => exact absurd hp List.not_mem_nil
  | succ max ih =>
    simp only [fillRounds] at hp
    split at hp
    · exact absurd hp List.not_mem_nil
    · rcases List.mem_append.1 hp with hp | hp
      · obtain ⟨f, hf, hpf⟩ := List.mem_flatMap.1 hp
        exact ⟨f, hf, List.forall_mem_singleton.2 (accepts_placements gap skip f p hpf)⟩
      · obtain ⟨f', hf', hacc⟩ := ih hp
        obtain ⟨f, hf, rfl⟩ := List.mem_map.1 hf'
        exact ⟨f, hf, (Region.accepts_congr (map_window_next gap skip f) rfl).1 hacc⟩

/-- What is laid out is placed on one of the screens, and the regions afterwards are regions of
screens with their windows moved. -/
theorem layOutAll_accepts (gap : Int) (screens : List Screen) (target : Option Target) :
    (∀ p ∈ (layOutAll gap screens target).placements,
      ∃ s ∈ screens, s.region.Accepts [p]) ∧
    ∀ r ∈ (layOutAll gap screens target).regions, ∃ s ∈ screens,
      r.tiles.map (·.window) = s.region.tiles.map (·.window) ∧ r.usable = s.region.usable := by
  induction screens generalizing target with
  | nil => exact ⟨fun p hp => absurd hp List.not_mem_nil, fun r hr => absurd hr List.not_mem_nil⟩
  | cons s rest ih =>
    cases hl : s.layOut gap target with
    | error fault =>
      simp only [layOutAll, hl]
      exact ⟨fun p hp => absurd hp List.not_mem_nil, fun r hr => absurd hr List.not_mem_nil⟩
    | ok l =>
      obtain ⟨hplacements, hregions⟩ := ih l.target
      simp only [layOutAll, hl]
      constructor
      · intro p hp
        rcases List.mem_append.1 hp with hp | hp
        · exact ⟨s, List.mem_cons_self,
            List.forall_mem_singleton.2 (Screen.accepts_of_layOut hl p hp)⟩
        · obtain ⟨r, hr, hacc⟩ := hplacements p hp
          exact ⟨r, List.mem_cons_of_mem s hr, hacc⟩
      · intro r hr
        rcases List.mem_cons.1 hr with rfl | hr
        · exact ⟨s, List.mem_cons_self, Region.map_window_placeAll _ _, rfl⟩
        · obtain ⟨s', hs', hsame⟩ := hregions r hr
          exact ⟨s', List.mem_cons_of_mem s hs', hsame⟩

theorem exists_accepts_of_mem_planPass {screens : List Screen} {p : Placement}
    (hp : p ∈ (planPass mode gap screens target).placements) :
    ∃ s ∈ screens, s.region.Accepts [p] := by
  cases mode with
  | off => exact absurd hp List.not_mem_nil
  | grid => exact (layOutAll_accepts gap screens none).1 p hp
  | smart =>
    obtain ⟨hplacements, hregions⟩ := layOutAll_accepts gap screens target
    simp only [planPass, Plan.filled] at hp
    split at hp
    · exact hplacements p hp
    · rcases List.mem_append.1 hp with hp | hp
      · exact hplacements p hp
      · obtain ⟨f, hf, hacc⟩ := exists_accepts_of_mem_fillRounds hp
        obtain ⟨r, hr, rfl⟩ := List.mem_map.1 hf
        obtain ⟨s, hs, hwindows, husable⟩ := hregions r hr
        exact ⟨s, hs, (Region.accepts_congr hwindows husable).1 hacc⟩

end Plan

/-! ## The desktop -/

theorem Output.isUsable_iff {o : Output} :
    o.isUsable = true ↔ 0 < o.usable.width ∧ 0 < o.usable.height := by
  have h : o.isUsable = true ↔ ¬ o.usable.IsEmpty := by simp [isUsable]
  rw [h, Box.IsEmpty]
  omega

namespace Desktop

variable {d : Desktop} {decoration : Decoration} {gap : Int} {mode : TilingMode}
  {target : Option Target}

theorem map_window_screen (d : Desktop) (decoration : Decoration) (o : OutputRef) :
    (d.screen decoration o).region.tiles.map (·.window) = d.eligible o := by
  show ((d.eligible o).map (d.tile decoration)).map (·.window) = d.eligible o
  rw [List.map_map]
  exact List.map_id _

theorem mem_tiles_screen {o : OutputRef} {w : WindowRef} (hw : w ∈ d.eligible o) :
    d.tile decoration w ∈ (d.screen decoration o).region.tiles := List.mem_map_of_mem hw

theorem nonneg_margins_screen (hm : ∀ w, (decoration.margins (d.window w)).Nonneg) (o : OutputRef) :
    ∀ t ∈ (d.screen decoration o).region.tiles, t.margins.Nonneg :=
  List.forall_mem_map.2 fun w _ => hm w

theorem mem_screens {s : Screen} : s ∈ d.screens decoration ↔
    ∃ o ∈ d.outputs.values, d.Concerns o ∧ d.screen decoration o = s := by
  simp [screens, and_assoc]

/-- **What a pass may place**: a window tiled on a registered usable output, in a proper box inside
the usable area of that output. -/
theorem mem_planPass {p : Placement}
    (hp : p ∈ (planPass mode gap (d.screens decoration) target).placements) :
    ∃ o ∈ d.outputs.values, d.Concerns o ∧ p.window ∈ d.eligible o ∧ p.box.Nonneg ∧
      p.box.Within (d.output o).usable := by
  obtain ⟨s, hs, hacc⟩ := exists_accepts_of_mem_planPass hp
  obtain ⟨o, ho, hc, rfl⟩ := mem_screens.1 hs
  obtain ⟨hmem, hnonneg, hwithin⟩ := hacc p List.mem_cons_self
  rw [map_window_screen] at hmem
  obtain ⟨hwidth, hheight⟩ := Output.isUsable_iff.1 hc.1
  exact ⟨o, ho, hc, hmem, hnonneg, hwithin ⟨Int.le_of_lt hwidth, Int.le_of_lt hheight⟩⟩

theorem nonneg_of_mem_planPass :
    ∀ p ∈ (planPass mode gap (d.screens decoration) target).placements, p.box.Nonneg := by
  intro p hp
  obtain ⟨o, ho, hc, hmem, hnonneg, hwithin⟩ := mem_planPass hp
  exact hnonneg

/-- A plan is carried out without a fault of its own. -/
theorem fault_arrange : (d.arrange decoration gap mode target).fault =
    (planPass mode gap (d.screens decoration) target).fault := by
  show (d.carryOutAll _).fault.or _ = _
  rw [carryOutAll_fault nonneg_of_mem_planPass, Option.none_or]

theorem box_arrange_eq_boxAfter (w : WindowRef) :
    ((d.arrange decoration gap mode target).desktop.window w).box =
      boxAfter (planPass mode gap (d.screens decoration) target).placements w (d.window w).box :=
  box_carryOutAll nonneg_of_mem_planPass w

theorem alike_arrange : d.Alike (d.arrange decoration gap mode target).desktop :=
  alike_carryOutAll nonneg_of_mem_planPass

theorem output_arrange (o : OutputRef) :
    (d.arrange decoration gap mode target).desktop.output o = d.output o :=
  output_carryOutAll nonneg_of_mem_planPass o

theorem eligible_arrange (o : OutputRef) :
    (d.arrange decoration gap mode target).desktop.eligible o = d.eligible o :=
  alike_arrange.eligible_eq o

/-- What is seen on an output after a pass is what was there before with the plan's placements
made. -/
theorem region_arrange_eq_placeAll (o : OutputRef) :
    ((d.arrange decoration gap mode target).desktop.screen decoration o).region =
      (d.screen decoration o).region.placeAll
        (planPass mode gap (d.screens decoration) target).placements := by
  simp only [screen, output_arrange, eligible_arrange, Region.placeAll]
  exact congrArg _ (tile_carryOutAll nonneg_of_mem_planPass decoration _)

theorem box_arrange_of_not_concerns {o : OutputRef} {w : WindowRef}
    (hw : (d.window w).output = some o) (hc : ¬ d.Concerns o) :
    ((d.arrange decoration gap mode target).desktop.window w).box = (d.window w).box := by
  rw [box_arrange_eq_boxAfter]
  refine boxAfter_of_forall_ne (fun p hp hpw => ?_) _
  obtain ⟨o', -, hc', hmem, -⟩ := mem_planPass hp
  rw [hpw] at hmem
  obtain ⟨-, ⟨ho', -⟩, -⟩ := mem_eligible_iff.1 hmem
  obtain rfl : o = o' := Option.some.inj (hw.symm.trans ho')
  exact hc hc'

end Desktop

end WindowTiling
