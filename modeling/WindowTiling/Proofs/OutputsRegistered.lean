import Mathlib.Data.List.Nodup
import WindowTiling.Proofs.DraggedTarget
import WindowTiling.Proofs.TargetRegistered

/-!
# Are the outputs of windows registered?

A window is tiled on the output that it refers to, and is left out of every layout if that output is
not registered. Removing an output therefore takes it from its windows. But only the registered ones
among them are looked at, and outputs are struck by their number, whichever output it is that stands
under it.

**Theorem (`outputs_registered_iff`).** Take any run in which windows are added to registered
outputs only, or to none in particular. In all of its states the output of every registered window
is none or registered, just when

* no window is added, to no output in particular, that still refers to an output which is not
  registered, and
* no output is added or removed while another one with windows is registered under its number.

So there are two ways in which the reference to an output gets lost, and no other.
`returning_window_keeps_lost_output` is a run of the first kind.
-/

namespace WindowTiling

/-! ## Outputs that are taken from their windows -/

namespace Desktop

variable {d : Desktop}

/-- Windows that are gone through in turn lose the output; others keep theirs. -/
theorem output_foldl_detach (d : Desktop) (o : OutputRef) (ws : List WindowRef) (w : WindowRef) :
    ((ws.foldl (fun d w => d.updateWindow w fun v =>
      if v.output = some o then { v with output := none } else v) d).window w).output =
      if w ∈ ws ∧ (d.window w).output = some o then none else (d.window w).output := by
  induction ws generalizing d with
  | nil => simp
  | cons v ws ih =>
    rw [List.foldl_cons, ih, window_updateWindow]
    by_cases hw : w = v
    · subst hw
      by_cases ho : (d.window w).output = some o <;> simp [ho]
    · simp [hw]

theorem output_detach {w : WindowRef} (hw : w ∈ d.windows.values) (o : OutputRef) :
    ((d.detach o).window w).output =
      if (d.window w).output = some o then none else (d.window w).output := by
  rw [detach, output_foldl_detach]
  simp [hw]

/-- Of two registered outputs only one has the number that they share. -/
theorem Sound.eq_of_mem_registerOutput (h : d.Sound) {o p : OutputRef}
    (hp : p ∈ (d.registerOutput o).outputs.values) (hid : (d.output p).id = (d.output o).id) :
    p = o := by
  have hs : (d.registerOutput o).Sound := h.registerOutput o
  obtain ⟨e, he, rfl⟩ := List.mem_map.1 hp
  have hkey : (d.output e.2).id = e.1 := hs.output_id e he
  rcases Roster.mem_of_mem_insert he with heq | hmem
  · rw [heq]
  · -- Otherwise the number would stand twice among the keys, once for each of the two.
    by_contra hne
    have ho : ((d.output o).id, o) ∈ (d.registerOutput o).outputs :=
      Roster.mem_of_find? ((Roster.find?_insert _ _ _ _).trans (if_pos rfl))
    have he' : ((d.output o).id, e.2) ∈ (d.registerOutput o).outputs := by
      rw [← hid, hkey]
      exact he
    exact hne (congrArg Prod.snd (List.inj_on_of_nodup_map hs.nodup_outputs he' ho rfl))

theorem Sound.not_mem_unregisterOutput (h : d.Sound) {o p : OutputRef}
    (hid : (d.output p).id = (d.output o).id) : p ∉ (d.unregisterOutput o).outputs.values := by
  intro hp
  obtain ⟨e, he, rfl⟩ := List.mem_map.1 hp
  have hkey : (d.output e.2).id = e.1 := h.output_id e ((Roster.erase_sublist _ _).subset he)
  have he : e ∈ d.outputs.erase (d.output o).id := he
  rw [← hid, hkey] at he
  exact Roster.not_mem_keys_erase h.nodup_outputs e.1 (List.mem_map_of_mem he)

theorem Sound.id_of_find? (h : d.Sound) {o p : OutputRef}
    (hp : p ∈ d.outputs.find? (d.output o).id) : (d.output p).id = (d.output o).id :=
  h.output_id _ (Roster.mem_of_find? hp)

end Desktop

/-! ## Steps -/

namespace Step

/-- Windows are added to registered outputs only, or to none in particular. -/
def Places (s : Service) : Step → Prop
  | addWindow _ output _ => ∀ o ∈ output, o ∈ s.desktop.outputs.values
  | _ => True

/-- No reference to an output gets lost: a window that is added to no output in particular refers to
none or to a registered one, and no other output with windows is registered under the number of an
output that is added or removed. -/
def KeepsOutputs (s : Service) : Step → Prop
  | addWindow w none _ => ∀ o ∈ (s.desktop.window w).output, o ∈ s.desktop.outputs.values
  | addOutput o | removeOutput o => ∀ p ∈ s.desktop.outputs.find? (s.desktop.output o).id,
      p ≠ o → ∀ w ∈ s.desktop.windows.values, (s.desktop.window w).output ≠ some p
  | _ => True

instance (s : Service) (e : Step) : Decidable (e.Places s) :=
  match e with
  | .addWindow .. => inferInstanceAs (Decidable (∀ o ∈ _, _))
  | .removeWindow _ | .minimize _ | .restore _ | .addOutput _ | .removeOutput _
  | .switchWorkspace _ | .startResize .. | .dragTo .. | .endResize | .cancelResize | .command _
  | .publishCommand _ | .recalculate => .isTrue trivial

instance (s : Service) (e : Step) : Decidable (e.KeepsOutputs s) :=
  match e with
  | .addWindow _ none _ => inferInstanceAs (Decidable (∀ o ∈ _, _))
  | .addOutput _ | .removeOutput _ => inferInstanceAs (Decidable (∀ p ∈ _, _ → ∀ w ∈ _, _))
  | .addWindow _ (some _) _ | .removeWindow _ | .minimize _ | .restore _ | .switchWorkspace _
  | .startResize .. | .dragTo .. | .endResize | .cancelResize | .command _ | .publishCommand _
  | .recalculate => .isTrue trivial

end Step

namespace Desktop

/-- The output of every registered window is none or registered. -/
def Located (d : Desktop) : Prop :=
  ∀ w ∈ d.windows.values, ∀ o ∈ (d.window w).output, o ∈ d.outputs.values

instance (d : Desktop) : Decidable d.Located :=
  inferInstanceAs (Decidable (∀ w ∈ _, ∀ o ∈ _, _))

variable {d d' : Desktop}

theorem located_congr (hw : d'.windows = d.windows) (ho : d'.outputs = d.outputs)
    (h : ∀ w ∈ d.windows.values, (d'.window w).output = (d.window w).output) :
    d'.Located ↔ d.Located := by
  rw [Located, Located, hw, ho]
  exact forall₂_congr fun w hmem => by rw [h w hmem]

theorem Rearranged.located_iff (h : d.Rearranged d') : d'.Located ↔ d.Located := by
  refine located_congr h.windows_eq h.outputs_eq fun w _ => ?_
  obtain ⟨box, maximized, edges, heq⟩ := h.window_alike w
  rw [heq]

theorem located_updateWindow (w : WindowRef) {f : Window → Window}
    (hf : ∀ x, (f x).output = x.output) : (d.updateWindow w f).Located ↔ d.Located :=
  located_congr rfl rfl fun v _ => field_updateWindow Window.output w v hf

variable {o : OutputRef} {w : WindowRef}

theorem located_registerOutput_iff (h : d.Sound) (hl : d.Located) :
    (d.registerOutput o).Located ↔ ∀ p ∈ d.outputs.find? (d.output o).id,
      p ≠ o → ∀ w ∈ d.windows.values, (d.window w).output ≠ some p := by
  constructor
  · intro hafter p hp hne w hw hout
    exact hne (h.eq_of_mem_registerOutput (hafter w hw p hout) (h.id_of_find? hp))
  · intro hq w hw p hout
    rcases Roster.mem_values_insert_of_mem (hl w hw p hout) (d.output o).id o with hmem | hfind
    · exact hmem
    · by_cases hne : p = o
      · exact hne ▸ Roster.mem_values_insert_self _ _ _
      · exact absurd hout (hq p hfind hne w hw)

theorem located_unregisterOutput_iff (h : d.Sound) (hl : d.Located) :
    (d.unregisterOutput o).Located ↔ ∀ p ∈ d.outputs.find? (d.output o).id,
      p ≠ o → ∀ w ∈ d.windows.values, (d.window w).output ≠ some p := by
  have hwindows : (d.unregisterOutput o).windows = d.windows := (d.detach_spec o).1
  have houtput : ∀ w ∈ d.windows.values, ((d.unregisterOutput o).window w).output =
      if (d.window w).output = some o then none else (d.window w).output :=
    fun w hw => output_detach hw o
  constructor
  · intro hafter p hp hne w hw hout
    refine h.not_mem_unregisterOutput (h.id_of_find? hp) (hafter w (hwindows ▸ hw) p ?_)
    rw [houtput w hw, hout, if_neg fun heq => hne (Option.some.inj heq)]
    rfl
  · intro hq w hw p hout
    rw [hwindows] at hw
    rw [houtput w hw] at hout
    split at hout
    · simp at hout
    · next hne =>
      rcases Roster.mem_values_erase_of_mem (hl w hw p hout) (d.output o).id with hmem | hfind
      · exact hmem
      · -- What is struck is either taken from its windows or has none.
        refine absurd hout (hq p hfind (fun heq => hne ?_) w hw)
        rw [← heq]
        exact hout

theorem located_registerWindow_iff (hl : d.Located) {output : Option OutputRef}
    (hr : ∀ o ∈ output, o ∈ d.outputs.values) (workspace : Option Text) :
    (d.registerWindow w output workspace).Located ↔
      (output = none → ∀ o ∈ (d.window w).output, o ∈ d.outputs.values) := by
  have houtput : ∀ v, ((d.registerWindow w output workspace).window v).output =
      if v = w then d.placeFor w output else (d.window v).output := by
    intro v
    have hv := d.window_updateWindow w v fun x => { x with
      output := d.placeFor w output
      workspace := workspace.or (x.workspace.or (some d.workspace)) }
    refine (congrArg Window.output hv).trans ?_
    split <;> rfl
  constructor
  · rintro hafter rfl o ho
    refine hafter w (Roster.mem_values_insert_self _ _ _) o ?_
    rw [houtput, if_pos rfl, placeFor, ho]
    rfl
  · intro hq v hv o ho
    show o ∈ d.outputs.values
    rw [houtput] at ho
    split at ho
    · -- The output is the given one, or the one that the window has, or the first one.
      cases output with
      | some given => exact hr o ho
      | none =>
        rcases hown : (d.window w).output with _ | own
        · rw [placeFor, hown] at ho
          exact List.mem_of_head? ho
        · rw [placeFor, hown] at ho
          exact hq rfl o (hown ▸ ho)
    · next hne =>
      obtain ⟨e, he, rfl⟩ := List.mem_map.1 hv
      rcases Roster.mem_of_mem_insert he with rfl | he
      · exact absurd rfl hne
      · exact hl e.2 (List.mem_map_of_mem he) o ho

end Desktop

/-! ## Runs -/

namespace Service

variable {s : Service} {e : Step}

theorem located_passed_iff : s.passed.desktop.Located ↔ s.desktop.Located :=
  s.rearranged_pass.located_iff

/-- **A step keeps windows located just when it keeps the outputs.** -/
theorem located_effect_iff (hs : s.desktop.Sound) (h : s.desktop.Located) (hr : e.Places s) :
    (e.effect s).desktop.Located ↔ e.KeepsOutputs s := by
  cases e with
  | addWindow w output workspace =>
    refine (Desktop.located_registerWindow_iff h hr workspace).trans ?_
    cases output with
    | none => exact ⟨fun hq => hq rfl, fun hq _ => hq⟩
    | some o => exact iff_of_true (fun heq => by simp at heq) trivial
  | addOutput o => exact Desktop.located_registerOutput_iff hs h
  | removeOutput o =>
    by_cases hhas : s.desktop.hasOutput o
    · simp only [Step.effect, if_pos hhas]
      exact Desktop.located_unregisterOutput_iff hs h
    · -- Nothing is registered under the number, so the step does nothing.
      have hnone : s.desktop.outputs.find? (s.desktop.output o).id = none := by
        simpa [Desktop.hasOutput, Roster.has] using hhas
      simp only [Step.effect, if_neg hhas]
      exact iff_of_true h fun p hp => by rw [hnone] at hp; simp at hp
  -- From here on the condition on the step is void, and the step has to keep windows located.
  | removeWindow w =>
    refine iff_of_true ?_ trivial
    simp only [Step.effect]
    split
    · exact fun v hv => h v (((Roster.erase_sublist _ _).map Prod.snd).subset hv)
    · exact h
  | minimize w =>
    refine iff_of_true ?_ trivial
    simp only [Step.effect]
    split
    · exact h
    · exact (Desktop.located_updateWindow w (f := fun v => { v with minimized := true })
        fun _ => rfl).2 h
  | restore w =>
    refine iff_of_true ?_ trivial
    simp only [Step.effect]
    split
    · exact (Desktop.located_updateWindow w (f := fun v => { v with minimized := false })
        fun _ => rfl).2 h
    · exact h
  | switchWorkspace workspace =>
    refine iff_of_true ?_ trivial
    simp only [Step.effect]
    split <;> exact h
  | endResize =>
    refine iff_of_true ?_ trivial
    simp only [Step.effect]
    split <;> exact h
  | recalculate => exact iff_of_true h trivial
  | command text =>
    refine iff_of_true ?_ trivial
    rw [Step.effect, desktop_commanded]
    exact h
  | publishCommand text =>
    refine iff_of_true ?_ trivial
    rw [Step.effect, desktop_commanded]
    exact h
  | startResize | dragTo | cancelResize =>
    exact iff_of_true ((Step.rearranged_effect rfl).located_iff.2 h) trivial

theorem located_step_iff (hs : s.Running) (h : s.desktop.Located) (hr : e.Places s) :
    (s.step e).desktop.Located ↔ e.KeepsOutputs s := by
  rw [step_eq hs.subscribers_eq, ← located_effect_iff hs.sound h hr]
  split
  · exact located_passed_iff
  · exact Iff.rfl

/-- **When the outputs of windows are registered.** In a run in which windows are added to
registered outputs only, or to none in particular, the output of every registered window is always
none or registered, just when no step loses the reference to an output. -/
theorem outputs_registered_iff (config : Config) (windows : Roster WindowRef Window)
    (outputs : Roster OutputRef Output) {steps : List Step}
    (hr : (launched config windows outputs).Each (fun s e => e.Places s) steps) :
    let s := launched config windows outputs
    s.Always (fun s => ∀ w ∈ s.desktop.windows.values, ∀ o ∈ (s.desktop.window w).output,
        o ∈ s.desktop.outputs.values) steps ↔
      s.Each (fun s e => e.KeepsOutputs s) steps := by
  intro s
  have hempty : s.desktop.Located := fun w hw => absurd hw List.not_mem_nil
  exact always_iff_each (fun s _ (h : s.desktop.Located) => h)
    (fun s e hs h hr hq => (located_step_iff hs h hr).2 hq)
    (fun s e hs h hr hafter => (located_step_iff hs h hr).1 hafter)
    (running_launched config windows outputs) hempty hr

/-- A window is added, its output removed, and the window moved to another output. -/
theorem outputs_registered_iff_replaced :
    let s := launched { mode := .smart } [(⟨0⟩, {})]
      [(⟨0⟩, { area := ⟨0, 0, 1920, 1080⟩ }), (⟨1⟩, { id := 1, area := ⟨1920, 0, 800, 600⟩ })]
    let steps : List Step := [.addOutput ⟨0⟩, .addWindow ⟨0⟩ none none, .removeOutput ⟨0⟩,
      .addOutput ⟨1⟩, .addWindow ⟨0⟩ (some ⟨1⟩) none]
    s.Each (fun s e => e.Places s) steps ∧
      s.Always (fun s => ∀ w ∈ s.desktop.windows.values, ∀ o ∈ (s.desktop.window w).output,
        o ∈ s.desktop.outputs.values) steps := by
  intro s steps
  have hr : s.Each (fun s e => e.Places s) steps := by decide
  exact ⟨hr, (outputs_registered_iff _ _ _ hr).2 (by decide)⟩

/-- **A returning window keeps an output that is gone.** A window is removed, then its output, and
then the same window is added again, to no output in particular. It is registered and refers to the
removed output, so it is tiled nowhere, also not on the output that is there by now. -/
theorem returning_window_keeps_lost_output :
    let s := launched { mode := .smart } [(⟨0⟩, {})]
      [(⟨0⟩, { area := ⟨0, 0, 1920, 1080⟩ }), (⟨1⟩, { id := 1, area := ⟨1920, 0, 800, 600⟩ })]
    let steps : List Step := [.addOutput ⟨0⟩, .addWindow ⟨0⟩ none none, .removeWindow ⟨0⟩,
      .removeOutput ⟨0⟩, .addOutput ⟨1⟩, .addWindow ⟨0⟩ none none]
    let last := steps.foldl step s
    s.Each (fun s e => e.Places s) steps ∧
      ¬ s.Always (fun s => ∀ w ∈ s.desktop.windows.values, ∀ o ∈ (s.desktop.window w).output,
        o ∈ s.desktop.outputs.values) steps ∧
      last.desktop.windows.values = [⟨0⟩] ∧
      last.desktop.outputs.values = [⟨1⟩] ∧
      (last.desktop.window ⟨0⟩).output = some ⟨0⟩ ∧
      last.desktop.eligible ⟨1⟩ = [] := by
  decide

end Service

end WindowTiling
