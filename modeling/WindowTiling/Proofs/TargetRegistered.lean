import WindowTiling.Proofs.SmartTarget

/-!
# Is the target registered?

The target is to name a window that is registered, since closing its window clears it. But the
resize under way keeps its window when the window is closed, and in smart mode ending that resize
makes it the target again.

**Theorem (`target_registered_iff`).** This is the only way to a target that is not registered. Take
any run in which resizes are started at registered windows, and in which no window is added or
removed while another one is registered under its number. In all of its states the target is none or
registered, just when no resize is ended in smart mode after its window has been closed.

`closed_window_becomes_target` is a run with such a resize.
-/

namespace WindowTiling

/-! ## Windows that stay in the registry -/

namespace Roster

variable {κ α : Type} [DecidableEq κ] {r : Roster κ α} {key : κ} {a b : α}

theorem mem_values_insert_self (r : Roster κ α) (key : κ) (a : α) :
    a ∈ (r.insert key a).values := by
  induction r with
  | nil => exact List.mem_singleton_self a
  | cons e r ih =>
    simp only [insert]
    split
    · exact List.mem_cons_self
    · exact List.mem_cons_of_mem _ ih

/-- Of what is entered only the entry under the key can get lost. -/
theorem mem_values_insert_of_mem (h : b ∈ r.values) (key : κ) (a : α) :
    b ∈ (r.insert key a).values ∨ r.find? key = some b := by
  induction r with
  | nil => exact absurd h List.not_mem_nil
  | cons e r ih =>
    obtain ⟨k, c⟩ := e
    simp only [insert, find?]
    split
    · exact (List.mem_cons.1 h).symm.imp (List.mem_cons_of_mem _) fun h => by rw [h]
    · rcases List.mem_cons.1 h with rfl | h
      · exact .inl List.mem_cons_self
      · exact (ih h).imp_left (List.mem_cons_of_mem _)

theorem mem_values_erase_of_mem (h : b ∈ r.values) (key : κ) :
    b ∈ (r.erase key).values ∨ r.find? key = some b := by
  induction r with
  | nil => exact absurd h List.not_mem_nil
  | cons e r ih =>
    obtain ⟨k, c⟩ := e
    simp only [erase, find?]
    split
    · exact (List.mem_cons.1 h).symm.imp id fun h => by rw [h]
    · rcases List.mem_cons.1 h with rfl | h
      · exact .inl List.mem_cons_self
      · exact (ih h).imp_left (List.mem_cons_of_mem _)

end Roster

/-- A resize is started at a registered window, unless there is one under way; and a window is added
or removed only while no other one is registered under its number. -/
def Step.Regular (s : Service) : Step → Prop
  | startResize w _ => s.drag = none → w ∈ s.desktop.windows.values
  | addWindow w _ _ | removeWindow w =>
    ∀ v ∈ s.desktop.windows.find? (s.desktop.window w).id, v = w
  | _ => True

instance (s : Service) (e : Step) : Decidable (e.Regular s) :=
  match e with
  | .startResize .. => inferInstanceAs (Decidable (_ → _))
  | .addWindow .. | .removeWindow _ => inferInstanceAs (Decidable (∀ v ∈ _, _))
  | .minimize _ | .restore _ | .addOutput _ | .removeOutput _ | .switchWorkspace _ | .dragTo ..
  | .endResize | .cancelResize | .command _ | .publishCommand _ | .recalculate => .isTrue trivial

namespace Step

variable {s : Service} {e : Step} {w : WindowRef}

theorem registered_effect (hr : e.Regular s) (hw : w ∈ s.desktop.windows.values) :
    w ∈ (e.effect s).desktop.windows.values ∨
      e = .removeWindow w ∧ s.desktop.hasWindow w = true := by
  -- Without a pass the registry stays as it is. A regular step enters or strikes a window only
  -- under a number that no other one has.
  cases hp : e.passes s with
  | false =>
    rw [(rearranged_effect hp).windows_eq]
    exact .inl hw
  | true =>
    cases e with
    | addWindow v output workspace =>
      refine .inl ?_
      rcases Roster.mem_values_insert_of_mem hw (s.desktop.window v).id v with h | h
      · exact h
      · rw [hr w h]
        exact Roster.mem_values_insert_self _ _ _
    | removeWindow v =>
      have hhas : s.desktop.hasWindow v = true := hp
      rw [effect, if_pos hhas]
      rcases Roster.mem_values_erase_of_mem hw (s.desktop.window v).id with h | h
      · exact .inl h
      · obtain rfl := hr w h
        exact .inr ⟨rfl, hhas⟩
    | removeOutput o =>
      have hhas : s.desktop.hasOutput o = true := hp
      rw [effect, if_pos hhas]
      refine .inl ?_
      show w ∈ (s.desktop.detach o).windows.values
      rw [(s.desktop.detach_spec o).1]
      exact hw
    | dragTo dx dy => exact absurd hp Bool.false_ne_true
    | cancelResize => exact absurd hp Bool.false_ne_true
    | command text =>
      rw [effect, Service.desktop_commanded]
      exact .inl hw
    | publishCommand text =>
      rw [effect, Service.desktop_commanded]
      exact .inl hw
    | _ =>
      simp only [effect]
      repeat' split
      all_goals exact .inl hw

end Step

/-! ## Runs -/

namespace Service

variable {s : Service}

/-- The target is none or registered. -/
def Anchored (s : Service) : Prop := ∀ t ∈ s.target, t.window ∈ s.desktop.windows.values

/-- A resize that is ended in smart mode has a registered window. -/
def EndsRegistered (s : Service) (e : Step) : Prop :=
  e = .endResize → s.mode = .smart → ∀ drag ∈ s.drag, drag.window ∈ s.desktop.windows.values

theorem anchored_effect (h : s.Anchored) {e : Step} (hr : e.Regular s) (hq : s.EndsRegistered e) :
    (e.effect s).Anchored := by
  intro t ht
  rcases e.target_effect s with heq | ⟨hnone, -⟩ | ⟨hnone, -⟩ | ⟨hsmart, w, haims, heq⟩
  · have hmem : t.window ∈ s.desktop.windows.values := h t (heq.symm.trans ht)
    rcases Step.registered_effect hr hmem with hmem | ⟨rfl, hhas⟩
    · exact hmem
    · -- Removing the target's window clears the target.
      have htarget : s.target.map (·.window) = some t.window :=
        congrArg (Option.map (·.window)) (heq.symm.trans ht)
      rw [Step.effect, if_pos hhas] at ht
      exact absurd ((if_pos htarget).symm.trans ht) (by simp)
  · rw [hnone] at ht
    simp at ht
  · rw [hnone] at ht
    simp at ht
  · rw [heq] at ht
    obtain rfl := Option.some.inj ht
    have hmem : w ∈ s.desktop.windows.values := by
      cases e with
      | startResize v edges =>
        obtain ⟨hnone, rfl⟩ := haims
        exact hr hnone
      | endResize =>
        obtain ⟨drag, hdrag, rfl⟩ := haims
        exact hq rfl hsmart drag hdrag
      | _ => exact haims.elim
    rcases Step.registered_effect hr hmem with hmem | ⟨rfl, -⟩
    · exact hmem
    · exact haims.elim

theorem anchored_passed (h : s.Anchored) : s.passed.Anchored := by
  intro t ht
  show t.window ∈ s.pass.desktop.windows.values
  rw [s.rearranged_pass.windows_eq]
  rcases s.map_window_target_passed with hnone | hsame
  · rw [hnone] at ht
    simp at ht
  · rw [ht] at hsame
    obtain ⟨t', ht', hw⟩ := Option.map_eq_some_iff.1 hsame.symm
    have hw : t'.window = t.window := hw
    rw [← hw]
    exact h t' ht'

theorem anchored_step (hs : s.Running) (h : s.Anchored) {e : Step} (hr : e.Regular s)
    (hq : s.EndsRegistered e) : (s.step e).Anchored := by
  rw [step_eq hs.subscribers_eq]
  split
  · exact anchored_passed (anchored_effect h hr hq)
  · exact anchored_effect h hr hq

theorem endsRegistered_of_anchored (hs : s.server.subscribers = []) {e : Step}
    (h : (s.step e).Anchored) : s.EndsRegistered e := by
  rintro rfl hsmart drag hdrag
  have hp : Step.passes s .endResize = true := by rw [Step.passes, hdrag]; rfl
  have hstep := step_of_passes hs hp
  have heffect : (Step.effect s .endResize).target =
      some ⟨drag.window, (s.desktop.window drag.window).box⟩ := by
    rw [Step.effect, hdrag]
    exact if_pos hsmart
  have hdesktop : (Step.effect s .endResize).desktop = s.desktop := by
    rw [Step.effect, hdrag]
    rfl
  have hmode : (Step.effect s .endResize).mode ≠ .grid := by
    rw [Step.effect, hdrag]
    show s.mode ≠ .grid
    rw [hsmart]
    decide
  -- The pass leaves the window of the resize as the target and the registry as it was.
  have hwindow := map_window_target_passed_of_ne_grid hmode
  rw [← hstep, heffect] at hwindow
  obtain ⟨t, ht, hw⟩ := Option.map_eq_some_iff.1 hwindow
  have hwindows : (s.step .endResize).desktop.windows = s.desktop.windows := by
    rw [hstep, ← hdesktop]
    exact (rearranged_pass _).windows_eq
  rw [← hwindows, ← show t.window = drag.window from hw]
  exact h t ht

/-- **When the target dangles.** In a run of regular steps the target is always none or registered,
just when no resize is ended in smart mode whose window is not registered. -/
theorem target_registered_iff (config : Config) (windows : Roster WindowRef Window)
    (outputs : Roster OutputRef Output) {steps : List Step}
    (hr : (launched config windows outputs).Each (fun s e => e.Regular s) steps) :
    let s := launched config windows outputs
    s.Always (fun s => ∀ t ∈ s.target, t.window ∈ s.desktop.windows.values) steps ↔
      s.Each (fun s e => e = .endResize → s.mode = .smart →
        ∀ drag ∈ s.drag, drag.window ∈ s.desktop.windows.values) steps := by
  intro s
  have hs : s.Running := running_launched config windows outputs
  have hnone : s.Anchored := fun t ht => by simp [s, launched, ofConfig] at ht
  exact always_iff_each (fun s _ h => h) (fun s e hs h hr hq => anchored_step hs h hr hq)
    (fun s e hs _ _ h => endsRegistered_of_anchored hs.subscribers_eq h) hs hnone hr

/-- A resize in smart mode whose window stays. -/
theorem target_registered_iff_kept :
    let steps : List Step := [.addOutput ⟨0⟩, .addWindow ⟨0⟩ none none, .startResize ⟨0⟩ ⟨8⟩,
      .dragTo (-50) 0, .endResize]
    (unoccupied .smart 1).Each (fun s e => e.Regular s) steps ∧
      (unoccupied .smart 1).Always (fun s => ∀ t ∈ s.target, t.window ∈ s.desktop.windows.values)
        steps := by
  intro steps
  have hr : (unoccupied .smart 1).Each (fun s e => e.Regular s) steps := by decide
  exact ⟨hr, (target_registered_iff _ _ _ hr).2 (by decide)⟩

/-- **The target of a closed window.** A window is closed while it is being resized. Closing it
clears the target, but ending the resize sets it again, when nothing is registered any more. -/
theorem closed_window_becomes_target :
    let s := unoccupied .smart 1
    let steps : List Step := [.addOutput ⟨0⟩, .addWindow ⟨0⟩ none none, .startResize ⟨0⟩ ⟨8⟩,
      .removeWindow ⟨0⟩, .endResize]
    s.Each (fun s e => e.Regular s) steps ∧
      ¬ s.Always (fun s => ∀ t ∈ s.target, t.window ∈ s.desktop.windows.values) steps ∧
      (steps.foldl step s).desktop.windows = [] ∧
      (steps.foldl step s).target = some ⟨⟨0⟩, ⟨10, 10, 1900, 1060⟩⟩ := by
  decide

end Service

end WindowTiling
