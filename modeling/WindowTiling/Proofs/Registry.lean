import WindowTiling.Desktop

/-!
# Sound registries

A registry is *sound* when every object stands under its own number and no number is used twice.
This is what it means for a window to be in one place of the order only, and so the windows tiled
on an output are distinct and no window is tiled on two outputs.

Main facts: `Built.sound` (every desktop that comes about by the operations of the registry is
sound), `nodup_eligible` and `output_eq_of_mem_eligible`.
-/

namespace WindowTiling

namespace Roster

variable {κ α : Type} [DecidableEq κ]

theorem mem_of_mem_insert {r : Roster κ α} {key : κ} {a : α} {e : κ × α}
    (h : e ∈ r.insert key a) : e = (key, a) ∨ e ∈ r := by
  induction r with
  | nil => exact Or.inl (List.mem_singleton.1 h)
  | cons f r ih =>
    obtain ⟨k, b⟩ := f
    simp only [insert] at h
    split at h
    · next hk =>
      rcases List.mem_cons.1 h with h | h
      · exact Or.inl (hk ▸ h)
      · exact Or.inr (List.mem_cons_of_mem _ h)
    · rcases List.mem_cons.1 h with h | h
      · exact Or.inr (h ▸ List.mem_cons_self)
      · exact (ih h).imp_right (List.mem_cons_of_mem _)

theorem find?_map {β : Type} (r : Roster κ α) (f : κ → α → β) (key : κ) :
    find? (r.map fun e => (e.1, f e.1 e.2)) key = (r.find? key).map (f key) := by
  induction r with
  | nil => rfl
  | cons e r ih =>
    simp only [List.map_cons, find?]
    split
    · next h => rw [← h]; rfl
    · exact ih

theorem insert_map {β : Type} (r : Roster κ α) (f : κ → α → β) (key : κ) (a : α) :
    insert (r.map fun e => (e.1, f e.1 e.2)) key (f key a) =
      (r.insert key a).map fun e => (e.1, f e.1 e.2) := by
  induction r with
  | nil => rfl
  | cons e r ih =>
    simp only [List.map_cons, insert]
    split
    · next h => rw [← h]; rfl
    · rw [ih, List.map_cons]

omit [DecidableEq κ] in
theorem nodup_values {r : Roster κ α} (number : α → κ) (hn : r.keys.Nodup)
    (h : ∀ e ∈ r, number e.2 = e.1) : r.values.Nodup := by
  have hkeys : r.keys = r.values.map number := by
    simp only [keys, values, List.map_map]
    exact List.map_congr_left fun e he => (h e he).symm
  rw [hkeys] at hn
  exact List.Pairwise.of_map number (fun a b hne heq => hne (congrArg number heq)) hn

end Roster

namespace Desktop

variable {d : Desktop}

theorem output_updateOutput (d : Desktop) (o p : OutputRef) (f : Output → Output) :
    (d.updateOutput o f).output p = if p = o then f (d.output p) else d.output p := by
  simp only [output, updateOutput, Roster.find?_insert]
  by_cases h : o = p
  · simp [h]
  · simp [h, Ne.symm h]

/-! ## Soundness -/

/-- Every registered object stands under its own number, and no number is used twice. -/
structure Sound (d : Desktop) : Prop where
  window_id : ∀ e ∈ d.windows, (d.window e.2).id = e.1
  nodup_windows : d.windows.keys.Nodup
  output_id : ∀ e ∈ d.outputs, (d.output e.2).id = e.1
  nodup_outputs : d.outputs.keys.Nodup

instance (d : Desktop) : Decidable d.Sound :=
  decidable_of_iff ((∀ e ∈ d.windows, (d.window e.2).id = e.1) ∧ d.windows.keys.Nodup ∧
      (∀ e ∈ d.outputs, (d.output e.2).id = e.1) ∧ d.outputs.keys.Nodup)
    ⟨fun ⟨h₁, h₂, h₃, h₄⟩ => ⟨h₁, h₂, h₃, h₄⟩, fun ⟨h₁, h₂, h₃, h₄⟩ => ⟨h₁, h₂, h₃, h₄⟩⟩

theorem Sound.nodup_window_values (h : d.Sound) : d.windows.values.Nodup :=
  Roster.nodup_values (fun w => (d.window w).id) h.nodup_windows h.window_id

theorem Sound.nodup_output_values (h : d.Sound) : d.outputs.values.Nodup :=
  Roster.nodup_values (fun o => (d.output o).id) h.nodup_outputs h.output_id

theorem Sound.nodup_eligible (h : d.Sound) (o : OutputRef) : (d.eligible o).Nodup :=
  (h.nodup_window_values.sublist List.filter_sublist).sublist List.filter_sublist

/-- A window is tiled on one output only. -/
theorem output_eq_of_mem_eligible {o p : OutputRef} {w : WindowRef} (ho : w ∈ d.eligible o)
    (hp : w ∈ d.eligible p) : o = p := by
  have h₁ := (mem_eligible_iff.1 ho).2.1.1
  have h₂ := (mem_eligible_iff.1 hp).2.1.1
  exact Option.some.inj (h₁.symm.trans h₂)

/-- Soundness depends only on what is registered and on the numbers of the objects. -/
theorem Sound.congr {d' : Desktop} (h : d.Sound) (hw : d'.windows = d.windows)
    (ho : d'.outputs = d.outputs) (hwi : ∀ w ∈ d.windows.values, (d'.window w).id = (d.window w).id)
    (hoi : ∀ o ∈ d.outputs.values, (d'.output o).id = (d.output o).id) : d'.Sound where
  window_id e he := by
    rw [hw] at he
    rw [hwi e.2 (List.mem_map_of_mem he), h.window_id e he]
  nodup_windows := hw ▸ h.nodup_windows
  output_id e he := by
    rw [ho] at he
    rw [hoi e.2 (List.mem_map_of_mem he), h.output_id e he]
  nodup_outputs := ho ▸ h.nodup_outputs

/-! ## The operations keep soundness -/

/-- What a write keeps of the window written is the same for every window afterwards. -/
theorem field_updateWindow {β : Type} (field : Window → β) (w v : WindowRef)
    {f : Window → Window} (hf : ∀ x, field (f x) = field x) :
    field ((d.updateWindow w f).window v) = field (d.window v) := by
  rw [window_updateWindow]
  split
  · exact hf _
  · rfl

theorem Sound.updateWindow (h : d.Sound) (w : WindowRef) {f : Window → Window}
    (hf : ∀ x, (f x).id = x.id) : (d.updateWindow w f).Sound :=
  h.congr rfl rfl (fun _ _ => field_updateWindow Window.id w _ hf) fun _ _ => rfl

theorem Sound.updateOutput (h : d.Sound) (o : OutputRef) {f : Output → Output}
    (hf : ∀ x, (f x).id = x.id) : (d.updateOutput o f).Sound := by
  refine h.congr rfl rfl (fun _ _ => rfl) fun p _ => ?_
  rw [output_updateOutput]
  split
  · exact hf _
  · rfl

theorem Sound.registerWindow (h : d.Sound) (w : WindowRef) (o : Option OutputRef)
    (workspace : Option Text) : (d.registerWindow w o workspace).Sound := by
  have hid : ∀ v, ((d.registerWindow w o workspace).window v).id = (d.window v).id := by
    intro v
    refine (field_updateWindow Window.id w v (f := fun x => { x with
      output := d.placeFor w o
      workspace := workspace.or (x.workspace.or (some d.workspace)) }) fun _ => rfl)
  exact {
    window_id := fun e he => by
      rw [hid]
      rcases Roster.mem_of_mem_insert he with rfl | he
      · rfl
      · exact h.window_id e he
    nodup_windows := Roster.nodup_keys_insert h.nodup_windows _ _
    output_id := h.output_id
    nodup_outputs := h.nodup_outputs }

theorem Sound.unregisterWindow (h : d.Sound) (w : WindowRef) : (d.unregisterWindow w).Sound where
  window_id e he := h.window_id e ((Roster.erase_sublist _ _).subset he)
  nodup_windows := Roster.nodup_keys_erase h.nodup_windows _
  output_id := h.output_id
  nodup_outputs := h.nodup_outputs

theorem Sound.registerOutput (h : d.Sound) (o : OutputRef) : (d.registerOutput o).Sound where
  window_id := h.window_id
  nodup_windows := h.nodup_windows
  output_id e he := by
    rcases Roster.mem_of_mem_insert he with rfl | he
    · rfl
    · exact h.output_id e he
  nodup_outputs := Roster.nodup_keys_insert h.nodup_outputs _ _

theorem detach_spec (d : Desktop) (o : OutputRef) :
    (d.detach o).windows = d.windows ∧ (d.detach o).outputs = d.outputs ∧
      (∀ w, ((d.detach o).window w).id = (d.window w).id) ∧
      ∀ p, (d.detach o).output p = d.output p := by
  unfold detach
  generalize d.windows.values = ws
  induction ws generalizing d with
  | nil => exact ⟨rfl, rfl, fun _ => rfl, fun _ => rfl⟩
  | cons v ws ih =>
    obtain ⟨hw, ho, hid, hout⟩ := ih (d.updateWindow v fun x =>
      if x.output = some o then { x with output := none } else x)
    refine ⟨hw, ho, fun w => (hid w).trans ?_, hout⟩
    exact field_updateWindow Window.id v w fun x => by split <;> rfl

theorem Sound.unregisterOutput (h : d.Sound) (o : OutputRef) : (d.unregisterOutput o).Sound := by
  obtain ⟨hw, ho, hid, hout⟩ := d.detach_spec o
  have hd : (d.detach o).Sound :=
    h.congr hw ho (fun w _ => hid w) fun p _ => by rw [hout p]
  exact {
    window_id := hd.window_id
    nodup_windows := hd.nodup_windows
    output_id := fun e he => by
      have hmem : e ∈ d.outputs := (Roster.erase_sublist d.outputs _).subset he
      exact hd.output_id e (ho ▸ hmem)
    nodup_outputs := Roster.nodup_keys_erase h.nodup_outputs _ }

/-! ## Every desktop that comes about is sound -/

/-- A desktop that comes about from an empty one by making, changing, registering and unregistering
windows and outputs. A change of an object leaves its number alone. -/
inductive Built : Desktop → Prop
  | start : Built {}
  | makeWindow {d : Desktop} (h : Built d) (w : Window) : Built (d.makeWindow w).1
  | makeOutput {d : Desktop} (h : Built d) (o : Output) : Built (d.makeOutput o).1
  | changeWindow {d : Desktop} (h : Built d) (w : WindowRef) {f : Window → Window}
      (hf : ∀ x, (f x).id = x.id) : Built (d.updateWindow w f)
  | changeOutput {d : Desktop} (h : Built d) (o : OutputRef) {f : Output → Output}
      (hf : ∀ x, (f x).id = x.id) : Built (d.updateOutput o f)
  | registerWindow {d : Desktop} (h : Built d) {w : WindowRef} (hw : w.index < d.windowCount)
      (o : Option OutputRef) (workspace : Option Text) : Built (d.registerWindow w o workspace)
  | unregisterWindow {d : Desktop} (h : Built d) (w : WindowRef) : Built (d.unregisterWindow w)
  | registerOutput {d : Desktop} (h : Built d) {o : OutputRef} (ho : o.index < d.outputCount) :
      Built (d.registerOutput o)
  | unregisterOutput {d : Desktop} (h : Built d) (o : OutputRef) : Built (d.unregisterOutput o)
  | visit {d : Desktop} (h : Built d) (workspace : Text) : Built { d with workspace }
  | govern {d : Desktop} (h : Built d) (rules : List Rule) : Built { d with rules }

/-- What is registered has been made. -/
def Made (d : Desktop) : Prop :=
  (∀ e ∈ d.windows, e.2.index < d.windowCount) ∧ ∀ e ∈ d.outputs, e.2.index < d.outputCount

theorem made_detach (h : d.Made) (o : OutputRef) : (d.detach o).Made := by
  unfold detach
  generalize d.windows.values = ws
  induction ws generalizing d with
  | nil => exact h
  | cons v ws ih => exact ih h

/-- The invariant behind `Built.sound`: a new object gets a reference that nothing registered has,
so making it changes no registered number. -/
theorem Built.sound_and_made (h : d.Built) : d.Sound ∧ d.Made := by
  induction h with
  | start => exact ⟨by decide, fun _ he => by simp at he, fun _ he => by simp at he⟩
  | @makeWindow d _ w ih =>
    obtain ⟨hs, hmw, hmo⟩ := ih
    refine ⟨hs.congr rfl rfl (fun v hv => ?_) fun _ _ => rfl,
      fun e he => Nat.lt_succ_of_lt (hmw e he), hmo⟩
    obtain ⟨e, he, rfl⟩ := List.mem_map.1 hv
    have hne : e.2 ≠ ⟨d.windowCount⟩ := fun heq =>
      absurd (hmw e he) (by rw [heq]; exact Nat.lt_irrefl _)
    exact congrArg Window.id (window_updateWindow_of_ne d hne fun _ => w)
  | @makeOutput d _ o ih =>
    obtain ⟨hs, hmw, hmo⟩ := ih
    refine ⟨hs.congr rfl rfl (fun _ _ => rfl) fun p hp => ?_,
      hmw, fun e he => Nat.lt_succ_of_lt (hmo e he)⟩
    obtain ⟨e, he, rfl⟩ := List.mem_map.1 hp
    have hne : e.2 ≠ ⟨d.outputCount⟩ := fun heq =>
      absurd (hmo e he) (by rw [heq]; exact Nat.lt_irrefl _)
    have hsame := output_updateOutput d ⟨d.outputCount⟩ e.2 fun _ => o
    rw [if_neg hne] at hsame
    exact congrArg Output.id hsame
  | changeWindow _ w hf ih => exact ⟨ih.1.updateWindow w hf, ih.2⟩
  | changeOutput _ o hf ih => exact ⟨ih.1.updateOutput o hf, ih.2⟩
  | registerWindow _ hw o workspace ih =>
    refine ⟨ih.1.registerWindow _ o workspace, fun e he => ?_, ih.2.2⟩
    rcases Roster.mem_of_mem_insert he with rfl | he
    · exact hw
    · exact ih.2.1 e he
  | unregisterWindow _ w ih =>
    exact ⟨ih.1.unregisterWindow w,
      fun e he => ih.2.1 e ((Roster.erase_sublist _ _).subset he), ih.2.2⟩
  | registerOutput _ ho ih =>
    refine ⟨ih.1.registerOutput _, ih.2.1, fun e he => ?_⟩
    rcases Roster.mem_of_mem_insert he with rfl | he
    · exact ho
    · exact ih.2.2 e he
  | @unregisterOutput d _ o ih =>
    refine ⟨ih.1.unregisterOutput o, (made_detach ih.2 o).1, fun e he => ?_⟩
    have hmem : e ∈ d.outputs := (Roster.erase_sublist d.outputs _).subset he
    have hout : (d.detach o).outputs = d.outputs := (d.detach_spec o).2.1
    exact (made_detach ih.2 o).2 e (hout.symm ▸ hmem)
  | visit _ _ ih => exact ⟨ih.1.congr rfl rfl (fun _ _ => rfl) fun _ _ => rfl, ih.2⟩
  | govern _ _ ih => exact ⟨ih.1.congr rfl rfl (fun _ _ => rfl) fun _ _ => rfl, ih.2⟩

/-- Every desktop that comes about by the operations of the registry is sound. -/
theorem Built.sound (h : d.Built) : d.Sound := h.sound_and_made.1

end Desktop

end WindowTiling
