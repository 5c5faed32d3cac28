import WindowTiling.Proofs.History
import WindowTiling.Proofs.Steps

/-!
# Runs of the service

A run starts from the service as a configuration starts it, with windows and outputs that are there
but not registered, and takes one step after the other. A property is had *always* in a run if it
holds in every state that is reached, the first and the last one included, and a step has a property
*each* time if the property holds of every step of the run and the state in which it is taken.

**Theorem (`always_iff_each`).** Suppose that an invariant gives a property `P` of states, that a
step keeps the invariant if it satisfies `Q`, and that a step from the invariant to a state with `P`
satisfies `Q`. Then a run always has `P` just when each of its steps satisfies `Q`. So a property
that the service does not have in all runs is told by the steps at which it is lost.

In every state of a run nobody is subscribed and the registry is sound (`Running`), so that steps
come to what `step_eq` says, and passes to what is known of sound desktops.
-/

namespace WindowTiling

/-! ## What plain changes keep -/

namespace Desktop.Rearranged

variable {d d' : Desktop}

theorem refl (d : Desktop) : d.Rearranged d :=
  ⟨⟨rfl, rfl, rfl, rfl, fun _ => Window.Alike.refl _⟩, fun _ => rfl⟩

theorem sound (h : d.Rearranged d') (hs : d.Sound) : d'.Sound := by
  refine hs.congr h.windows_eq h.outputs_eq (fun w _ => ?_) fun o _ => by rw [h.output_eq]
  obtain ⟨box, maximized, edges, heq⟩ := h.window_alike w
  rw [heq]

end Desktop.Rearranged

namespace Service

theorem rearranged_moved (s : Service) (w : WindowRef) (box : Box) :
    s.desktop.Rearranged (s.moved w box).desktop := by
  show s.desktop.Rearranged ((s.desktop.moveResize w box).getD s.desktop)
  cases hm : s.desktop.moveResize w box with
  | none => exact Desktop.Rearranged.refl _
  | some d => exact Desktop.rearranged_moveResize hm

theorem box_moved_self (s : Service) (w : WindowRef) {box : Box} (hn : box.Nonneg) :
    ((s.moved w box).desktop.window w).box = box := by
  show (((s.desktop.moveResize w box).getD s.desktop).window w).box = box
  rw [Desktop.moveResize, if_pos hn, Option.getD_some, Desktop.window_updateWindow_self]

theorem box_moved (s : Service) {w v : WindowRef} (h : v ≠ w) (box : Box) :
    ((s.moved w box).desktop.window v).box = (s.desktop.window v).box := by
  show (((s.desktop.moveResize w box).getD s.desktop).window v).box = _
  rw [Desktop.moveResize]
  split
  · exact congrArg Window.box
      (s.desktop.window_updateWindow_of_ne h fun x => { x with box })
  · rfl

theorem rearranged_pass (s : Service) : s.desktop.Rearranged s.pass.desktop :=
  Desktop.rearranged_arrange

end Service

namespace Step

variable {s : Service}

/-- No step changes the configuration or the server. -/
theorem effect_frame (s : Service) (e : Step) :
    (e.effect s).config = s.config ∧ (e.effect s).server = s.server := by
  cases e with
  | command text => exact ⟨s.config_commanded text, s.server_commanded text⟩
  | publishCommand text =>
    exact ⟨(s.noted _).config_commanded text, (s.noted _).server_commanded text⟩
  | _ =>
    simp only [effect]
    repeat' split
    all_goals exact ⟨rfl, rfl⟩

/-- **A step without a pass** notes at most that it was taken, or it starts a resize, moves the
window of the one under way, or cancels it. -/
theorem effect_cases {e : Step} (h : e.passes s = false) :
    (∃ history, e.effect s = { s with history }) ∨
      (∃ w edges, e = .startResize w edges ∧ s.drag = none) ∨
      (∃ dx dy drag, e = .dragTo dx dy ∧ s.drag = some drag ∧
        e.effect s = s.moved drag.window (dragBox drag.start drag.edges.sides dx dy)) ∨
      ∃ drag, e = .cancelResize ∧ s.drag = some drag := by
  -- Where no pass follows, the condition of the step fails, so that at most the history has
  -- changed; the three steps that only concern the drag are the exceptions.
  cases e with
  | addWindow w output workspace => exact absurd h (by simp [passes])
  | addOutput o => exact absurd h (by simp [passes])
  | recalculate => exact absurd h (by simp [passes])
  | removeWindow w => exact .inl ⟨_, if_neg (by simpa [passes] using h)⟩
  | minimize w => exact .inl ⟨_, if_pos (by simpa [passes] using h)⟩
  | restore w => exact .inl ⟨_, if_neg (by simpa [passes] using h)⟩
  | removeOutput o => exact .inl ⟨_, if_neg (by simpa [passes] using h)⟩
  | switchWorkspace workspace => exact .inl ⟨_, if_pos (by simpa [passes] using h)⟩
  | startResize w edges =>
    rcases Option.eq_none_or_eq_some s.drag with hnone | ⟨drag, hdrag⟩
    · exact .inr (.inl ⟨w, edges, rfl, hnone⟩)
    · exact .inl ⟨s.history, if_pos (by rw [hdrag]; rfl)⟩
  | dragTo dx dy =>
    rcases Option.eq_none_or_eq_some s.drag with hnone | ⟨drag, hdrag⟩
    · have heq : effect s (.dragTo dx dy) = s := by rw [effect, hnone]
      exact .inl ⟨s.history, heq⟩
    · have heq : effect s (.dragTo dx dy) = if drag.edges.IsEmpty then s
          else s.moved drag.window (dragBox drag.start drag.edges.sides dx dy) := by
        rw [effect, hdrag]
      by_cases hempty : drag.edges.IsEmpty
      · exact .inl ⟨s.history, heq.trans (if_pos hempty)⟩
      · exact .inr (.inr (.inl ⟨dx, dy, drag, rfl, hdrag, heq.trans (if_neg hempty)⟩))
  | endResize =>
    have hnone : s.drag = none := by simpa [passes] using h
    have heq : effect s .endResize = s := by rw [effect, hnone]
    exact .inl ⟨s.history, heq⟩
  | cancelResize =>
    rcases Option.eq_none_or_eq_some s.drag with hnone | ⟨drag, hdrag⟩
    · have heq : effect s .cancelResize = s := by rw [effect, hnone]
      exact .inl ⟨s.history, heq⟩
    · exact .inr (.inr (.inr ⟨drag, rfl, hdrag⟩))
  | command text => exact .inl ⟨_, Service.commanded_eq_self h⟩
  | publishCommand text => exact .inl ⟨_, Service.commanded_eq_self (s := s.noted _) h⟩

theorem effect_startResize {w : WindowRef} {edges : EdgeCode} (h : s.drag = none) :
    effect s (.startResize w edges) =
      ({ s with drag := some ⟨w, (s.desktop.window w).box, edges⟩ }.noted
        (.resizeStarted w (s.desktop.window w).box)).aimed w (s.desktop.window w).box :=
  if_neg (by rw [h]; exact Bool.false_ne_true)

theorem effect_cancelResize {drag : Drag} (h : s.drag = some drag) :
    (effect s .cancelResize).desktop = (s.moved drag.window drag.start).desktop ∧
      (effect s .cancelResize).drag = none ∧ (effect s .cancelResize).mode = s.mode := by
  rw [effect, h]
  dsimp only
  split <;> exact ⟨rfl, rfl, rfl⟩

variable {e : Step}

theorem rearranged_effect (h : e.passes s = false) :
    s.desktop.Rearranged (e.effect s).desktop := by
  rcases effect_cases h with ⟨history, heq⟩ | ⟨w, edges, rfl, hnone⟩ |
    ⟨dx, dy, drag, rfl, hdrag, heq⟩ | ⟨drag, rfl, hdrag⟩
  · rw [heq]
    exact Desktop.Rearranged.refl _
  · rw [effect_startResize hnone]
    exact Desktop.Rearranged.refl _
  · rw [heq]
    exact s.rearranged_moved _ _
  · rw [(effect_cancelResize hdrag).1]
    exact s.rearranged_moved _ _

theorem mode_effect (h : e.passes s = false) : (e.effect s).mode = s.mode := by
  rcases effect_cases h with ⟨history, heq⟩ | ⟨w, edges, rfl, hnone⟩ |
    ⟨dx, dy, drag, rfl, hdrag, heq⟩ | ⟨drag, rfl, hdrag⟩
  · rw [heq]
    rfl
  · rw [effect_startResize hnone]
    rfl
  · rw [heq]
    rfl
  · exact (effect_cancelResize hdrag).2.2

theorem box_effect (h : e.passes s = false) {w : WindowRef}
    (hw : ∀ drag ∈ s.drag, drag.window ≠ w) :
    ((e.effect s).desktop.window w).box = (s.desktop.window w).box := by
  rcases effect_cases h with ⟨history, heq⟩ | ⟨v, edges, rfl, hnone⟩ |
    ⟨dx, dy, drag, rfl, hdrag, heq⟩ | ⟨drag, rfl, hdrag⟩
  · rw [heq]
  · rw [effect_startResize hnone]
    rfl
  · rw [heq]
    exact s.box_moved (hw drag hdrag).symm _
  · rw [(effect_cancelResize hdrag).1]
    exact s.box_moved (hw drag hdrag).symm _

theorem drag_effect (h : e.passes s = false) (hne : e ≠ .cancelResize) {drag : Drag}
    (hd : drag ∈ s.drag) : drag ∈ (e.effect s).drag := by
  rcases effect_cases h with ⟨history, heq⟩ | ⟨w, edges, rfl, hnone⟩ |
    ⟨dx, dy, drag', rfl, hdrag, heq⟩ | ⟨drag', rfl, hdrag⟩
  · rw [heq]
    exact hd
  · rw [hnone] at hd
    simp at hd
  · rw [heq]
    exact hd
  · exact absurd rfl hne

theorem sound_effect (h : s.desktop.Sound) (e : Step) : (e.effect s).desktop.Sound := by
  cases e with
  | addWindow w output workspace => exact h.registerWindow w output workspace
  | removeWindow w =>
    simp only [effect]
    split
    · exact h.unregisterWindow w
    · exact h
  | minimize w =>
    simp only [effect]
    split
    · exact h
    · exact h.updateWindow w (f := fun v => { v with minimized := true }) fun _ => rfl
  | restore w =>
    simp only [effect]
    split
    · exact h.updateWindow w (f := fun v => { v with minimized := false }) fun _ => rfl
    · exact h
  | addOutput o => exact h.registerOutput o
  | removeOutput o =>
    simp only [effect]
    split
    · exact h.unregisterOutput o
    · exact h
  | switchWorkspace workspace =>
    simp only [effect]
    split
    · exact h
    · exact h.congr rfl rfl (fun _ _ => rfl) fun _ _ => rfl
  | startResize w edges =>
    simp only [effect]
    split <;> exact h
  | dragTo dx dy =>
    simp only [effect]
    split
    · exact h
    · split
      · exact h
      · exact (Service.rearranged_moved _ _ _).sound h
  | endResize =>
    simp only [effect]
    split <;> exact h
  | cancelResize =>
    simp only [effect]
    split
    · exact h
    · split <;> exact (s.rearranged_moved _ _).sound h
  | command text =>
    rw [effect, Service.desktop_commanded]
    exact h
  | publishCommand text =>
    rw [effect, Service.desktop_commanded]
    exact h
  | recalculate => exact h

end Step

/-! ## Runs -/

namespace Service

variable {s : Service} {steps : List Step}

/-- The service as a configuration starts it, with windows and outputs of which none is
registered. -/
def launched (config : Config) (windows : Roster WindowRef Window)
    (outputs : Roster OutputRef Output) : Service :=
  let s := ofConfig config
  { s with desktop := { s.desktop with windowStates := windows, outputStates := outputs } }

/-- The property holds in every state of the run. -/
def Always (P : Service → Prop) (s : Service) : List Step → Prop
  | [] => P s
  | e :: steps => P s ∧ (s.step e).Always P steps

/-- The property holds of every step of the run and the state in which it is taken. -/
def Each (Q : Service → Step → Prop) (s : Service) : List Step → Prop
  | [] => True
  | e :: steps => Q s e ∧ (s.step e).Each Q steps

instance decidableAlways (P : Service → Prop) [DecidablePred P] (s : Service) :
    (steps : List Step) → Decidable (s.Always P steps)
  | [] => inferInstanceAs (Decidable (P s))
  | e :: steps =>
    let _ := decidableAlways P (s.step e) steps
    inferInstanceAs (Decidable (P s ∧ (s.step e).Always P steps))

instance decidableEach (Q : Service → Step → Prop) [∀ s e, Decidable (Q s e)] (s : Service) :
    (steps : List Step) → Decidable (s.Each Q steps)
  | [] => .isTrue trivial
  | e :: steps =>
    let _ := decidableEach Q (s.step e) steps
    inferInstanceAs (Decidable (Q s e ∧ (s.step e).Each Q steps))

theorem Always.head {P : Service → Prop} (h : s.Always P steps) : P s := by
  cases steps with
  | nil => exact h
  | cons e steps => exact h.1

theorem each_of_forall {Q : Service → Step → Prop} (h : ∀ s e, Q s e) (s : Service)
    (steps : List Step) : s.Each Q steps := by
  induction steps generalizing s with
  | nil => trivial
  | cons e steps ih => exact ⟨h s e, ih (s.step e)⟩

/-! ## What holds in every run -/

/-- Nobody is subscribed, and the registry is sound. -/
structure Running (s : Service) : Prop where
  subscribers_eq : s.server.subscribers = []
  sound : s.desktop.Sound

theorem running_launched (config : Config) (windows : Roster WindowRef Window)
    (outputs : Roster OutputRef Output) : (launched config windows outputs).Running where
  subscribers_eq := rfl
  sound := by
    constructor <;> simp [launched, ofConfig, Roster.keys]

theorem Running.effect (h : s.Running) (e : Step) : (e.effect s).Running where
  subscribers_eq := by rw [(e.effect_frame s).2, h.subscribers_eq]
  sound := e.sound_effect h.sound

theorem Running.passed (h : s.Running) : s.passed.Running where
  subscribers_eq := h.subscribers_eq
  sound := s.rearranged_pass.sound h.sound

theorem Running.step (h : s.Running) (e : Step) : (s.step e).Running := by
  rw [step_eq h.subscribers_eq]
  split
  · exact (h.effect e).passed
  · exact h.effect e

/-! ## Properties of runs -/

section Properties

variable {Inv P : Service → Prop} {Q R : Service → Step → Prop}

/-- **What a run always has is told by its steps**: the invariant gives the property, a step keeps
the invariant if it is as it should be, and one that leads to a state with the property is. The
steps of the run may be known to have some property `R` besides. -/
theorem always_iff_each (holds : ∀ s, s.Running → Inv s → P s)
    (keeps : ∀ s e, s.Running → Inv s → R s e → Q s e → Inv (s.step e))
    (needs : ∀ s e, s.Running → Inv s → R s e → P (s.step e) → Q s e) (hs : s.Running)
    (hinv : Inv s) (hr : s.Each R steps) : s.Always P steps ↔ s.Each Q steps := by
  induction steps generalizing s with
  | nil => exact ⟨fun _ => trivial, fun _ => holds s hs hinv⟩
  | cons e steps ih =>
    obtain ⟨hre, hr⟩ := hr
    constructor
    · rintro ⟨-, hp⟩
      have hq := needs s e hs hinv hre hp.head
      exact ⟨hq, (ih (hs.step e) (keeps s e hs hinv hre hq) hr).1 hp⟩
    · rintro ⟨hq, hqs⟩
      exact ⟨holds s hs hinv, (ih (hs.step e) (keeps s e hs hinv hre hq) hr).2 hqs⟩

theorem always_of_step (keeps : ∀ s e, s.Running → Inv s → Inv (s.step e)) (hs : s.Running)
    (hinv : Inv s) : s.Always Inv steps := by
  induction steps generalizing s with
  | nil => exact hinv
  | cons e steps ih => exact ⟨hinv, ih (hs.step e) (keeps s e hs hinv)⟩

/-- What follows from an invariant for every step holds each time. -/
theorem each_of_always (h : ∀ s e, s.Running → Inv s → Q s e) (hs : s.Running)
    (hinv : s.Always Inv steps) : s.Each Q steps := by
  induction steps generalizing s with
  | nil => trivial
  | cons e steps ih => exact ⟨h s e hs hinv.1, ih (hs.step e) hinv.2⟩

end Properties

/-! ## Small services -/

/-- A service with one output and so many windows, none of which is decorated or registered. -/
def unoccupied (mode : TilingMode) (count : Nat) : Service :=
  launched { mode, gap := .number 10, useDecorations := .bool false }
    ((List.range count).map fun i => (⟨i⟩, { id := i, box := ⟨0, 0, 300, 200⟩ }))
    [(⟨0⟩, { area := ⟨0, 0, 1920, 1080⟩ })]

end Service

end WindowTiling
