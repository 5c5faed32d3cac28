import WindowTiling.Service.Drag
import WindowTiling.Service.Registry
import WindowTiling.Service.Request

/-!
# What a step of the service comes to

The service takes one *step* at a time: a window or an output comes or goes, a window is hidden or
shown, another workspace is visited, a resize is started, moved along, ended or cancelled, a command
is given, a pass is asked for. What a step does is spread over the action, the events that it makes
known and the reactions to them, some of which are actions again.

**Theorem (`step_eq`).** While no client is subscribed, a step is a plain change of the state
(`Step.effect`), followed by a pass or not (`Step.passes`). Every pass of the service comes last in
its step, and is made from the state that the plain change leads to, with the target and the mode as
they are then.

So a property that all runs have is shown of plain changes and of passes. None of the steps
subscribes a client.
-/

namespace WindowTiling

/-! ## Steps -/

/-- Something that the service is called upon to do. -/
inductive Step where
  | addWindow (window : WindowRef) (output : Option OutputRef) (workspace : Option Text)
  | removeWindow (window : WindowRef)
  | minimize (window : WindowRef)
  | restore (window : WindowRef)
  | addOutput (output : OutputRef)
  | removeOutput (output : OutputRef)
  | switchWorkspace (workspace : Text)
  | startResize (window : WindowRef) (edges : EdgeCode)
  | dragTo (dx dy : Int)
  | endResize
  | cancelResize
  /-- A command that is answered. -/
  | command (text : Text)
  /-- A command that is made known as an event. -/
  | publishCommand (text : Text)
  | recalculate
  deriving DecidableEq, Repr

/-- The action that a step is. -/
def Step.action : Step → Action Unit
  | addWindow w output workspace => Action.addWindow w output workspace
  | removeWindow w => Action.removeWindow w
  | minimize w => Action.minimize w
  | restore w => Action.restore w
  | addOutput o => Action.addOutput o
  | removeOutput o => Action.removeOutput o
  | switchWorkspace workspace => Action.switchWorkspace workspace
  | startResize w edges => do let _ ← Action.startResize w edges
  | dragTo dx dy => do let _ ← Action.dragTo dx dy
  | endResize => Action.endResize
  | cancelResize => Action.cancelResize
  | command text => do let _ ← Action.runCommand text
  | publishCommand text => Action.publish (.tilingCommand text)
  | recalculate => Action.publish .recalculate

/-- The state in which an action leaves the service, also if it fails. -/
def Action.after {α : Type} (action : Action α) (s : Service) : Service := (action.run s).2

namespace Service

/-- The state after a step. -/
def step (s : Service) (e : Step) : Service := e.action.after s

/-! ## Plain changes -/

/-- The state after an event has been noted. -/
def noted (s : Service) (e : Event) : Service :=
  { s with history := s.history ++ [.event e (e.line s.desktop)] }

/-- The state after a change of the desktop that is made known as an event. -/
def changed (s : Service) (f : Desktop → Desktop) (e : Event) : Service :=
  { s with desktop := f s.desktop }.noted e

/-- The state with a window as the target, in smart mode only. -/
def aimed (s : Service) (w : WindowRef) (geometry : Box) : Service :=
  { s with target := if s.mode = .smart then some ⟨w, geometry⟩ else s.target }

/-- The state without the target if it was this window. -/
def released (s : Service) (w : WindowRef) : Service :=
  { s with target := if s.target.map (·.window) = some w then none else s.target }

/-- The state after a window has been given a box, unless that is refused. -/
def moved (s : Service) (w : WindowRef) (box : Box) : Service :=
  { s with
    desktop := (s.desktop.moveResize w box).getD s.desktop
    history := if box.Nonneg ∧ (s.desktop.window w).box ≠ box then s.history ++ [.move ⟨w, box⟩]
      else s.history }

/-- The pass that is made in a state. -/
def pass (s : Service) : Desktop.Pass :=
  s.desktop.arrange s.config.decoration s.gap s.mode s.target

/-- The state after a pass. A pass that is stopped by a fault keeps the old target and is not made
known. -/
def passed (s : Service) : Service :=
  { s with
    desktop := s.pass.desktop
    target := if s.pass.fault.isSome then s.target else s.pass.target
    history :=
      if s.mode = .off then s.history
      else
        let history := s.history ++ s.pass.moves.map .move
        let e := Event.layoutApplied s.status
        if s.pass.fault.isSome then history else history ++ [.event e (e.line s.pass.desktop)] }

end Service

namespace Command

/-- What a command changes itself. -/
def effect (s : Service) : Command → Service
  | status | recalculate => s
  | tiling switch =>
    if switch.apply s.enabled = s.enabled then s
    else
      let s' := { s with enabled := switch.apply s.enabled }
      s'.noted (.modeChanged s'.status)
  | gridMode switch =>
    if switch.apply s.grid = s.grid then s
    else
      let grid := switch.apply s.grid
      let s' := { s with grid, target := if grid then none else s.target }
      s'.noted (.modeChanged s'.status)

/-- A command is followed by a pass. -/
def passes (s : Service) : Command → Bool
  | status => false
  | recalculate => true
  | tiling switch => switch.apply s.enabled ≠ s.enabled
  | gridMode switch => switch.apply s.grid ≠ s.grid

end Command

/-- What a command that is given as a text changes itself. -/
def Service.commanded (s : Service) (text : Text) : Service :=
  match Command.parse text with
  | .error _ => s
  | .ok c => c.effect s

namespace Step

/-- What a step changes itself. -/
def effect (s : Service) : Step → Service
  | addWindow w output workspace =>
    s.changed (fun d => d.registerWindow w output workspace) (.windowCreated w)
  | removeWindow w =>
    if s.desktop.hasWindow w then
      (s.changed (fun d => d.unregisterWindow w) (.windowClosed w)).released w
    else s
  | minimize w =>
    if (s.desktop.window w).minimized then s
    else
      s.changed (fun d => d.updateWindow w fun v => { v with minimized := true })
        (.windowMinimized w)
  | restore w =>
    if (s.desktop.window w).minimized then
      s.changed (fun d => d.updateWindow w fun v => { v with minimized := false })
        (.windowRestored w)
    else s
  | addOutput o => s.changed (fun d => d.registerOutput o) (.outputCreated o)
  | removeOutput o =>
    if s.desktop.hasOutput o then s.changed (fun d => d.unregisterOutput o) (.outputRemoved o)
    else s
  | switchWorkspace workspace =>
    if workspace = s.desktop.workspace then s
    else
      s.changed (fun d => { d with workspace }) (.workspaceSwitched workspace s.desktop.workspace)
  | startResize w edges =>
    if s.drag.isSome then s
    else
      let box := (s.desktop.window w).box
      ({ s with drag := some ⟨w, box, edges⟩ }.noted (.resizeStarted w box)).aimed w box
  | dragTo dx dy =>
    match s.drag with
    | none => s
    | some drag =>
      if drag.edges.IsEmpty then s
      else s.moved drag.window (dragBox drag.start drag.edges.sides dx dy)
  | endResize =>
    match s.drag with
    | none => s
    | some drag =>
      let box := (s.desktop.window drag.window).box
      ({ s with drag := none }.noted (.resizeEnded drag.window box)).aimed drag.window box
  | cancelResize =>
    match s.drag with
    | none => s
    | some drag =>
      let s' := { s with drag := none }.moved drag.window drag.start
      if drag.start.Nonneg then
        (s'.noted (.resizeCancelled drag.window drag.start)).released drag.window
      else s'
  | command text => s.commanded text
  | publishCommand text => (s.noted (.tilingCommand text)).commanded text
  | recalculate => s.noted .recalculate

/-- A step is followed by a pass. -/
def passes (s : Service) : Step → Bool
  | addWindow .. | addOutput _ | recalculate => true
  | removeWindow w => s.desktop.hasWindow w
  | minimize w => !(s.desktop.window w).minimized
  | restore w => (s.desktop.window w).minimized
  | removeOutput o => s.desktop.hasOutput o
  | switchWorkspace workspace => workspace ≠ s.desktop.workspace
  | startResize .. | dragTo .. | cancelResize => false
  | endResize => s.drag.isSome
  | command text | publishCommand text =>
    match Command.parse text with
    | .error _ => false
    | .ok c => c.passes s

end Step

/-! ## What plain changes leave alone -/

theorem Service.commanded_eq_self {s : Service} {text : Text}
    (h : Step.passes s (.command text) = false) : s.commanded text = s := by
  revert h
  rw [Step.passes, commanded]
  rcases Command.parse text with _ | (_ | _ | switch | switch) <;> intro h
  · rfl
  · rfl
  · rfl
  · exact if_pos (by simpa [Command.passes] using h)
  · exact if_pos (by simpa [Command.passes] using h)

/-- **What a command can do**: it turns tiling on or off at most, or it switches grid mode, and with
grid mode on there is no target. -/
theorem Service.commanded_cases (s : Service) (text : Text) :
    (∃ enabled history, s.commanded text = { s with enabled, history }) ∨
      ∃ grid history, s.commanded text =
        { s with grid, target := if grid then none else s.target, history } := by
  unfold commanded
  rcases Command.parse text with _ | (_ | _ | switch | switch)
  · exact .inl ⟨_, _, rfl⟩
  · exact .inl ⟨_, _, rfl⟩
  · exact .inl ⟨_, _, rfl⟩
  · dsimp only [Command.effect]
    split <;> exact .inl ⟨_, _, rfl⟩
  · dsimp only [Command.effect]
    split
    · exact .inl ⟨_, _, rfl⟩
    · exact .inr ⟨_, _, rfl⟩

/-- A command leaves alone all but the mode, the target and the history. -/
theorem Service.commanded_frame (s : Service) (text : Text) : s.commanded text =
    { s with
      enabled := (s.commanded text).enabled
      grid := (s.commanded text).grid
      target := (s.commanded text).target
      history := (s.commanded text).history } := by
  rcases s.commanded_cases text with ⟨enabled, history, heq⟩ | ⟨grid, history, heq⟩ <;> rw [heq]

namespace Service

@[simp] theorem config_commanded (s : Service) (text : Text) :
    (s.commanded text).config = s.config := by rw [commanded_frame]

@[simp] theorem desktop_commanded (s : Service) (text : Text) :
    (s.commanded text).desktop = s.desktop := by rw [commanded_frame]

@[simp] theorem server_commanded (s : Service) (text : Text) :
    (s.commanded text).server = s.server := by rw [commanded_frame]

end Service

/-! ## Actions one after the other -/

namespace Action

open Service

section Keeps

variable {α β γ : Type} {action : Action α} {next : α → Action β} {part : Service → γ}

/-- The action, whether it fails or not, leaves this part of the state as it is. -/
def Keeps (action : Action α) (part : Service → γ) : Prop :=
  ∀ s, part (action.after s) = part s

/-- What comes after an action does not matter for a part of the state that it keeps. -/
theorem part_after_bind (h : ∀ a, (next a).Keeps part) (s : Service) :
    part ((action >>= next).after s) = part (action.after s) := by
  rw [after, after, run_bind]
  rcases action.run s with ⟨_ | a, s'⟩
  · rfl
  · exact h a s'

theorem Keeps.bind (h : action.Keeps part) (hnext : ∀ a, (next a).Keeps part) :
    (action >>= next).Keeps part :=
  fun s => (part_after_bind hnext s).trans (h s)

theorem keeps_pure (a : α) : (pure a : Action α).Keeps part := fun _ => rfl

theorem keeps_throw (e : ServiceError) : (throw e : Action α).Keeps part := fun _ => rfl

theorem keeps_get : (get : Action Service).Keeps part := fun _ => rfl

theorem keeps_modify {f : Service → Service} (h : ∀ s, part (f s) = part s) :
    (modify f : Action Unit).Keeps part := h

theorem keeps_mapM {f : α → Action β} (h : ∀ a, (f a).Keeps part) (l : List α) :
    (l.mapM f).Keeps part := by
  induction l with
  | nil => exact keeps_pure []
  | cons a l ih =>
    rw [List.mapM_cons]
    exact (h a).bind fun b => ih.bind fun bs => keeps_pure (b :: bs)

/-- Telling clients of an event changes what the server has of them at most. -/
theorem keeps_tellClients (h : ∀ s server, part { s with server } = part s) (e : Event) :
    (tellClients e).Keeps part := by
  refine keeps_get.bind fun s => ?_
  cases e.news s.desktop with
  | none => exact keeps_pure ()
  | some news =>
    refine Keeps.bind (keeps_modify fun s => h s _) fun _ => ?_
    split
    · exact keeps_throw _
    · exact keeps_pure ()

theorem keeps_recalculate
    (hmoves : ∀ (s : Service) (desktop : Desktop) (moves : List Placement),
      part { s with desktop, history := s.history ++ moves.map .move } = part s)
    (htarget : ∀ (s : Service) (target : Option Target), part { s with target } = part s)
    (hannounce : ∀ status, (announce (.layoutApplied status)).Keeps part) :
    recalculate.Keeps part := by
  refine keeps_get.bind fun s => ?_
  split
  · refine Keeps.bind (keeps_modify fun s' => hmoves s' _ _) fun _ => ?_
    split
    · exact keeps_throw _
    · exact Keeps.bind (keeps_modify fun s' => htarget s' _) fun _ => hannounce _
  · exact keeps_pure ()

end Keeps

section Bind

variable {α β : Type} {action : Action α} {next : α → Action β} {s s' : Service}

@[simp] theorem after_pure (a : α) (s : Service) : (pure a : Action α).after s = s := rfl

theorem after_bind {a : α} (h : action.run s = (.ok a, s')) :
    (action >>= next).after s = (next a).after s' := by
  rw [after, run_bind, h]
  rfl

theorem after_bind_of_error {e : ServiceError} (h : action.run s = (.error e, s')) :
    (action >>= next).after s = s' := by
  rw [after, run_bind, h]

theorem after_bind_of_forall (h : ∀ a s, (next a).after s = s) :
    (action >>= next).after s = action.after s := by
  have hkeeps : ∀ a, (next a).Keeps id := h
  exact part_after_bind hkeeps s

theorem after_ite (c : Prop) [Decidable c] (a b : Action α) (s : Service) :
    (if c then a else b).after s = if c then a.after s else b.after s := by
  split <;> rfl

end Bind

variable {s : Service}

/-! ## Events -/

theorem run_noteEvent (s : Service) (e : Event) : (noteEvent e).run s = (.ok (), s.noted e) := rfl

theorem run_tellClients_of_none {e : Event} (h : e.news s.desktop = none) :
    (tellClients e).run s = (.ok (), s) := by
  rw [tellClients, run_bind, run_get]
  dsimp only
  rw [h]
  rfl

theorem run_tellClients (h : s.server.subscribers = []) (e : Event) :
    (tellClients e).run s = (.ok (), s) := by
  cases hnews : e.news s.desktop with
  | none => exact run_tellClients_of_none hnews
  | some news =>
    obtain ⟨channel, content⟩ := news
    have hnobody : s.server.broadcast channel content.payload = (s.server, true) := by
      simp only [Server.broadcast, h]
      rfl
    rw [tellClients, run_bind, run_get]
    dsimp only
    rw [hnews]
    dsimp only
    rw [hnobody]
    rfl

theorem run_announce (h : s.server.subscribers = []) (e : Event) :
    (announce e).run s = (.ok (), s.noted e) := by
  rw [announce, run_bind, run_noteEvent]
  show (tellClients e).run (s.noted e) = _
  exact run_tellClients (s := s.noted e) h e

theorem after_publish {e : Event} {s' : Service} (h : (react e).after (s.noted e) = s')
    (hs : s'.server.subscribers = []) : (publish e).after s = s' := by
  rw [publish, after_bind (run_noteEvent s e)]
  rcases hr : (react e).run (s.noted e) with ⟨_ | _, s''⟩ <;> rw [after, hr] at h <;> subst h
  · exact after_bind_of_error hr
  · rw [after_bind hr, after, run_tellClients hs]

/-! ## Passes -/

theorem after_recalculate (h : s.server.subscribers = []) : recalculate.after s = s.passed := by
  rw [recalculate, after_bind (run_get s), after_ite, passed]
  by_cases hoff : s.mode = .off
  · have hpass : s.pass = { desktop := s.desktop, target := s.target } := by
      rw [Service.pass, hoff, Desktop.arrange_off]
    rw [if_neg (not_not_intro hoff), if_pos hoff, hpass]
    rfl
  · rw [if_pos hoff, if_neg hoff, after_bind (run_modify _ s)]
    dsimp only
    rw [← Service.pass]
    cases s.pass.fault with
    | some fault => rfl
    | none =>
      dsimp only
      rw [after_bind (run_modify _ _), after, run_announce (by exact h)]
      rfl

/-! ## Commands -/

theorem after_modeChanged (h : s.server.subscribers = []) :
    modeChanged.after s = (s.noted (.modeChanged s.status)).passed := by
  rw [modeChanged, after_bind (run_get s), after_bind (run_announce h _)]
  exact after_recalculate (s := s.noted _) h

theorem after_execute (h : s.server.subscribers = []) (c : Command) :
    (execute c).after s = if c.passes s then (c.effect s).passed else c.effect s := by
  cases c with
  | status => rfl
  | recalculate => exact after_recalculate h
  | tiling switch =>
    rw [execute, after_bind (run_get s), setEnabled, after_bind (run_get s), after_ite]
    by_cases hs : switch.apply s.enabled = s.enabled
    · simp [Command.passes, Command.effect, hs]
    · rw [if_pos hs, after_bind (run_modify _ s), after_modeChanged (by exact h)]
      simp [Command.passes, Command.effect, hs]
  | gridMode switch =>
    rw [execute, after_bind (run_get s), setGrid, after_bind (run_get s), after_ite]
    by_cases hs : switch.apply s.grid = s.grid
    · simp [Command.passes, Command.effect, hs]
    · rw [if_pos hs, after_bind (run_modify _ s), after_modeChanged (by exact h)]
      simp [Command.passes, Command.effect, hs]

/-! ## The registry -/

theorem run_changeDesktop (f : Desktop → Desktop) (s : Service) :
    (changeDesktop f).run s = (.ok (), { s with desktop := f s.desktop }) := rfl

theorem after_change (h : s.server.subscribers = []) {e : Event} (he : react e = recalculate)
    (f : Desktop → Desktop) :
    (do changeDesktop f; publish e : Action Unit).after s = (s.changed f e).passed := by
  rw [after_bind (run_changeDesktop f s)]
  refine after_publish ?_ h
  rw [he]
  exact after_recalculate (s := s.changed f e) h

theorem after_change_if (h : s.server.subscribers = []) {e : Event} (he : react e = recalculate)
    (f : Desktop → Desktop) (c : Prop) [Decidable c] :
    (if c then (do changeDesktop f; publish e) else pure () : Action Unit).after s =
      if c then (s.changed f e).passed else s := by
  rw [after_ite, after_change h he, after_pure]

theorem run_release (w : WindowRef) (s : Service) :
    (release w).run s = (.ok (), s.released w) := by
  rw [release, run_modify, released]
  split <;> rfl

theorem run_aim (w : WindowRef) (geometry : Box) (s : Service) :
    (aim w geometry).run s = (.ok (), s.aimed w geometry) := by
  rw [aim, run_modify, aimed]
  split <;> rfl

theorem after_removeWindow (h : s.server.subscribers = []) (w : WindowRef) :
    (removeWindow w).after s =
      if s.desktop.hasWindow w then
        ((s.changed (fun d => d.unregisterWindow w) (.windowClosed w)).released w).passed
      else s := by
  rw [removeWindow, after_bind (run_get s), after_ite]
  split
  · rw [after_bind (run_changeDesktop _ s)]
    refine after_publish ?_ (by exact h)
    rw [react, after_bind (run_release w _), after_recalculate (by exact h)]
    rfl
  · rfl

/-! ## Resizes -/

/-- A box is given to a window, unless it has a negative size. -/
theorem run_moveResize (w : WindowRef) (box : Box) (s : Service) :
    (moveResize w box).run s = (if box.Nonneg then .ok ()
      else .error (.fault (.negativeSize (s.desktop.window w) box)), s.moved w box) := by
  rw [moveResize, run_bind, run_get]
  dsimp only
  by_cases hn : box.Nonneg
  · simp only [Desktop.moveResize, moved, hn, if_true]
    rw [run_bind, run_modify]
    dsimp only
    by_cases hb : (s.desktop.window w).box = box
    · simp [hb]
    · simp [hb]
      rfl
  · simp only [Desktop.moveResize, moved, hn, if_false]
    rfl

theorem after_startResize (h : s.server.subscribers = []) (w : WindowRef) (edges : EdgeCode) :
    (startResize w edges).after s = Step.effect s (.startResize w edges) := by
  rw [startResize, after_bind (run_get s), Step.effect]
  dsimp only
  rw [after_ite]
  split
  · rfl
  · rw [after_bind (run_modify _ s), after_bind_of_forall fun _ _ => rfl]
    refine after_publish ?_ (by exact h)
    rw [react, after, run_aim]

theorem after_dragTo (dx dy : Int) (s : Service) :
    (dragTo dx dy).after s = Step.effect s (.dragTo dx dy) := by
  rw [dragTo, after_bind (run_get s), Step.effect]
  cases s.drag with
  | none => rfl
  | some drag =>
    dsimp only
    rw [after_ite]
    split
    · rfl
    · rw [after_bind_of_forall fun _ _ => rfl, after, run_moveResize]

theorem after_endResize (h : s.server.subscribers = []) :
    endResize.after s =
      if s.drag.isSome then (Step.effect s .endResize).passed else Step.effect s .endResize := by
  rw [endResize, after_bind (run_get s), Step.effect]
  cases s.drag with
  | none => rfl
  | some drag =>
    dsimp only
    rw [after_bind (run_modify _ s), after_bind (run_get _), if_pos (by rfl)]
    refine after_publish ?_ (by exact h)
    rw [react, after_bind (run_aim _ _ _), after_recalculate (by exact h)]

theorem after_cancelResize (h : s.server.subscribers = []) :
    cancelResize.after s = Step.effect s .cancelResize := by
  rw [cancelResize, after_bind (run_get s), Step.effect]
  cases s.drag with
  | none => rfl
  | some drag =>
    dsimp only
    rw [after_bind (run_modify _ s)]
    have hmove := run_moveResize drag.window drag.start { s with drag := none }
    split <;> rename_i hn
    · rw [if_pos hn] at hmove
      rw [after_bind hmove]
      refine after_publish ?_ (by exact h)
      rw [react, after, run_release]
    · rw [if_neg hn] at hmove
      exact after_bind_of_error hmove

/-! ## The step -/

theorem after_runCommand (h : s.server.subscribers = []) (text : Text) :
    (runCommand text).after s =
      match Command.parse text with
      | .error _ => s
      | .ok c => if c.passes s then (c.effect s).passed else c.effect s := by
  rw [runCommand]
  cases Command.parse text with
  | error e => rfl
  | ok c =>
    dsimp only
    rw [after_bind_of_forall fun _ _ => rfl, after_execute h]

end Action

namespace Service

/-- **What a step comes to**: a plain change, and then a pass or none. -/
theorem step_eq {s : Service} (h : s.server.subscribers = []) (e : Step) :
    s.step e = if e.passes s then (e.effect s).passed else e.effect s := by
  rw [step]
  -- With nobody subscribed nothing is sent, so each action is a change and then a pass or none. The
  -- condition of the step decides which, on both sides.
  cases e with
  | addWindow w output workspace => exact Action.after_change h rfl _
  | removeWindow w =>
    rw [Step.action, Action.after_removeWindow h, Step.passes, Step.effect]
    split <;> rfl
  | minimize w =>
    rw [Step.action, Action.minimize, Action.after_bind (Action.run_get s),
      Action.after_change_if h rfl, Step.passes, Step.effect]
    by_cases hm : (s.desktop.window w).minimized = true <;> simp [hm]
  | restore w =>
    rw [Step.action, Action.restore, Action.after_bind (Action.run_get s),
      Action.after_change_if h rfl, Step.passes, Step.effect]
    split <;> rfl
  | addOutput o => exact Action.after_change h rfl _
  | removeOutput o =>
    rw [Step.action, Action.removeOutput, Action.after_bind (Action.run_get s),
      Action.after_change_if h rfl, Step.passes, Step.effect]
    split <;> rfl
  | switchWorkspace workspace =>
    rw [Step.action, Action.switchWorkspace, Action.after_bind (Action.run_get s)]
    dsimp only
    rw [Action.after_change_if h rfl, Step.passes, Step.effect]
    by_cases hw : workspace = s.desktop.workspace <;> simp [hw]
  | startResize w edges =>
    exact (Action.after_bind_of_forall fun _ _ => rfl).trans (Action.after_startResize h w edges)
  | dragTo dx dy =>
    exact (Action.after_bind_of_forall fun _ _ => rfl).trans (Action.after_dragTo dx dy s)
  | endResize => exact Action.after_endResize h
  | cancelResize => exact Action.after_cancelResize h
  | command text =>
    rw [Step.action, Action.after_bind_of_forall fun _ _ => rfl, Action.after_runCommand h,
      Step.passes, Step.effect, commanded]
    cases Command.parse text <;> rfl
  | publishCommand text =>
    refine Action.after_publish ?_ ?_
    · rw [Action.react, Step.passes, Step.effect, commanded]
      cases Command.parse text with
      | error e => rfl
      | ok c =>
        have hpasses : c.passes (s.noted (.tilingCommand text)) = c.passes s := by cases c <;> rfl
        dsimp only
        rw [Action.after_execute (by exact h), hpasses]
    · rw [Step.effect, commanded_frame]
      cases Step.passes s (.publishCommand text) <;> exact h
  | recalculate =>
    refine Action.after_publish ?_ (by exact h)
    exact Action.after_recalculate (s := s.noted _) h

variable {s : Service} {e : Step}

theorem step_of_passes (h : s.server.subscribers = []) (hp : e.passes s = true) :
    s.step e = (e.effect s).passed := by
  rw [step_eq h, if_pos hp]

theorem step_of_not_passes (h : s.server.subscribers = []) (hp : e.passes s = false) :
    s.step e = e.effect s := by
  rw [step_eq h, if_neg (by rw [hp]; exact Bool.false_ne_true)]

end Service

end WindowTiling
