import WindowTiling.Proofs.Runs

/-!
# What clients are told

The service tells its clients of some events, and otherwise goes about its work without looking at
who is connected. So what an action *comes to* can be said beforehand: its result, the state that it
leaves, the server apart, and the news that it sends. This holds for every server whose
subscriptions were made over connections; one that was not would keep news from going beyond it.

**Theorem (`step_withServer`).** A step comes to a plain change followed by a pass or not, as it
does while nobody is subscribed (`step_eq`), and its news (`Step.told`) has been relayed to the
subscribers.

One rule for each way of putting actions together carries this from the events on to the steps.
-/

namespace WindowTiling

/-- A channel and what is sent on it. -/
abbrev News := Channel × Json

namespace Server

/-! ## News -/

/-- All subscriptions were made over connections. -/
def Connected (s : Server) : Prop := none ∉ s.subscribers.keys

instance : DecidablePred Connected := fun s =>
  inferInstanceAs (Decidable (none ∉ s.subscribers.keys))

/-- The server after news has been sent to the subscribers. -/
def relay (s : Server) (news : List News) : Server :=
  news.foldl (fun s n => (s.broadcast n.1 n.2.payload).1) s

@[simp] theorem relay_nil (s : Server) : s.relay [] = s := rfl

@[simp] theorem relay_cons (s : Server) (n : News) (news : List News) :
    s.relay (n :: news) = (s.broadcast n.1 n.2.payload).1.relay news := rfl

theorem relay_append (s : Server) (news more : List News) :
    s.relay (news ++ more) = (s.relay news).relay more := List.foldl_append ..

variable {s : Server}

/-! Whoever is dropped is no longer subscribed, and nobody subscribes by being told. -/

theorem keys_drop_sublist (s : Server) (c : ConnectionRef) :
    (s.drop c).subscribers.keys.Sublist s.subscribers.keys :=
  (Roster.erase_sublist s.subscribers (some c)).map _

theorem keys_send_sublist (s : Server) (c : ConnectionRef) (f : Frame) :
    (s.send c f).subscribers.keys.Sublist s.subscribers.keys := by
  rw [Server.send]
  dsimp only
  split
  · exact List.Sublist.refl _
  · exact keys_drop_sublist (s.updateConnection c _) c

theorem keys_sendAll_sublist (s : Server) (f : Frame) (l : List (Option ConnectionRef)) :
    (s.sendAll f l).1.subscribers.keys.Sublist s.subscribers.keys := by
  induction l generalizing s with
  | nil => exact List.Sublist.refl _
  | cons c l ih =>
    cases c with
    | none => exact List.Sublist.refl _
    | some c => exact (ih _).trans (s.keys_send_sublist c f)

theorem keys_relay_sublist (s : Server) (news : List News) :
    (s.relay news).subscribers.keys.Sublist s.subscribers.keys := by
  induction news generalizing s with
  | nil => exact List.Sublist.refl _
  | cons n news ih => exact (ih _).trans (s.keys_sendAll_sublist _ _)

theorem Connected.drop (h : s.Connected) (c : ConnectionRef) : (s.drop c).Connected :=
  fun hmem => h ((s.keys_drop_sublist c).subset hmem)

theorem Connected.relay (h : s.Connected) (news : List News) : (s.relay news).Connected :=
  fun hmem => h ((s.keys_relay_sublist news).subset hmem)

theorem Connected.broadcast_complete (h : s.Connected) (channel : Channel) (payload : List UInt8) :
    (s.broadcast channel payload).2 = true := by
  rw [Server.broadcast, sendAll_complete_iff]
  exact fun hmem => h ((List.filter_sublist.map _).subset hmem)

end Server

/-! ## What actions come to -/

/-- The state with another server. -/
def Service.withServer (s : Service) (server : Server) : Service := { s with server }

@[simp] theorem Service.server_withServer (s : Service) (server : Server) :
    (s.withServer server).server = server := rfl

/-- The action has this result and leaves the service in this state, its news sent, whoever is
connected. -/
def Action.ComesTo {α : Type} (action : Action α) (s : Service) (result : Except ServiceError α)
    (s' : Service) (news : List News) : Prop :=
  ∀ server : Server, server.Connected →
    action.run (s.withServer server) = (result, s'.withServer (server.relay news))

namespace Action

open Service

section Rules

variable {α β : Type} {action : Action α} {next : α → Action β} {s s' s'' : Service}
  {news more : List News}

theorem comesTo_pure (a : α) (s : Service) : (pure a : Action α).ComesTo s (.ok a) s [] :=
  fun _ _ => rfl

theorem comesTo_throw (e : ServiceError) (s : Service) :
    (throw e : Action α).ComesTo s (.error e) s [] :=
  fun _ _ => rfl

theorem comesTo_modify {f : Service → Service}
    (h : ∀ server, f (s.withServer server) = (f s).withServer server) :
    (modify f : Action Unit).ComesTo s (.ok ()) (f s) [] :=
  fun server _ => by rw [run_modify, h, Server.relay_nil]

theorem ComesTo.bind {a : α} {r : Except ServiceError β} (h : action.ComesTo s (.ok a) s' news)
    (hnext : (next a).ComesTo s' r s'' more) :
    (action >>= next).ComesTo s r s'' (news ++ more) := by
  intro server hserver
  rw [run_bind, h server hserver, Server.relay_append]
  exact hnext _ (hserver.relay news)

theorem comesTo_modify_bind {f : Service → Service} {next : Unit → Action β}
    {r : Except ServiceError β} (hf : ∀ server, f (s.withServer server) = (f s).withServer server)
    (hnext : (next ()).ComesTo (f s) r s' news) : (modify f >>= next).ComesTo s r s' news :=
  (comesTo_modify hf).bind hnext

theorem ComesTo.bind_error {e : ServiceError} (h : action.ComesTo s (.error e) s' news) :
    (action >>= next).ComesTo s (.error e) s' news := by
  intro server hserver
  rw [run_bind, h server hserver]

/-- What is done with the state does not depend on the server. -/
theorem comesTo_get {next : Service → Action β} {r : Except ServiceError β}
    (h : ∀ server, next (s.withServer server) = next s) (hnext : (next s).ComesTo s r s' news) :
    (get >>= next).ComesTo s r s' news := by
  intro server hserver
  rw [run_bind, run_get]
  dsimp only
  rw [h]
  exact hnext server hserver

end Rules

variable {s s' : Service}

/-! ## Events -/

theorem comesTo_noteEvent (s : Service) (e : Event) :
    (noteEvent e).ComesTo s (.ok ()) (s.noted e) [] := fun _ _ => rfl

theorem comesTo_tellClients (s : Service) (e : Event) :
    (tellClients e).ComesTo s (.ok ()) s (e.news s.desktop).toList := by
  intro server hserver
  rw [tellClients, run_bind, run_get]
  dsimp only
  have hnews : e.news (s.withServer server).desktop = e.news s.desktop := rfl
  rw [hnews]
  cases e.news s.desktop with
  | none => rfl
  | some n =>
    obtain ⟨channel, content⟩ := n
    have hcomplete : ((s.withServer server).server.broadcast channel content.payload).2 = true :=
      hserver.broadcast_complete channel content.payload
    dsimp only
    rw [hcomplete]
    rfl

theorem comesTo_announce (s : Service) (e : Event) :
    (announce e).ComesTo s (.ok ()) (s.noted e) (e.news s.desktop).toList :=
  (comesTo_noteEvent s e).bind (comesTo_tellClients (s.noted e) e)

/-- The clients are told last, and not at all if the reaction fails. -/
theorem comesTo_publish {e : Event} {news : List News}
    (h : (react e).ComesTo (s.noted e) (.ok ()) s' news) :
    (publish e).ComesTo s (.ok ()) s' (news ++ (e.news s'.desktop).toList) :=
  (comesTo_noteEvent s e).bind (h.bind (comesTo_tellClients s' e))

theorem comesTo_publish_error {e : Event} {x : ServiceError} {news : List News}
    (h : (react e).ComesTo (s.noted e) (.error x) s' news) :
    (publish e).ComesTo s (.error x) s' news :=
  (comesTo_noteEvent s e).bind h.bind_error

end Action

/-! ## Passes -/

namespace Service

/-- A pass fails with its fault. -/
def passResult (s : Service) : Except ServiceError Unit :=
  match s.pass.fault with
  | some fault => .error (.fault fault)
  | none => .ok ()

theorem pass_of_off {s : Service} (h : s.mode = .off) :
    s.pass = { desktop := s.desktop, target := s.target } := by
  rw [pass, h, Desktop.arrange_off]

/-- A pass leaves the news of an event as it was. -/
theorem news_passed (s : Service) (e : Event) : e.news s.passed.desktop = e.news s.desktop := by
  have hout (o : OutputRef) : s.passed.desktop.output o = s.desktop.output o :=
    s.rearranged_pass.output_eq o
  cases e <;> simp only [Event.news, hout]

end Service

namespace Action

open Service

theorem comesTo_recalculate (s : Service) :
    recalculate.ComesTo s s.passResult s.passed [] := by
  refine comesTo_get (fun _ => rfl) ?_
  rw [passed, passResult]
  by_cases hoff : s.mode = .off
  · rw [if_neg (not_not_intro hoff), if_pos hoff, pass_of_off hoff]
    exact comesTo_pure () s
  · rw [if_pos hoff, if_neg hoff]
    dsimp only
    rw [← Service.pass]
    refine comesTo_modify_bind (fun _ => rfl) ?_
    cases s.pass.fault with
    | some fault => exact comesTo_throw _ _
    | none =>
      exact comesTo_modify_bind (fun _ => rfl) (comesTo_announce _ _)

end Action

/-! ## Commands -/

namespace Command

/-- The state after a command. -/
def outcome (s : Service) (c : Command) : Service :=
  if c.passes s then (c.effect s).passed else c.effect s

/-- A command fails if the pass after it does. -/
def result (s : Service) (c : Command) : Except ServiceError Unit :=
  if c.passes s then (c.effect s).passResult else .ok ()

/-- A command tells of the mode, if it changes it, before the pass is made. -/
def told (s : Service) : Command → List News
  | status | recalculate => []
  | tiling switch =>
    if switch.apply s.enabled = s.enabled then []
    else
      let s' := { s with enabled := switch.apply s.enabled }
      ((Event.modeChanged s'.status).news s.desktop).toList
  | gridMode switch =>
    if switch.apply s.grid = s.grid then []
    else
      let s' := { s with grid := switch.apply s.grid }
      ((Event.modeChanged s'.status).news s.desktop).toList

end Command

namespace Action

open Service

theorem comesTo_modeChanged (s : Service) :
    modeChanged.ComesTo s (s.noted (.modeChanged s.status)).passResult
      (s.noted (.modeChanged s.status)).passed
      ((Event.modeChanged s.status).news s.desktop).toList := by
  refine comesTo_get (fun _ => rfl) ?_
  rw [← List.append_nil (Option.toList _)]
  exact (comesTo_announce s _).bind (comesTo_recalculate _)

theorem comesTo_execute (s : Service) (c : Command) :
    (execute c).ComesTo s (c.result s) (c.outcome s) (c.told s) := by
  cases c with
  | status => exact comesTo_pure () s
  | recalculate => exact comesTo_recalculate s
  | tiling switch =>
    refine comesTo_get (fun _ => rfl) (comesTo_get (fun _ => rfl) ?_)
    by_cases hs : switch.apply s.enabled = s.enabled
    · simp only [Command.result, Command.outcome, Command.told, Command.passes, Command.effect, hs,
        ne_eq, not_true, decide_false, if_true, if_false, Bool.false_eq_true]
      exact comesTo_pure () s
    · simp only [Command.result, Command.outcome, Command.told, Command.passes, Command.effect, hs,
        ne_eq, not_false_eq_true, decide_true, if_true, if_false]
      exact comesTo_modify_bind (fun _ => rfl) (comesTo_modeChanged _)
  | gridMode switch =>
    refine comesTo_get (fun _ => rfl) (comesTo_get (fun _ => rfl) ?_)
    by_cases hs : switch.apply s.grid = s.grid
    · simp only [Command.result, Command.outcome, Command.told, Command.passes, Command.effect, hs,
        ne_eq, not_true, decide_false, if_true, if_false, Bool.false_eq_true]
      exact comesTo_pure () s
    · simp only [Command.result, Command.outcome, Command.told, Command.passes, Command.effect, hs,
        ne_eq, not_false_eq_true, decide_true, if_true, if_false]
      exact comesTo_modify_bind (fun _ => rfl) (comesTo_modeChanged _)

theorem comesTo_runCommand {text : Text} {c : Command} (h : Command.parse text = .ok c)
    (s : Service) : (runCommand text).ComesTo s ((c.result s).map fun _ => (c.outcome s).status)
      (c.outcome s) (c.told s) := by
  rw [runCommand, h]
  dsimp only
  have hc := comesTo_execute s c
  cases hr : c.result s with
  | error e =>
    rw [hr] at hc
    exact hc.bind_error
  | ok _ =>
    rw [hr] at hc
    rw [← List.append_nil (c.told s)]
    exact hc.bind (comesTo_get (fun _ => rfl) (comesTo_pure _ _))

theorem comesTo_runCommand_error {text : Text} {x : CommandError}
    (h : Command.parse text = .error x) (s : Service) :
    (runCommand text).ComesTo s (.error (.command x)) s [] := by
  rw [runCommand, h]
  exact comesTo_throw _ s

end Action

/-! ## Steps -/

/-- The news of an event that is followed by a pass: none if a fault stops the pass. -/
def Service.newsOfPass (s : Service) (e : Event) : List News :=
  if s.pass.fault.isSome then [] else (e.news s.desktop).toList

/-- The news of a command that is given as a text. -/
def Service.toldByCommand (s : Service) (text : Text) : List News :=
  match Command.parse text with
  | .error _ => []
  | .ok c => c.told s

namespace Step

/-- The state after a step. -/
def outcome (s : Service) (e : Step) : Service :=
  if e.passes s then (e.effect s).passed else e.effect s

/-- The news of a step. -/
def told (s : Service) : Step → List News
  | addOutput o => (effect s (addOutput o)).newsOfPass (.outputCreated o)
  | removeOutput o =>
    if s.desktop.hasOutput o then (effect s (removeOutput o)).newsOfPass (.outputRemoved o) else []
  | switchWorkspace workspace =>
    if workspace = s.desktop.workspace then []
    else
      (effect s (switchWorkspace workspace)).newsOfPass
        (.workspaceSwitched workspace s.desktop.workspace)
  | command text | publishCommand text => s.toldByCommand text
  | addWindow .. | removeWindow _ | minimize _ | restore _ | startResize .. | dragTo .. | endResize
  | cancelResize | recalculate => []

end Step

theorem Step.told_withServer (s : Service) (server : Server) (e : Step) :
    e.told (s.withServer server) = e.told s := by
  cases e with
  | removeOutput o =>
    by_cases ho : s.desktop.hasOutput o = true
    · simp only [told, effect, Service.withServer, ho, if_true]
      rfl
    · simp [told, Service.withServer, ho]
  | switchWorkspace workspace =>
    by_cases hw : workspace = s.desktop.workspace
    · simp [told, Service.withServer, hw]
    · simp only [told, effect, Service.withServer, hw, if_false]
      rfl
  | _ => rfl

namespace Action

open Service

variable {s s' : Service}

theorem comesTo_publish_passed {e : Event}
    (h : (react e).ComesTo (s.noted e) s'.passResult s'.passed []) :
    ∃ r, (publish e).ComesTo s r s'.passed (s'.newsOfPass e) := by
  rw [newsOfPass, ← news_passed]
  rw [passResult] at h
  cases hf : s'.pass.fault with
  | some fault =>
    rw [hf] at h
    exact ⟨_, comesTo_publish_error h⟩
  | none =>
    rw [hf] at h
    exact ⟨_, comesTo_publish h⟩

theorem comesTo_change {e : Event} (he : react e = recalculate) (f : Desktop → Desktop) :
    ∃ r, (do changeDesktop f; publish e : Action Unit).ComesTo s r (s.changed f e).passed
      ((s.changed f e).newsOfPass e) := by
  have hreact : (react e).ComesTo ({ s with desktop := f s.desktop }.noted e)
      (s.changed f e).passResult (s.changed f e).passed [] := by
    rw [he]
    exact comesTo_recalculate (s.changed f e)
  obtain ⟨r, h⟩ := comesTo_publish_passed hreact
  exact ⟨r, comesTo_modify_bind (fun _ => rfl) h⟩

theorem comesTo_change_if {e : Event} (he : react e = recalculate) (f : Desktop → Desktop)
    (c : Prop) [Decidable c] :
    ∃ r, (if c then (do changeDesktop f; publish e) else pure () : Action Unit).ComesTo s r
      (if c then (s.changed f e).passed else s)
      (if c then (s.changed f e).newsOfPass e else []) := by
  split
  · exact comesTo_change he f
  · exact ⟨_, comesTo_pure () s⟩

theorem exists_comesTo_get {α : Type} {next : Service → Action α} {news : List News}
    (h : ∀ server, next (s.withServer server) = next s)
    (hnext : ∃ r, (next s).ComesTo s r s' news) :
    ∃ r, (get >>= next).ComesTo s r s' news :=
  hnext.imp fun _ => comesTo_get h

theorem comesTo_discard {α : Type} {action : Action α} {t : Service} {news : List News}
    (h : ∃ r, action.ComesTo s r t news) :
    ∃ r, (do let _ ← action : Action Unit).ComesTo s r t news := by
  obtain ⟨_ | a, h⟩ := h
  · exact ⟨_, h.bind_error⟩
  · exact ⟨_, List.append_nil news ▸ h.bind (comesTo_pure () t)⟩

theorem newsOfPass_of_none {e : Event} (he : ∀ d, e.news d = none) (s : Service) :
    s.newsOfPass e = [] := by
  rw [newsOfPass, he]
  exact ite_self _

theorem comesTo_release (w : WindowRef) (s : Service) :
    (release w).ComesTo s (.ok ()) (s.released w) [] :=
  fun server _ => run_release w (s.withServer server)

theorem comesTo_aim (w : WindowRef) (geometry : Box) (s : Service) :
    (aim w geometry).ComesTo s (.ok ()) (s.aimed w geometry) [] :=
  fun server _ => run_aim w geometry (s.withServer server)

theorem comesTo_moveResize (w : WindowRef) (box : Box) (s : Service) :
    (moveResize w box).ComesTo s (if box.Nonneg then .ok ()
      else .error (.fault (.negativeSize (s.desktop.window w) box))) (s.moved w box) [] :=
  fun server _ => run_moveResize w box (s.withServer server)

theorem comesTo_startResize (s : Service) (w : WindowRef) (edges : EdgeCode) :
    ∃ r, (startResize w edges).ComesTo s r (Step.outcome s (.startResize w edges)) [] := by
  refine exists_comesTo_get (fun _ => rfl) ?_
  simp only [Step.outcome, Step.passes, Step.effect]
  split
  · exact ⟨_, comesTo_pure false s⟩
  · have h := comesTo_publish (e := .resizeStarted w (s.desktop.window w).box)
      (comesTo_aim w _ (noted { s with drag := some ⟨w, (s.desktop.window w).box, edges⟩ } _))
    exact ⟨_, comesTo_modify_bind (fun _ => rfl) (h.bind (comesTo_pure true _))⟩

theorem comesTo_dragTo (s : Service) (dx dy : Int) :
    ∃ r, (dragTo dx dy).ComesTo s r (Step.outcome s (.dragTo dx dy)) [] := by
  refine exists_comesTo_get (fun _ => rfl) ?_
  simp only [Step.outcome, Step.passes, Step.effect]
  cases s.drag with
  | none => exact ⟨_, comesTo_pure none s⟩
  | some drag =>
    dsimp only
    split
    · exact ⟨_, comesTo_pure none s⟩
    · have h := comesTo_moveResize drag.window (dragBox drag.start drag.edges.sides dx dy) s
      split at h
      · exact ⟨_, h.bind (comesTo_pure _ _)⟩
      · exact ⟨_, h.bind_error⟩

theorem comesTo_endResize (s : Service) :
    ∃ r, endResize.ComesTo s r (Step.outcome s .endResize) [] := by
  refine exists_comesTo_get (fun _ => rfl) ?_
  cases hdrag : s.drag with
  | none =>
    simp only [Step.outcome, Step.passes, Step.effect, hdrag]
    exact ⟨_, comesTo_pure () s⟩
  | some drag =>
    simp only [Step.outcome, Step.passes, Step.effect, hdrag, Option.isSome_some, if_true]
    let box := (s.desktop.window drag.window).box
    obtain ⟨r, h⟩ := comesTo_publish_passed (e := .resizeEnded drag.window box)
      ((comesTo_aim drag.window box (noted { s with drag := none } _)).bind (comesTo_recalculate _))
    rw [newsOfPass_of_none fun _ => rfl] at h
    exact ⟨r, comesTo_modify_bind (fun _ => rfl) (comesTo_get (fun _ => rfl) h)⟩

theorem comesTo_cancelResize (s : Service) :
    ∃ r, cancelResize.ComesTo s r (Step.outcome s .cancelResize) [] := by
  refine exists_comesTo_get (fun _ => rfl) ?_
  simp only [Step.outcome, Step.passes, Step.effect]
  cases s.drag with
  | none => exact ⟨_, comesTo_pure () s⟩
  | some drag =>
    have hmove := comesTo_moveResize drag.window drag.start { s with drag := none }
    simp only [Bool.false_eq_true, if_false]
    split <;> rename_i hn
    · rw [if_pos hn] at hmove
      have hpublish (s : Service) :
          (publish (.resizeCancelled drag.window drag.start)).ComesTo s (.ok ()) _ _ :=
        comesTo_publish (comesTo_release drag.window _)
      exact ⟨_, comesTo_modify_bind (fun _ => rfl) (hmove.bind (hpublish _))⟩
    · rw [if_neg hn] at hmove
      exact ⟨_, comesTo_modify_bind (fun _ => rfl) hmove.bind_error⟩

theorem comesTo_publishCommand (s : Service) (text : Text) :
    ∃ r, (publish (.tilingCommand text)).ComesTo s r (Step.outcome s (.publishCommand text))
      (s.toldByCommand text) := by
  cases hparse : Command.parse text with
  | error x =>
    simp only [Step.outcome, Step.passes, Step.effect, commanded, toldByCommand, hparse]
    have hreact : (react (.tilingCommand text)).ComesTo (s.noted (.tilingCommand text)) (.ok ())
        (s.noted (.tilingCommand text)) [] := by
      rw [react, hparse]
      exact comesTo_pure () _
    exact ⟨_, comesTo_publish hreact⟩
  | ok c =>
    have hpasses : c.passes (s.noted (.tilingCommand text)) = c.passes s := by cases c <;> rfl
    have htold : c.told (s.noted (.tilingCommand text)) = c.told s := by cases c <;> rfl
    simp only [Step.outcome, Step.passes, Step.effect, commanded, toldByCommand, hparse]
    have h := comesTo_execute (s.noted (.tilingCommand text)) c
    rw [Command.outcome, hpasses, htold] at h
    have hreact : react (.tilingCommand text) = execute c := by rw [react, hparse]
    cases hr : c.result (s.noted (.tilingCommand text)) with
    | error e =>
      rw [hr, ← hreact] at h
      exact ⟨_, comesTo_publish_error h⟩
    | ok _ =>
      rw [hr, ← hreact] at h
      exact ⟨_, List.append_nil (c.told s) ▸ comesTo_publish h⟩

/-- **A step comes to a plain change, a pass or none, and its news.** -/
theorem comesTo_step (s : Service) (e : Step) :
    ∃ r, e.action.ComesTo s r (e.outcome s) (e.told s) := by
  -- The actions have their lemmas above. What is left is to split the outcome and the news of a
  -- step on the condition under which its action does anything.
  cases e with
  | addWindow w output workspace =>
    have h := comesTo_change (s := s) (e := .windowCreated w) rfl
      fun d => d.registerWindow w output workspace
    rwa [newsOfPass_of_none fun _ => rfl] at h
  | removeWindow w =>
    refine exists_comesTo_get (fun _ => rfl) ?_
    by_cases hw : s.desktop.hasWindow w = true
    · have hreact : (react (.windowClosed w)).ComesTo _ _ _ [] := (comesTo_release w
        (s.changed (fun d => d.unregisterWindow w) (.windowClosed w))).bind (comesTo_recalculate _)
      obtain ⟨r, h⟩ := comesTo_publish_passed (s := { s with desktop := _ }) hreact
      rw [newsOfPass_of_none fun _ => rfl] at h
      simp only [Step.outcome, Step.passes, Step.effect, Step.told, hw, if_true]
      exact ⟨r, comesTo_modify_bind (fun _ => rfl) h⟩
    · simp only [Step.outcome, Step.passes, Step.effect, Step.told, hw]
      exact ⟨_, comesTo_pure () s⟩
  | minimize w =>
    refine exists_comesTo_get (fun _ => rfl) ?_
    have h := comesTo_change_if (s := s) (e := .windowMinimized w) rfl
      (fun d => d.updateWindow w fun v => { v with minimized := true })
      ((!(s.desktop.window w).minimized) = true)
    rw [newsOfPass_of_none fun _ => rfl, ite_self] at h
    by_cases hm : (s.desktop.window w).minimized = true <;>
      simpa [Step.outcome, Step.passes, Step.effect, Step.told, hm] using h
  | restore w =>
    refine exists_comesTo_get (fun _ => rfl) ?_
    have h := comesTo_change_if (s := s) (e := .windowRestored w) rfl
      (fun d => d.updateWindow w fun v => { v with minimized := false })
      ((s.desktop.window w).minimized = true)
    rw [newsOfPass_of_none fun _ => rfl, ite_self] at h
    by_cases hm : (s.desktop.window w).minimized = true <;>
      simpa [Step.outcome, Step.passes, Step.effect, Step.told, hm] using h
  | addOutput o => exact comesTo_change (e := .outputCreated o) rfl _
  | removeOutput o =>
    refine exists_comesTo_get (fun _ => rfl) ?_
    have h := comesTo_change_if (s := s) (e := .outputRemoved o) rfl
      (fun d => d.unregisterOutput o) (s.desktop.hasOutput o = true)
    by_cases ho : s.desktop.hasOutput o = true <;>
      simpa [Step.outcome, Step.passes, Step.effect, Step.told, ho] using h
  | switchWorkspace workspace =>
    refine exists_comesTo_get (fun _ => rfl) ?_
    have h := comesTo_change_if (s := s) (e := .workspaceSwitched workspace s.desktop.workspace) rfl
      (fun d => { d with workspace }) (workspace ≠ s.desktop.workspace)
    by_cases hw : workspace = s.desktop.workspace <;>
      simpa [Step.outcome, Step.passes, Step.effect, Step.told, hw] using h
  | startResize w edges => exact comesTo_discard (comesTo_startResize s w edges)
  | dragTo dx dy => exact comesTo_discard (comesTo_dragTo s dx dy)
  | endResize => exact comesTo_endResize s
  | cancelResize => exact comesTo_cancelResize s
  | command text =>
    refine comesTo_discard ?_
    cases hparse : Command.parse text with
    | error x =>
      simp only [Step.outcome, Step.passes, Step.effect, Step.told, commanded, toldByCommand,
        hparse]
      exact ⟨_, comesTo_runCommand_error hparse s⟩
    | ok c =>
      simp only [Step.outcome, Step.passes, Step.effect, Step.told, commanded, toldByCommand,
        hparse]
      exact ⟨_, comesTo_runCommand hparse s⟩
  | publishCommand text => exact comesTo_publishCommand s text
  | recalculate =>
    have h := comesTo_publish_passed (s := s) (e := .recalculate)
      (comesTo_recalculate (s.noted .recalculate))
    rwa [newsOfPass_of_none fun _ => rfl] at h

end Action

namespace Service

/-- **A step comes to the same whoever is connected**, and its news has been relayed. -/
theorem step_withServer {server : Server} (h : server.Connected) (s : Service) (e : Step) :
    (s.withServer server).step e = (e.outcome s).withServer (server.relay (e.told s)) := by
  obtain ⟨r, hr⟩ := Action.comesTo_step s e
  exact congrArg Prod.snd (hr server h)

theorem step_of_connected {s : Service} (h : s.server.Connected) (e : Step) :
    s.step e = (e.outcome s).withServer (s.server.relay (e.told s)) := step_withServer h s e

end Service

end WindowTiling
