import WindowTiling.Proofs.Relaying

/-!
# What requests are answered

**Theorem (`reply_withServer`).** A request has the same answer, leaves the same state and sends the
same news (`Service.answered`), whoever is connected. Of the server it changes only who is
subscribed, and that only if it is a subscription that can be read.
-/

namespace WindowTiling

/-! ## Commands in order -/

/-- What carrying out commands in order comes to. -/
structure CarriedOut where
  results : Except ServiceError (List Json)
  state : Service
  news : List News

/-- The result of a command in an answer. -/
def Status.report (status : Status) : Json :=
  .record [("success", .bool true), ("status", .string status.name)]

/-- Commands are carried out in order, up to the first that fails. -/
def Service.carryOut (s : Service) : List Text → CarriedOut
  | [] => ⟨.ok [], s, []⟩
  | text :: texts =>
    match Command.parse text with
    | .error x => ⟨.error (.command x), s, []⟩
    | .ok c =>
      match c.result s with
      | .error e => ⟨.error e, c.outcome s, c.told s⟩
      | .ok _ =>
        let rest := (c.outcome s).carryOut texts
        ⟨rest.results.map ((c.outcome s).status.report :: ·), rest.state, c.told s ++ rest.news⟩

/-- The answer to commands of which none has failed. -/
def commandsReport (results : List Json) : Json :=
  if results.isEmpty then
    .array [.record [("success", .bool false), ("error", .string "Empty command")]]
  else .array results

namespace Action

theorem comesTo_mapM_runCommand (s : Service) (texts : List Text) :
    (texts.mapM fun text => do return (← runCommand text).report : Action (List Json)).ComesTo s
      (s.carryOut texts).results (s.carryOut texts).state (s.carryOut texts).news := by
  induction texts generalizing s with
  | nil => exact comesTo_pure [] s
  | cons text texts ih =>
    rw [List.mapM_cons, Service.carryOut]
    cases hparse : Command.parse text with
    | error x => exact (comesTo_runCommand_error hparse s).bind_error.bind_error
    | ok c =>
      have hrun := comesTo_runCommand hparse s
      dsimp only
      cases hr : c.result s with
      | error e =>
        rw [hr] at hrun
        exact hrun.bind_error.bind_error
      | ok _ =>
        rw [hr] at hrun
        have hone : (do return (← runCommand text).report : Action Json).ComesTo s _ _
            (c.told s ++ []) := hrun.bind (comesTo_pure (c.outcome s).status.report _)
        rw [List.append_nil] at hone
        refine hone.bind ?_
        have hrest := ih (c.outcome s)
        cases hres : ((c.outcome s).carryOut texts).results with
        | error e =>
          rw [hres] at hrest
          exact hrest.bind_error
        | ok results =>
          rw [hres] at hrest
          rw [← List.append_nil ((c.outcome s).carryOut texts).news]
          exact hrest.bind (comesTo_pure _ _)

theorem comesTo_runCommands (s : Service) (text : Text) :
    (runCommands text).ComesTo s ((s.carryOut (commandsIn text)).results.map commandsReport)
      (s.carryOut (commandsIn text)).state (s.carryOut (commandsIn text)).news := by
  have h := comesTo_mapM_runCommand s (commandsIn text)
  rw [runCommands]
  cases hres : (s.carryOut (commandsIn text)).results with
  | error e =>
    rw [hres] at h
    exact h.bind_error
  | ok results =>
    rw [hres] at h
    rw [← List.append_nil (s.carryOut (commandsIn text)).news]
    refine h.bind ?_
    show (if results.isEmpty then pure _ else pure _ : Action Json).ComesTo _
      (.ok (if results.isEmpty then _ else _)) _ _
    split
    · exact comesTo_pure _ _
    · exact comesTo_pure _ _

end Action

/-! ## Subscriptions -/

/-- The channels in the payload of a subscription. -/
def channelsIn (payload : List UInt8) : Except RequestError (List Channel) := do
  let text ← payloadText payload
  subscribedChannels (← (Json.parse text).mapError .notJson)

theorem Action.subscribe_eq (client : Option ConnectionRef) (payload : List UInt8) :
    Action.subscribe client payload =
      match channelsIn payload with
      | .error e => return .error e
      | .ok channels => do
        modify fun s => { s with server := s.server.subscribe client channels }
        return .ok (.record [("success", .bool true)]) := rfl

/-- What a request changes of the server itself. -/
def Server.requested (s : Server) (client : Option ConnectionRef) (type : Int)
    (payload : List UInt8) : Server :=
  match Request.ofType? type, channelsIn payload with
  | some .subscribe, .ok channels => s.subscribe client channels
  | _, _ => s

/-! ## Answers -/

/-- What answering a request comes to. -/
structure Answered where
  answer : Json
  state : Service
  news : List News := []

/-- The answer to commands. -/
def CarriedOut.answered (c : CarriedOut) : Answered where
  answer :=
    match c.results with
    | .error e => failureReply (.failed e)
    | .ok results => commandsReport results
  state := c.state
  news := c.news

/-- What a request is answered, and what that comes to. -/
def Service.answered (s : Service) (type : Int) (payload : List UInt8) : Answered :=
  match Request.ofType? type with
  | none => ⟨failureReply (.unknownType type), s, []⟩
  | some .command =>
    match payloadText payload with
    | .error e => ⟨failureReply e, s, []⟩
    | .ok text => (s.carryOut (commandsIn (.ofChars text))).answered
  | some .subscribe =>
    match channelsIn payload with
    | .error e => ⟨failureReply e, s, []⟩
    | .ok _ => ⟨.record [("success", .bool true)], s, []⟩
  | some .outputs => ⟨s.outputsReport, s, []⟩
  | some .version => ⟨versionReport, s, []⟩
  | some .tiling => ⟨s.tilingReport, s, []⟩

namespace Service

variable {server : Server}

/-- **A request is answered alike whoever is connected.** -/
theorem reply_withServer (h : server.Connected) (s : Service) (client : Option ConnectionRef)
    (type : Int) (payload : List UInt8) :
    (s.withServer server).reply client type payload =
      ((s.answered type payload).answer,
        (s.answered type payload).state.withServer
          ((server.relay (s.answered type payload).news).requested client type payload)) := by
  rw [reply, Action.answer, answered, Server.requested]
  cases Request.ofType? type with
  | none => rfl
  | some request =>
    cases request with
    | command =>
      dsimp only
      cases payloadText payload with
      | error e => rfl
      | ok text =>
        dsimp only
        rw [Action.run_bind, Action.comesTo_runCommands s (.ofChars text) server h,
          CarriedOut.answered]
        cases (s.carryOut (commandsIn (.ofChars text))).results <;> rfl
    | subscribe =>
      dsimp only
      rw [Action.subscribe_eq]
      cases channelsIn payload <;> rfl
    | outputs => rfl
    | version => rfl
    | tiling => rfl

/-! ## The same with another server -/

section WithServer

variable (s : Service) (server : Server)

theorem passes_withServer (c : Command) : c.passes (s.withServer server) = c.passes s := by
  cases c <;> rfl

theorem effect_withServer (c : Command) :
    c.effect (s.withServer server) = (c.effect s).withServer server := by
  cases c with
  | status => rfl
  | recalculate => rfl
  | tiling switch =>
    dsimp only [Command.effect, withServer]
    split <;> rfl
  | gridMode switch =>
    dsimp only [Command.effect, withServer]
    split <;> rfl

theorem outcome_withServer (c : Command) :
    c.outcome (s.withServer server) = (c.outcome s).withServer server := by
  rw [Command.outcome, Command.outcome, passes_withServer, effect_withServer]
  split <;> rfl

theorem result_withServer (c : Command) : c.result (s.withServer server) = c.result s := by
  rw [Command.result, Command.result, passes_withServer, effect_withServer]
  rfl

theorem told_withServer (c : Command) : c.told (s.withServer server) = c.told s := by
  cases c <;> rfl

theorem carryOut_withServer (texts : List Text) :
    (s.withServer server).carryOut texts =
      ⟨(s.carryOut texts).results, (s.carryOut texts).state.withServer server,
        (s.carryOut texts).news⟩ := by
  induction texts generalizing s with
  | nil => rfl
  | cons text texts ih =>
    rw [carryOut, carryOut]
    cases Command.parse text with
    | error x => rfl
    | ok c =>
      dsimp only
      rw [result_withServer, outcome_withServer, told_withServer]
      cases c.result s with
      | error e => rfl
      | ok _ =>
        dsimp only
        rw [ih]
        rfl

theorem answered_withServer (type : Int) (payload : List UInt8) :
    (s.withServer server).answered type payload =
      ⟨(s.answered type payload).answer, (s.answered type payload).state.withServer server,
        (s.answered type payload).news⟩ := by
  rw [answered, answered]
  cases Request.ofType? type with
  | none => rfl
  | some request =>
    cases request with
    | command =>
      dsimp only
      cases payloadText payload with
      | error e => rfl
      | ok text =>
        dsimp only
        rw [carryOut_withServer]
        rfl
    | subscribe =>
      dsimp only
      cases channelsIn payload <;> rfl
    | outputs => rfl
    | version => rfl
    | tiling => rfl

end WithServer

end Service

end WindowTiling
