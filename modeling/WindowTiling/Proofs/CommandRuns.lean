import WindowTiling.Proofs.CommandTexts
import WindowTiling.Proofs.Relaying

/-!
# What lists of commands come to

The tiling has two switches: whether it is on, and whether it is in grid mode. The second one is
remembered while the first one is off. A list of commands can be given in three ways: each of them
run and answered, each of them made known as an event, or all of them in one request.

**Theorem (`commands_given`).** In whichever way a list of commands is given, each of the switches
is moved by its own commands only, so that it does not matter how the two kinds are interleaved. The
mode is announced once for every command that moves a switch, with the status after it. A text that
words no command changes nothing at all: it is refused where it is to be answered, and passed over
where it is made known.

Only joined commands need more than that: a pass that fails, or a subscriber that cannot be told,
would keep the commands after it from being run. The other two ways go on with the next command.

Which commands the texts word is told apart from reading them (`AllWorded`), and then found to be
what is read in them.
-/

namespace WindowTiling

/-! ## The two switches -/

/-- The positions of the two switches. -/
structure Modes where
  enabled : Bool
  grid : Bool
  deriving DecidableEq, Repr

namespace Modes

/-- The mode as clients see it. -/
def status (m : Modes) : Status := if m.enabled then if m.grid then .grid else .smart else .stacking

/-- The switches after a command. -/
def after (m : Modes) : Command → Modes
  | .status | .recalculate => m
  | .tiling switch => { m with enabled := switch.apply m.enabled }
  | .gridMode switch => { m with grid := switch.apply m.grid }

/-- What is announced along a list of commands: the status after each one that moves a switch. -/
def announced (m : Modes) : List Command → List Status
  | [] => []
  | c :: cs =>
    if m.after c = m then m.announced cs else (m.after c).status :: (m.after c).announced cs

theorem announced_cons (m : Modes) (c : Command) (cs : List Command) :
    m.announced (c :: cs) = m.announced [c] ++ (m.after c).announced cs := by
  simp only [announced]
  split
  · next h => rw [h, List.nil_append]
  · rfl

/-- **What was announced last is the status in the end.** -/
theorem getLastD_announced (m : Modes) (cs : List Command) :
    (m.announced cs).getLastD m.status = (cs.foldl after m).status := by
  induction cs generalizing m with
  | nil => rfl
  | cons c cs ih =>
    rw [List.foldl_cons, ← ih, announced]
    split
    · next h => rw [h]
    · rw [List.getLastD_cons]

end Modes

namespace Command

/-- What a command does to tiling being on. -/
def tilingSwitch? : Command → Option Switch
  | tiling switch => some switch
  | _ => none

/-- What a command does to grid mode. -/
def gridSwitch? : Command → Option Switch
  | gridMode switch => some switch
  | _ => none

/-- The commands that are read in texts. -/
def inTexts (texts : List Text) : List Command := texts.filterMap fun t => (parse t).toOption

theorem inTexts_cons (text : Text) (texts : List Text) :
    inTexts (text :: texts) = inTexts [text] ++ inTexts texts :=
  List.filterMap_append (l := [text])

theorem inTexts_error {text : Text} {e : CommandError} (h : parse text = .error e) :
    inTexts [text] = [] := by
  simp [inTexts, h, Except.toOption]

theorem inTexts_ok {text : Text} {c : Command} (h : parse text = .ok c) :
    inTexts [text] = [c] := by
  simp [inTexts, h, Except.toOption]

/-- Texts word commands, in this order. A text that words no command has none in the list. -/
inductive AllWorded : List Text → List Command → Prop
  | nil : AllWorded [] []
  | worded {t : Text} {c : Command} {texts : List Text} {cs : List Command}
    (h : Worded ((Blank.words t).map lowercase) c) (hrest : AllWorded texts cs) :
    AllWorded (t :: texts) (c :: cs)
  | wordless {t : Text} {texts : List Text} {cs : List Command}
    (h : ∀ c, ¬Worded ((Blank.words t).map lowercase) c) (hrest : AllWorded texts cs) :
    AllWorded (t :: texts) cs

theorem not_worded_of_parse {t : Text} {e : CommandError} (h : parse t = .error e) (c : Command) :
    ¬Worded ((Blank.words t).map lowercase) c := by
  rw [← parse_eq_ok_iff, h]
  exact nofun

/-- **What is read in texts is what they word.** -/
theorem allWorded_inTexts (texts : List Text) : AllWorded texts (inTexts texts) := by
  induction texts with
  | nil => exact .nil
  | cons t texts ih =>
    rw [inTexts_cons]
    cases h : parse t with
    | ok c =>
      rw [inTexts_ok h]
      exact .worded ((parse_eq_ok_iff t c).1 h) ih
    | error e =>
      rw [inTexts_error h]
      exact .wordless (not_worded_of_parse h) ih

end Command

/-- The position of a switch after all this has been done to it. -/
def Switch.applyAll (switches : List Switch) (b : Bool) : Bool :=
  switches.foldl (fun b switch => switch.apply b) b

theorem Modes.foldl_after (m : Modes) (cs : List Command) :
    cs.foldl after m = ⟨Switch.applyAll (cs.filterMap Command.tilingSwitch?) m.enabled,
      Switch.applyAll (cs.filterMap Command.gridSwitch?) m.grid⟩ := by
  induction cs generalizing m with
  | nil => rfl
  | cons c cs ih =>
    rw [List.foldl_cons, ih]
    cases c <;> rfl

/-- The switches, and all that has been announced of them. -/
abbrev ModeRecord := Modes × List Status

/-- The record after commands. -/
def ModeRecord.along (r : ModeRecord) (cs : List Command) : ModeRecord :=
  (cs.foldl Modes.after r.1, r.2 ++ r.1.announced cs)

namespace ModeRecord

theorem along_nil (r : ModeRecord) : r.along [] = r := by
  rw [along, Modes.announced, List.append_nil, List.foldl_nil]

theorem along_append (r : ModeRecord) (cs more : List Command) :
    r.along (cs ++ more) = (r.along cs).along more := by
  induction cs generalizing r with
  | nil => rw [along_nil, List.nil_append]
  | cons c cs ih =>
    have hcons (cs : List Command) : r.along (c :: cs) = (r.along [c]).along cs := by
      rw [along, along, along, Modes.announced_cons, List.append_assoc, List.foldl_cons,
        List.foldl_cons, List.foldl_nil]
    rw [List.cons_append, hcons, hcons cs, ih]

theorem along_of_eq {r : ModeRecord} {c : Command} (h : r.1.after c = r.1) : r.along [c] = r := by
  rw [along, Modes.announced, if_pos h, Modes.announced, List.append_nil, List.foldl_cons, h,
    List.foldl_nil]

theorem along_of_ne {r : ModeRecord} {c : Command} (h : r.1.after c ≠ r.1) :
    r.along [c] = (r.1.after c, r.2 ++ [(r.1.after c).status]) := by
  rw [along, Modes.announced, if_neg h, Modes.announced, List.foldl_cons, List.foldl_nil]

end ModeRecord

/-! ## What is recorded of the switches -/

/-- The status that was announced. -/
def Occurrence.mode? : Occurrence → Option Status
  | event (.modeChanged status) _ => some status
  | _ => none

namespace Service

/-- The positions of the switches. -/
def modes (s : Service) : Modes := ⟨s.enabled, s.grid⟩

/-- All that has been announced of the mode. -/
def publishedModes (s : Service) : List Status := s.history.filterMap Occurrence.mode?

/-- The switches, and what has been announced of them. -/
def modeRecord (s : Service) : ModeRecord := (s.modes, s.publishedModes)

theorem modeRecord_noted (s : Service) {e : Event}
    (h : ∀ line, (Occurrence.event e line).mode? = none) :
    (s.noted e).modeRecord = s.modeRecord := by
  simp [modeRecord, publishedModes, noted, modes, List.filterMap_append, h]

end Service

namespace Action

open Service

/-- The action, whether it fails or not, leaves the switches as they are and announces no mode. -/
def KeepsModes {α : Type} (action : Action α) : Prop :=
  ∀ s, (action.after s).modeRecord = s.modeRecord

theorem keepsModes_tellClients (e : Event) : (tellClients e).KeepsModes := by
  show (tellClients e).Keeps modeRecord
  exact keeps_tellClients (fun _ _ => rfl) e

theorem keepsModes_recalculate : recalculate.KeepsModes := by
  show recalculate.Keeps modeRecord
  refine keeps_recalculate (fun s desktop moves => ?_) (fun _ _ => rfl) fun status => ?_
  · simp [modeRecord, publishedModes, modes, Occurrence.mode?, Function.comp_def]
  · refine Keeps.bind (fun s => ?_) fun _ => keepsModes_tellClients _
    exact s.modeRecord_noted fun _ => rfl

/-! ## Single commands -/

theorem modeRecord_modeChanged (s : Service) :
    (modeChanged.after s).modeRecord = (s.modes, s.publishedModes ++ [s.status]) := by
  rw [modeChanged, after_bind (run_get s), part_after_bind fun _ => keepsModes_recalculate,
    announce, part_after_bind fun _ => keepsModes_tellClients _, after, run_noteEvent]
  simp [modeRecord, publishedModes, noted, modes, Occurrence.mode?]

/-- A command leaves the record that it should, whether the pass after it fails or not. -/
theorem modeRecord_execute (s : Service) (c : Command) :
    ((execute c).after s).modeRecord = s.modeRecord.along [c] := by
  cases c with
  | status => exact (ModeRecord.along_of_eq rfl).symm
  | recalculate => exact (keepsModes_recalculate s).trans (ModeRecord.along_of_eq rfl).symm
  | tiling switch =>
    rw [execute, after_bind (run_get s), setEnabled, after_bind (run_get s), after_ite]
    by_cases h : switch.apply s.enabled = s.enabled
    · rw [if_neg (not_not_intro h), after_pure, ModeRecord.along_of_eq]
      simp [modeRecord, Modes.after, modes, h]
    · rw [if_pos h, after_bind (run_modify _ s), modeRecord_modeChanged, ModeRecord.along_of_ne]
      · rfl
      · exact fun heq => h (congrArg Modes.enabled heq)
  | gridMode switch =>
    rw [execute, after_bind (run_get s), setGrid, after_bind (run_get s), after_ite]
    by_cases h : switch.apply s.grid = s.grid
    · rw [if_neg (not_not_intro h), after_pure, ModeRecord.along_of_eq]
      simp [modeRecord, Modes.after, modes, h]
    · rw [if_pos h, after_bind (run_modify _ s), modeRecord_modeChanged, ModeRecord.along_of_ne]
      · rfl
      · exact fun heq => h (congrArg Modes.grid heq)

theorem run_runCommand_error {text : Text} {e : CommandError} (h : Command.parse text = .error e)
    (s : Service) : (runCommand text).run s = (.error (.command e), s) := by
  rw [runCommand, h]
  rfl

theorem run_publish_error {text : Text} {e : CommandError} (h : Command.parse text = .error e)
    (s : Service) :
    (publish (.tilingCommand text)).run s = (.ok (), s.noted (.tilingCommand text)) := by
  have hreact : react (.tilingCommand text) = pure () := by rw [react, h]
  rw [publish, hreact]
  rfl

end Action

namespace Service

theorem modeRecord_command (s : Service) (text : Text) :
    (s.step (.command text)).modeRecord = s.modeRecord.along (Command.inTexts [text]) := by
  rw [step, Step.action, Action.after_bind_of_forall fun _ _ => rfl]
  cases h : Command.parse text with
  | error e =>
    rw [Action.after, Action.run_runCommand_error h, Command.inTexts_error h, ModeRecord.along_nil]
  | ok c =>
    rw [Action.runCommand, h, Command.inTexts_ok h]
    dsimp only
    rw [Action.after_bind_of_forall fun _ _ => rfl, Action.modeRecord_execute]

theorem modeRecord_publishCommand (s : Service) (text : Text) :
    (s.step (.publishCommand text)).modeRecord = s.modeRecord.along (Command.inTexts [text]) := by
  rw [step, Step.action, ← s.modeRecord_noted (e := .tilingCommand text) fun _ => rfl]
  cases h : Command.parse text with
  | error e =>
    rw [Action.after, Action.run_publish_error h, Command.inTexts_error h, ModeRecord.along_nil]
  | ok c =>
    have hreact : Action.react (.tilingCommand text) = Action.execute c := by rw [Action.react, h]
    rw [Action.publish, Action.after_bind (Action.run_noteEvent s _), hreact,
      Action.part_after_bind fun _ => Action.keepsModes_tellClients _,
      Action.modeRecord_execute, Command.inTexts_ok h]

/-! ## Lists of commands -/

/-- The state after commands that are run and answered one after the other. -/
def commandEach (s : Service) (texts : List Text) : Service :=
  texts.foldl (fun s text => s.step (.command text)) s

/-- The state after commands that are made known one after the other. -/
def publishEach (s : Service) (texts : List Text) : Service :=
  texts.foldl (fun s text => s.step (.publishCommand text)) s

theorem modeRecord_foldl {step : Service → Text → Service}
    (h : ∀ s text, (step s text).modeRecord = s.modeRecord.along (Command.inTexts [text]))
    (s : Service) (texts : List Text) :
    (texts.foldl step s).modeRecord = s.modeRecord.along (Command.inTexts texts) := by
  induction texts generalizing s with
  | nil => exact (ModeRecord.along_nil _).symm
  | cons text texts ih =>
    rw [List.foldl_cons, ih, h, Command.inTexts_cons text texts, ModeRecord.along_append]

/-! ## Commands in one request -/

/-- The pass after a step, if there is one, does not fail. -/
def PassSucceeds (s : Service) (e : Step) : Prop :=
  e.passes s = true → (e.effect s).pass.fault = none

instance (s : Service) (e : Step) : Decidable (s.PassSucceeds e) :=
  inferInstanceAs (Decidable (_ → _))

theorem run_runCommand_ok {s : Service} {text : Text} {c : Command} (hs : s.server.Connected)
    (hpass : s.PassSucceeds (.command text)) (hread : Command.parse text = .ok c) :
    (Action.runCommand text).run s = (.ok (c.outcome s).status, s.step (.command text)) := by
  have hresult : c.result s = .ok () := by
    simp only [PassSucceeds, Step.passes, Step.effect, commanded, hread] at hpass
    rw [Command.result]
    split
    · next hp => rw [passResult, hpass hp]
    · rfl
  have hrun := Action.comesTo_runCommand hread s s.server hs
  rw [hresult] at hrun
  have hstep : s.step (.command text) = (c.outcome s).withServer (s.server.relay (c.told s)) := by
    rw [step, Step.action, Action.after_bind_of_forall fun _ _ => rfl, Action.after]
    exact congrArg Prod.snd hrun
  rw [hstep]
  exact hrun

theorem run_mapM_runCommand {s : Service} {texts : List Text} (hs : s.server.Connected)
    (hread : ∀ t ∈ texts, ∃ c, Command.parse t = .ok c)
    (hpass : s.Each PassSucceeds (texts.map .command)) :
    ∃ results, ((texts.map Blank.trim).mapM fun text => do
      let status ← Action.runCommand text
      return Json.record [("success", .bool true), ("status", .string status.name)]
      : Action (List Json)).run s = (.ok results, s.commandEach texts) := by
  induction texts generalizing s with
  | nil => exact ⟨[], rfl⟩
  | cons t texts ih =>
    obtain ⟨c, hc⟩ := hread t (List.mem_cons_self ..)
    have hnext : (s.step (.command t)).server.Connected := by
      rw [step_of_connected hs]
      exact hs.relay _
    obtain ⟨results, hrest⟩ := ih hnext (fun t ht => hread t (List.mem_cons_of_mem _ ht)) hpass.2
    have htrim : Action.runCommand (Blank.trim t) = Action.runCommand t := by
      rw [Action.runCommand, Action.runCommand, Command.parse_trim]
    rw [List.map_cons, List.mapM_cons, Action.run_bind, Action.run_bind, htrim,
      run_runCommand_ok hs hpass.1 hc]
    dsimp only
    rw [Action.run_pure]
    dsimp only
    rw [Action.run_bind, hrest]
    exact ⟨_, rfl⟩

/-- **Joined commands come to what they come to one after the other.** -/
theorem reply_joined {s : Service} {texts : List Text} {payload : List UInt8}
    (hs : s.server.Connected) (hread : ∀ t ∈ texts, ∃ c, Command.parse t = .ok c)
    (hone : ∀ t ∈ texts, .char ';' ∉ t)
    (hpayload : Utf8.encodeText (Text.intercalate ";" texts) = .ok payload)
    (hpass : s.Each PassSucceeds (texts.map .command)) (client : Option ConnectionRef) :
    (s.reply client Request.command.messageType payload).2 = s.commandEach texts := by
  have htext := payloadText_of_encodeText hpayload
  obtain ⟨results, hrun⟩ := run_mapM_runCommand hs hread hpass
  have htype : Request.ofType? Request.command.messageType = some .command := by decide
  rw [reply, Action.answer, htype]
  dsimp only
  cases hchars : payloadText payload with
  | error e => simp [hchars, Except.map] at htext
  | ok cs =>
    simp only [hchars, Except.map, Except.ok.injEq] at htext
    dsimp only
    rw [Action.run_bind, htext, Action.runCommands, commandsIn_joined hread hone,
      Action.run_bind, hrun]
    cases results <;> rfl

/-- A list of commands is given, and leads to a state. -/
inductive Given (s : Service) (texts : List Text) : Service → Prop
  /-- Each of them is run and answered. -/
  | answered : Given s texts (s.commandEach texts)
  /-- Each of them is made known. -/
  | published : Given s texts (s.publishEach texts)
  /-- All of them are in the payload of one request. -/
  | joined (client : Option ConnectionRef) (payload : List UInt8) (hs : s.server.Connected)
    (hworded : ∀ t ∈ texts, ∃ c, Command.Worded ((Blank.words t).map lowercase) c)
    (hone : ∀ t ∈ texts, .char ';' ∉ t)
    (hpayload : Utf8.encodeText (Text.intercalate ";" texts) = .ok payload)
    (hpass : s.Each PassSucceeds (texts.map .command)) :
    Given s texts (s.reply client Request.command.messageType payload).2

theorem Given.modeRecord_eq {s s' : Service} {texts : List Text} (h : s.Given texts s') :
    s'.modeRecord = s.modeRecord.along (Command.inTexts texts) := by
  cases h with
  | answered => exact modeRecord_foldl modeRecord_command s texts
  | published => exact modeRecord_foldl modeRecord_publishCommand s texts
  | joined client payload hs hworded hone hpayload hpass =>
    have hread : ∀ t ∈ texts, ∃ c, Command.parse t = .ok c := fun t ht =>
      (hworded t ht).imp fun c => (Command.parse_eq_ok_iff t c).2
    rw [reply_joined hs hread hone hpayload hpass]
    exact modeRecord_foldl modeRecord_command s texts

/-- **What a list of commands comes to.** -/
theorem commands_given {s s' : Service} {texts : List Text} (h : s.Given texts s') :
    let cs := Command.inTexts texts
    -- The commands are those that the texts word, in their order.
    Command.AllWorded texts cs ∧
    -- Each switch is moved by its own commands only,
    s'.enabled = Switch.applyAll (cs.filterMap Command.tilingSwitch?) s.enabled ∧
    s'.grid = Switch.applyAll (cs.filterMap Command.gridSwitch?) s.grid ∧
    -- so that the two kinds may be interleaved in any way.
    (∀ texts' s'', s.Given texts' s'' →
      (Command.inTexts texts').filterMap Command.tilingSwitch? =
        cs.filterMap Command.tilingSwitch? →
      (Command.inTexts texts').filterMap Command.gridSwitch? = cs.filterMap Command.gridSwitch? →
      s''.modes = s'.modes) ∧
    -- The mode is announced once for each change, and the last announcement holds in the end.
    s'.publishedModes = s.publishedModes ++ s.modes.announced cs ∧
    (s.modes.announced cs).getLastD s.status = s'.status ∧
    -- A text that words no command is refused or passed over, and changes nothing.
    ∀ text, (∀ c, ¬Command.Worded ((Blank.words text).map lowercase) c) →
      (∃ e, (Action.runCommand text).run s = (.error (.command e), s)) ∧
        (Action.publish (.tilingCommand text)).run s = (.ok (), s.noted (.tilingCommand text)) := by
  have hmodes {texts : List Text} {s' : Service} (h : s.Given texts s') :
      s'.modes = ⟨
        Switch.applyAll ((Command.inTexts texts).filterMap Command.tilingSwitch?) s.enabled,
        Switch.applyAll ((Command.inTexts texts).filterMap Command.gridSwitch?) s.grid⟩ :=
    (congrArg Prod.fst h.modeRecord_eq).trans (Modes.foldl_after ..)
  refine ⟨Command.allWorded_inTexts texts, congrArg Modes.enabled (hmodes h),
    congrArg Modes.grid (hmodes h), ?_, congrArg Prod.snd h.modeRecord_eq, ?_, ?_⟩
  · intro texts' s'' h' htiling hgrid
    rw [hmodes h, hmodes h', htiling, hgrid]
  · exact (Modes.getLastD_announced _ _).trans
      (congrArg (fun r => r.1.status) h.modeRecord_eq).symm
  · intro text hworded
    cases hread : Command.parse text with
    | ok c => exact absurd ((Command.parse_eq_ok_iff text c).1 hread) (hworded c)
    | error e =>
      exact ⟨⟨e, Action.run_runCommand_error hread s⟩, Action.run_publish_error hread s⟩

/-- Three commands in one request: grid mode is switched on while tiling is off, and comes back with
it. -/
theorem commands_given_joined :
    let s := unoccupied .smart 2
    let texts := [" disable ", "Grid-Mode\tTOGGLE", "enable"].map Text.ofString
    ∃ s', s.Given texts s' ∧ s'.enabled = true ∧ s'.grid = true ∧
      s'.publishedModes = [.stacking, .stacking, .grid] := by
  intro s texts
  have hworded : ∀ t ∈ texts, ∃ c, Command.Worded ((Blank.words t).map lowercase) c := by
    have hsome : ∀ t ∈ texts, (Command.parse t).toOption.isSome = true := by decide +kernel
    intro t ht
    have := hsome t ht
    cases hp : Command.parse t with
    | error e => simp [hp, Except.toOption] at this
    | ok c => exact ⟨c, (Command.parse_eq_ok_iff t c).1 hp⟩
  have h : s.Given texts (s.reply none Request.command.messageType _).2 :=
    .joined none (Utf8.encode " disable ;Grid-Mode\tTOGGLE;enable".toList) (by decide) hworded
      (by decide +kernel) (by decide +kernel) (by decide +kernel)
  obtain ⟨-, henabled, hgrid, -, hpublished, -, -⟩ := commands_given h
  refine ⟨_, h, henabled.trans (by decide +kernel), hgrid.trans (by decide +kernel),
    hpublished.trans (by decide +kernel)⟩

end Service

end WindowTiling
