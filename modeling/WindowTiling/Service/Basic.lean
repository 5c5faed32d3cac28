import WindowTiling.Arrangement
import WindowTiling.Command
import WindowTiling.Event
import WindowTiling.Ipc.Server
import WindowTiling.Json.Printer
import WindowTiling.Text.Utf8

/-!
# The service

The state of the running service, and the actions that change it. An action may fail; what it
has changed until then stays changed. The history notes every event and every move of a window,
in the order in which they came about.

Making an event known takes three steps, always in this order: it is noted, the tiling reacts to
it, and it is sent to the subscribed clients. This module has the first and the last.

Main fact: `run_bind` (an action goes on from where the one before it ended, unless that failed).
-/

namespace WindowTiling

/-- An interactive resize under way. -/
structure Drag where
  window : WindowRef
  /-- The content box at the start. -/
  start : Box
  edges : EdgeCode
  deriving DecidableEq, Repr

/-- Something that has come about. -/
inductive Occurrence where
  /-- An event was made known, with the line that a log shows for it. -/
  | event (event : Event) (line : Text)
  /-- A window got another box. -/
  | move (placement : Placement)
  deriving Repr

/-- The state of the service. -/
structure Service where
  config : Config
  desktop : Desktop
  /-- Tiling is on. -/
  enabled : Bool
  /-- Grid mode is on; it is remembered while tiling is off. -/
  grid : Bool
  target : Option Target := none
  drag : Option Drag := none
  server : Server := {}
  history : List Occurrence := []
  deriving Repr, Inhabited

namespace Service

/-- The service as a configuration starts it. -/
def ofConfig (config : Config) : Service where
  config
  desktop := { rules := config.rules }
  enabled := config.mode ≠ .off
  grid := config.mode = .grid

/-- What passes do. -/
def mode (s : Service) : TilingMode :=
  if s.enabled then if s.grid then .grid else .smart else .off

/-- The mode as clients see it. -/
def status (s : Service) : Status :=
  if s.enabled then if s.grid then .grid else .smart else .stacking

def gap (s : Service) : Int := s.config.gap.value

end Service

/-! ## Actions -/

/-- Why an action failed. -/
inductive ServiceError where
  | fault (fault : Fault)
  | command (error : CommandError)
  /-- A subscriber cannot be told of an event, since it has no connection. -/
  | noConnection
  deriving Repr

def ServiceError.message : ServiceError → Text
  | fault f => .ofString f.message
  | command e => e.message
  | noConnection => .ofString "'NoneType' object has no attribute 'sendall'"

/-- An action of the service. -/
abbrev Action (α : Type) := ExceptT ServiceError (StateM Service) α

namespace Action

/-- Run an action from a state. -/
def run {α : Type} (action : Action α) (s : Service) : Except ServiceError α × Service :=
  StateT.run (ExceptT.run action) s

@[simp] theorem run_pure {α : Type} (a : α) (s : Service) :
    run (pure a) s = (.ok a, s) := rfl

@[simp] theorem run_get (s : Service) : run get s = (.ok s, s) := rfl

@[simp] theorem run_modify (f : Service → Service) (s : Service) :
    run (modify f) s = (.ok (), f s) := rfl

/-- The second action starts where the first one ended; a failure ends the whole. -/
theorem run_bind {α β : Type} (action : Action α) (next : α → Action β) (s : Service) :
    run (action >>= next) s =
      match run action s with
      | (.ok a, s') => run (next a) s'
      | (.error e, s') => (.error e, s') := by
  show StateT.run (ExceptT.bind action next) s = _
  unfold run ExceptT.bind ExceptT.run ExceptT.mk StateT.run
  show (StateT.bind action (ExceptT.bindCont next)) s = _
  unfold StateT.bind
  show (match action s with | (r, s') => ExceptT.bindCont next r s') = _
  cases action s with
  | mk result s' => cases result <;> rfl

/-- Note an occurrence. -/
def note (o : Occurrence) : Action Unit := modify fun s => { s with history := s.history ++ [o] }

/-- Note an event. -/
def noteEvent (e : Event) : Action Unit := do
  note (.event e (e.line (← get).desktop))

end Action

/-! ## What clients are told -/

/-- The channel and the content under which an event is sent to clients, if it is. -/
def Event.news (d : Desktop) : Event → Option (Channel × Json)
  | .modeChanged status =>
    some (.tiling, .record [("change", .string "mode"), ("mode", .string status.name)])
  | .workspaceSwitched current old =>
    let focus (name : Text) (focused : Bool) : Json :=
      .record [("name", .text name), ("focused", .bool focused)]
    some (.workspace, .record [("change", .string "focus"), ("current", focus current true),
      ("old", focus old false)])
  | .outputCreated o =>
    some (.output, .record [("change", .string "added"), ("name", .text (d.output o).name)])
  | .outputRemoved o =>
    some (.output, .record [("change", .string "removed"), ("name", .text (d.output o).name)])
  | _ => none

/-- The payload that carries a value. -/
def Json.payload (v : Json) : List UInt8 := Utf8.encode v.render.toList

namespace Action

/-- Tell the subscribers of an event. This fails at one without a connection; those before it
have been told. -/
def tellClients (e : Event) : Action Unit := do
  let s ← get
  match e.news s.desktop with
  | none => return
  | some (channel, content) =>
    let (server, complete) := s.server.broadcast channel content.payload
    modify fun s => { s with server }
    if !complete then throw .noConnection

/-- Make an event known to which the tiling does not react. -/
def announce (e : Event) : Action Unit := do
  noteEvent e
  tellClients e

/-- Give a window a new content box. A negative size is refused. -/
def moveResize (w : WindowRef) (box : Box) : Action Unit := do
  let d := (← get).desktop
  match d.moveResize w box with
  | none => throw (.fault (.negativeSize (d.window w) box))
  | some d' =>
    modify fun s => { s with desktop := d' }
    if (d.window w).box ≠ box then note (.move ⟨w, box⟩)

end Action

end WindowTiling
