import WindowTiling.Json.Reader
import WindowTiling.Service.Tiling
import WindowTiling.Text.Pieces

/-!
# Requests

What the server answers to the messages of its clients. Every message is answered: a request that
cannot be read, is not known or fails is answered by a failure with its cause.
-/

namespace WindowTiling

/-- Why a request has no answer of its own. -/
inductive RequestError where
  | notUtf8 (error : Utf8.DecodeError)
  | notJson (error : Json.ReadError)
  | notIterable (value : Json)
  | unhashable (value : Json)
  /-- One of the names that are not known, the one at this place among them, is no text. -/
  | notText (place : Nat) (value : Json)
  | unknownChannels (names : List Text)
  | unknownType (type : Int)
  | failed (error : ServiceError)

/-- The cause as it is reported. -/
def RequestError.message : RequestError → Text
  | notUtf8 e => Text.ofString e.message
  | notJson e => Text.ofString e.message
  | notIterable v => Text.ofString s!"'{v.kindName}' object is not iterable"
  | unhashable v => Text.ofString s!"unhashable type: '{v.kindName}'"
  | notText place v =>
    Text.ofString s!"sequence item {place}: expected str instance, {v.kindName} found"
  | unknownChannels names =>
    Text.ofString "Unknown events: " ++ Text.intercalate ", " names
  | unknownType type => Text.ofString s!"Unknown message type: {type}"
  | failed e => e.message

/-- The answer to a request that failed. -/
def failureReply (e : RequestError) : Json :=
  .record [("success", .bool false), ("error", .text e.message)]

/-! ## Commands -/

/-- A leading word that a command may carry. -/
def commandPrefix : Text := .ofString "tiling "

/-- The command in a part: its surrounding blanks are dropped, and the leading word if it is
there. None for a blank part. -/
def commandOf? (part : Text) : Option Text :=
  let part := Blank.trim part
  if part.isEmpty then none
  else if commandPrefix.isPrefixOf part then some (part.drop commandPrefix.length)
  else some part

/-- The commands in a text, which stand between semicolons. -/
def commandsIn (text : Text) : List Text :=
  (pieces (.char ';') (Blank.trim text)).filterMap commandOf?

/-- Run commands in order, up to the first that fails. -/
def Action.runCommands (text : Text) : Action Json := do
  let results ← (commandsIn text).mapM fun command => do
    let status ← runCommand command
    return Json.record [("success", .bool true), ("status", .string status.name)]
  if results.isEmpty then
    return .array [.record [("success", .bool false), ("error", .string "Empty command")]]
  return .array results

/-! ## Subscriptions -/

/-- The channel that a value names, if it does. -/
def channelNamed? (v : Json) : Except RequestError (Option Channel) :=
  match v with
  | .array _ | .object _ => .error (.unhashable v)
  | _ => .ok (v.string?.bind Channel.ofName?)

/-- The texts in a list of values, or the first that is none. -/
def textsFrom (place : Nat) : List Json → Except RequestError (List Text)
  | [] => .ok []
  | .text t :: vs => (textsFrom (place + 1) vs).map (t :: ·)
  | v :: _ => .error (.notText place v)

/-- The channels named in the payload of a subscription. All names must be known. -/
def subscribedChannels (v : Json) : Except RequestError (List Channel) := do
  let some names := v.items? | throw (.notIterable v)
  let named ← names.mapM fun name => return (name, ← channelNamed? name)
  let unknown := named.filterMap fun (name, channel) => if channel.isNone then some name else none
  if unknown.isEmpty then return named.filterMap (·.2)
  else throw (.unknownChannels (← textsFrom 0 unknown))

/-! ## Reports -/

/-- A box as an object. -/
def Box.toJson (b : Box) : Json :=
  .record [("x", .int b.x), ("y", .int b.y), ("width", .int b.width), ("height", .int b.height)]

namespace Service

/-- The registered outputs. -/
def outputsReport (s : Service) : Json :=
  .array (s.desktop.outputs.values.map fun ref =>
    let o := s.desktop.output ref
    .record [("name", .text o.name), ("active", .bool o.isUsable),
      ("current_workspace", .text s.desktop.workspace), ("rect", o.usable.toJson)])

/-- The state of the tiling. -/
def tilingReport (s : Service) : Json :=
  let resized := match s.target with
    | none => .null
    | some t => .record [("id", .int (s.desktop.window t.window).id), ("rect", t.geometry.toJson)]
  .record [("enabled", .bool s.enabled), ("grid_mode", .bool s.grid),
    ("status", .string s.status.name), ("gap", s.config.gap.toJson), ("resized_view", resized)]

end Service

/-- The version of the program. -/
def version : Nat × Nat × Nat := (0, 1, 0)

def versionReport : Json :=
  let (major, minor, patch) := version
  .record [("human_readable", .string s!"autotile {major}.{minor}.{patch}"),
    ("loaded_config_file_name", .string ""), ("major", .int major), ("minor", .int minor),
    ("patch", .int patch)]

/-! ## Answers -/

/-- What a message asks for. -/
inductive Request where
  | command
  | subscribe
  | outputs
  | version
  | tiling
  deriving DecidableEq, Repr

namespace Request

def messageType : Request → Nat
  | command => 0
  | subscribe => 2
  | outputs => 3
  | version => 7
  | tiling => 100

def all : List Request := [command, subscribe, outputs, version, tiling]

def ofType? (type : Int) : Option Request := all.find? (·.messageType = type)

end Request

/-- The characters of a payload. -/
def payloadText (payload : List UInt8) : Except RequestError (List Char) :=
  (Utf8.decode payload).mapError .notUtf8

namespace Action

/-- Subscribe a client to the channels that a payload names; also without a connection. -/
def subscribe (client : Option ConnectionRef) (payload : List UInt8) :
    Action (Except RequestError Json) := do
  let channels := do
    let text ← payloadText payload
    subscribedChannels (← (Json.parse text).mapError .notJson)
  match channels with
  | .error e => return .error e
  | .ok channels =>
    modify fun s => { s with server := s.server.subscribe client channels }
    return .ok (.record [("success", .bool true)])

/-- The answer to a request. -/
def answer (client : Option ConnectionRef) (type : Int) (payload : List UInt8) :
    Action (Except RequestError Json) := do
  match Request.ofType? type with
  | none => return .error (.unknownType type)
  | some .command =>
    match payloadText payload with
    | .error e => return .error e
    | .ok text => return .ok (← runCommands (.ofChars text))
  | some .subscribe => subscribe client payload
  | some .outputs => return .ok (← get).outputsReport
  | some .version => return .ok versionReport
  | some .tiling => return .ok (← get).tilingReport

end Action

/-- Answer a message. A failure is answered too, and keeps what was changed before it. -/
def Service.reply (s : Service) (client : Option ConnectionRef) (type : Int)
    (payload : List UInt8) : Json × Service :=
  match (Action.answer client type payload).run s with
  | (.ok (.ok v), s') => (v, s')
  | (.ok (.error e), s') => (failureReply e, s')
  | (.error e, s') => (failureReply (.failed e), s')

end WindowTiling
