import WindowTiling.CommandLine.Options
import WindowTiling.Config.Environment
import WindowTiling.Ipc.Client
import WindowTiling.Json.Printer
import WindowTiling.Service.Request
import WindowTiling.SocketPath

/-!
# Invocations

What a command line amounts to: serving, or one request to a running server and a report of its
reply.
-/

namespace WindowTiling

/-- What a command line asks for. -/
inductive Invocation where
  | serve (config : Config)
  | showState (socket : Text)
  /-- Run a command; without one the request fails once the server has been reached. -/
  | command (socket : Text) (command : Option String)

/-- How the program ends: its exit status and what it writes. -/
structure Exit where
  status : Nat := 0
  stdout : Text := []
  stderr : Text := []
  deriving DecidableEq, Repr, Inhabited

namespace Exit

/-- A line that names the program. -/
def line (message : Text) : Text := Text.ofString "autotile: " ++ message ++ [.char '\n']

/-- The end after a failure. -/
def failed (message : Text) : Exit := { status := 1, stderr := line message }

/-- The end after a wrong command line. -/
def usage (e : UsageError) : Exit :=
  { status := 2, stderr := line (Text.ofString "error: " ++ e.message) }

end Exit

namespace Options

/-- The command that an action stands for; none if it is the grid mode and no value is left. -/
def commandText? (o : Options) : Option String :=
  match o.gridMode with
  | some switch => some ("grid-mode " ++ switch.name)
  | none =>
    if .enable ∈ o.flags then some "enable"
    else if .disable ∈ o.flags then some "disable"
    else if .toggle ∈ o.flags then some "toggle"
    else if .recalculate ∈ o.flags then some "recalculate"
    else if .status ∈ o.flags then some "status"
    else none

/-- The socket path, if one is given that is not empty. -/
def socketPath? (o : Options) : Option Text :=
  o.socket.bind fun path => if path.isEmpty then none else some path

/-- What the options ask for. The environment gives the settings of a server, and the path of the
socket where the options do not. -/
def invocation (o : Options) (env : Environment) : Except ConfigError Invocation := do
  if .serve ∈ o.flags then
    let overrides := (o.socketPath?.map fun path =>
      Assignment.value (.ofString "socket_path") (.text path)).toList
    return .serve (← Config.fromEnvironment env env overrides)
  let socket ← match o.socketPath? with
    | some path => pure (SocketPath.plain path)
    | none => do (← Config.fromEnvironment env env []).address
  if .state ∈ o.flags then return .showState socket
  return .command socket o.commandText?

end Options

namespace Invocation

/-- The invocation of a command line, or how the program ends without one. -/
def ofArguments (arguments : List Text) (env : Environment) : Except Exit Invocation :=
  match Options.parse arguments with
  | .error .help => .error { stdout := .ofString Options.helpText }
  | .error (.usage e) => .error (.usage e)
  | .ok o => (o.invocation env).mapError fun e => .failed e.message

/-- The bytes of the message that an invocation sends. -/
def request (type : Request) (payload : Option String) : Except ClientError (List UInt8) :=
  match payload with
  | none => .error .noPayload
  | some text => requestBytes type.messageType (Text.ofString text)

/-! ## Reports -/

/-- A text member of a result. -/
def textMember (key default : String) (result : Json) : Text :=
  match result.get? key with
  | some (.text t) => t
  | some v => .ofString v.shown
  | none => .ofString default

/-- A result tells of success. -/
def succeeded (result : Json) : Bool := ((result.get? "success").map Json.holds).getD false

/-- Report the results of a command: the failures, or the status if that was asked for. -/
def reportResults (command : Option String) (results : List Json) : Exit :=
  let failed := results.filter fun r => !succeeded r
  if failed.isEmpty then
    if command = some "status" then
      { stdout := ((results.getLast?.map (textMember "status" "")).getD []) ++ [.char '\n'] }
    else {}
  else
    { status := 1
      stderr := failed.flatMap fun r => Exit.line (textMember "error" "command failed" r) }

/-- Report the state of the tiling, indented and sorted. -/
def reportState (state : Json) : Exit := { stdout := .ofString (state.renderIndented 0 ++ "\n") }

/-- Report what came of a request. Only failures of the connection are reported; others are passed
on. -/
def report (render : Json → Exit) : Except ClientError Json → Except ClientError Exit
  | .ok v => .ok (render v)
  | .error e => if e.isTransport then .ok (.failed e.message) else .error e

end Invocation

end WindowTiling
