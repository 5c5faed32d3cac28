import WindowTiling.CommandLine.Invocation
import WindowTiling.Service.Poll

/-!
# The program

The outermost layer: it looks up the environment, reads the command line, and writes what comes
of it. There are no local sockets to be had here. Serving is therefore done over the standard
streams, for the one client at their other end, and a socket that exists cannot be reached.
-/

namespace WindowTiling

namespace Program

/-- The variables that settings are taken from. -/
def variableNames : List String := [
  "AUTOTILE_MODE", "AUTOTILE_GAP", "AUTOTILE_BORDER_WIDTH", "AUTOTILE_TITLEBAR_HEIGHT",
  "AUTOTILE_SOCKET", "XDG_RUNTIME_DIR", "WAYLAND_DISPLAY"]

def environment : IO Environment := do
  let values ← variableNames.mapM fun name => do
    return (← IO.getEnv name).map fun value => (name, value)
  return (values.filterMap id).map fun (name, value) => (name, Text.ofString value)

/-- A text as far as it can be written: a surrogate becomes a question mark. -/
def written (t : Text) : String := String.ofList (t.map fun c => c.toChar?.getD '?')

/-- Write what an end of the program writes, and return its status. -/
def finish (e : Exit) : IO UInt32 := do
  IO.print (written e.stdout)
  IO.eprint (written e.stderr)
  return UInt32.ofNat e.status

/-- Write the report of a request, or why there is none. -/
def finishReport : Except ClientError Exit → IO UInt32
  | .ok e => finish e
  | .error e => finish (.failed e.message)

/-- The reply to a request at a path: none, and why. -/
def unreachable (path : Text) : IO (Except ClientError Json) := do
  try
    let _ ← IO.FS.realPath (written path)
    return .error (.refused path)
  catch
    | .invalidArgument .. => return .error (.overlong path)
    | _ => return .error (.missing path)

/-- Answer all that can be read by now. -/
def answerAll : Nat → Service → Service
  | 0, s => s
  | n + 1, s => if s.readable.isEmpty then s else answerAll n s.poll

/-- Serve the client at the other end of the standard streams until it closes its end or is
dropped. -/
partial def serveStreams (c : ConnectionRef) (s : Service) : IO Unit := do
  let bytes ← (← IO.getStdin).read 65536
  let server := if bytes.isEmpty then s.server.hangUp c else s.server.deliver c bytes.toList
  let next := answerAll bytes.size { s with server }
  let answer := (next.server.connection c).written.drop (s.server.connection c).written.length
  let stdout ← IO.getStdout
  stdout.write (ByteArray.mk answer.toArray)
  stdout.flush
  if !bytes.isEmpty && !(next.server.connection c).dropped then serveStreams c next

/-- Serve one client, who is connected from the start. -/
def serve (config : Config) : IO Unit := do
  let s := Service.ofConfig config
  match s.server.start.connect? with
  | none => return
  | some (server, c) => serveStreams c ({ s with server } : Service).poll

/-- Carry out an invocation. -/
def carryOut : Invocation → IO UInt32
  | .serve config => do
    serve config
    return 0
  | .showState path => do
    finishReport (Invocation.report Invocation.reportState (← unreachable path))
  | .command path command => do
    let render (v : Json) : Exit := Invocation.reportResults command (commandResults v)
    finishReport (Invocation.report render (← unreachable path))

end Program

end WindowTiling

/-- Read the command line and carry out what it asks for. -/
def main (arguments : List String) : IO UInt32 := do
  let words := arguments.map WindowTiling.Text.ofString
  match WindowTiling.Invocation.ofArguments words (← WindowTiling.Program.environment) with
  | .error e => WindowTiling.Program.finish e
  | .ok invocation => WindowTiling.Program.carryOut invocation
