import WindowTiling.Ipc.Address
import WindowTiling.Ipc.Server

/-!
# Listening at a path

Starting a server at a path, and stopping it, with what becomes of the files. A server that fails
to start keeps its old socket if the place could not be cleared. If the place could not be taken,
it is left with a socket that has no address: nobody can connect to it, and accepting at it fails.

Main fact: `startAt_eq_ok_iff` (a server starts where a place can be claimed).
-/

namespace WindowTiling

/-- Why nobody can be accepted. -/
inductive AcceptError where
  | unaddressed
  deriving DecidableEq, Repr

def AcceptError.message : AcceptError → String
  | unaddressed => "[Errno 22] Invalid argument"

namespace Server

/-- Listen anew, at a path. -/
def startAt (s : Server) (tree : FileTree) (path : Text) :
    Except ListenError Unit × Server × FileTree :=
  match tree.clear path with
  | .error e => (.error e, s, tree)
  | .ok cleared =>
    match cleared.take path with
    | .error e => (.error e, s.replaceListener .unaddressed, cleared)
    | .ok taken => (.ok (), s.start, taken)

theorem startAt_eq_ok_iff (s : Server) (tree : FileTree) (path : Text) :
    (s.startAt tree path).1 = .ok () ↔ ∃ taken, tree.claim path = .ok taken := by
  unfold startAt FileTree.claim
  cases tree.clear path with
  | error e => simp [Except.bind]
  | ok cleared => cases h : cleared.take path <;> simp [Except.bind, h]

/-- Stop listening and clear the path. -/
def stopAt (s : Server) (tree : FileTree) (path : Text) :
    Except ListenError Unit × Server × FileTree :=
  match tree.clear path with
  | .error e => (.error e, s.stop, tree)
  | .ok cleared => (.ok (), s.stop, cleared)

/-- Why nobody can be accepted, if that is so. -/
def acceptError? (s : Server) : Option AcceptError :=
  if s.listener = .unaddressed then some .unaddressed else none

end Server

end WindowTiling
