import WindowTiling.SocketPath

/-!
# Addresses

A socket is addressed by its path, which has to be short. A server takes the place of whatever
stands at its path, unless that is a directory or cannot be removed. This is done in two goes: the
place is cleared, and then it is taken.

A path that starts with a null character addresses a socket which stands at no place. In any other
path the address ends at the first null character; nothing is found at such a path, so that what
stands at the address is not cleared.

Main fact: `node?_of_occupy` (a socket stands at the place that was taken).
-/

namespace WindowTiling

/-- The addresses of sockets have fewer bytes than this. -/
def addressLimit : Nat := 108

/-- What is said of a path that is too long to be looked up. -/
def overlongMessage (path : Text) : String := s!"[Errno 36] File name too long: {Quoted.text path}"

/-- What is said of a path that is too long for an address. -/
def unaddressableMessage : String := "AF_UNIX path too long"

/-- Why no server can listen at a path. -/
inductive ListenError where
  | overlong (path : Text)
  | occupied (path : Text)
  /-- What stands there cannot be removed. -/
  | denied (path : Text)
  | notText (error : Utf8.EncodeError)
  | unaddressable
  | inUse
  | noDirectory
  | notDirectory
  deriving DecidableEq, Repr

def ListenError.message : ListenError → String
  | overlong path => overlongMessage path
  | occupied path => s!"[Errno 21] Is a directory: {Quoted.text path}"
  | denied path => s!"[Errno 13] Permission denied: {Quoted.text path}"
  | notText error => error.message
  | unaddressable => unaddressableMessage
  | inUse => "[Errno 98] Address already in use"
  | noDirectory => "[Errno 2] No such file or directory"
  | notDirectory => "[Errno 20] Not a directory"

/-- The bytes of the path of an address, up to the first null. -/
def addressPath (bytes : List UInt8) : List UInt8 := bytes.takeWhile (· ≠ 0)

namespace FileTree

/-- Remove what stands where bytes lead. -/
def remove (tree : FileTree) (path : List UInt8) : FileTree :=
  match tree.placeOf path with
  | .error _ => tree
  | .ok place => tree.set place none

/-- Remove what stands at a path. -/
def clear (tree : FileTree) (path : Text) : Except ListenError FileTree :=
  match tree.lookUp path, RawBytes.encode path with
  | .overlong, _ => .error (.overlong path)
  | .node node, .ok bytes =>
    if node.kind = .directory then .error (.occupied path)
    else if tree.parentAt bytes = .node ⟨.directory, false⟩ then .error (.denied path)
    else .ok (tree.remove bytes)
  | _, _ => .ok tree

/-- Put a socket where bytes lead, if nothing stands there. In a directory that cannot be written to
there is no place for it, and neither is there one beyond a slash. -/
def occupy (tree : FileTree) (path : List UInt8) : Except ListenError FileTree :=
  match tree.foundAt path, tree.parentAt path, tree.placeOf path with
  | .node _, _, _ => .error .inUse
  | _, .node ⟨.directory, true⟩, .ok place =>
    if path.getLast? = some slash then .error .noDirectory
    else .ok (tree.set place (some ⟨.socket, true⟩))
  | _, .node ⟨.directory, _⟩, _ | _, .nothing, _ | _, .overlong, _ => .error .noDirectory
  | _, .node _, _ | _, .blocked, _ => .error .notDirectory

/-- Take the place at a path, where nothing stands, for a server. -/
def take (tree : FileTree) (path : Text) : Except ListenError FileTree :=
  match RawBytes.encode path with
  | .error e => .error (.notText e)
  | .ok bytes =>
    if bytes.head? = some 0 then
      if addressLimit < bytes.length then .error .unaddressable else .ok tree
    else if addressLimit ≤ bytes.length then .error .unaddressable
    else tree.occupy (addressPath bytes)

/-- A socket stands at the place that was taken. -/
theorem node?_of_occupy {tree after : FileTree} {path : List UInt8}
    (h : tree.occupy path = .ok after) :
    ∃ place, tree.placeOf path = .ok place ∧ after.node? place = some ⟨.socket, true⟩ := by
  unfold occupy at h
  split at h
  · simp at h
  · next hp _ =>
    split at h
    · simp at h
    · refine ⟨_, hp, ?_⟩
      injection h with h
      simp [← h, node?_set]
  all_goals simp at h

/-- Take the place at a path for a server, whatever stands there. -/
def claim (tree : FileTree) (path : Text) : Except ListenError FileTree :=
  (tree.clear path).bind (·.take path)

end FileTree

end WindowTiling
