import WindowTiling.Text.Pieces
import WindowTiling.Text.RawBytes

/-!
# Socket paths

The plain form of a path, and what is found at one. The plain form has no empty and no single-dot
parts. Two leading slashes are kept as they are, any other number of them counts as one.

A path is followed part by part through a tree of directories, where names are bytes. A part may be
too long for a name, and that is noticed where the part is looked up; a path that is too long as a
whole is not followed at all.

Main fact: `node?_set` (putting something at a place changes that place alone).
-/

namespace WindowTiling

namespace SocketPath

/-- The parts between slashes that say something: all but empty ones and single dots. -/
def parts {α : Type} [DecidableEq α] (slash dot : α) (path : List α) : List (List α) :=
  (pieces slash path).filter fun part => part ≠ [] && part ≠ [dot]

/-! ## The plain form -/

/-- What the path starts with. -/
def root (path : Text) : Text :=
  let slashes := path.takeWhile (· = .char '/')
  if slashes.length = 0 then [] else if slashes.length = 2 then slashes else [.char '/']

/-- The plain form; a path that says nothing is the current directory. -/
def plain (path : Text) : Text :=
  let plain := root path ++ Text.intercalate "/" (parts (.char '/') (.char '.') path)
  if plain.isEmpty then [.char '.'] else plain

end SocketPath

/-! ## Trees -/

inductive NodeKind where
  | directory
  | socket
  | file
  deriving DecidableEq, Repr

/-- What stands at a place. -/
structure Node where
  kind : NodeKind
  /-- It can be written to. In a directory that is how names are added and removed. -/
  writable : Bool := true
  deriving DecidableEq, Repr

/-- The name of a file in its directory. -/
abbrev FileName := List UInt8

/-- A tree of directories. A place is given by the names that lead to it from the root. -/
structure FileTree where
  node? : List FileName → Option Node
  /-- The current directory. -/
  here : List FileName

/-- What is found at a path. -/
inductive Found where
  | nothing
  /-- Something stands where a directory is needed. -/
  | blocked
  | overlong
  | node (node : Node)
  deriving DecidableEq, Repr

namespace FileTree

/-- Names have at most so many bytes. -/
def maxNameLength : Nat := 255

/-- Paths have fewer bytes than this. -/
def pathLimit : Nat := 4096

def slash : UInt8 := 0x2F

def dot : UInt8 := 0x2E

/-- Let something stand at a place, or nothing. -/
def set (tree : FileTree) (place : List FileName) (node : Option Node) : FileTree :=
  { tree with node? := fun p => if p = place then node else tree.node? p }

theorem node?_set (tree : FileTree) (place : List FileName) (node : Option Node)
    (p : List FileName) :
    (tree.set place node).node? p = if p = place then node else tree.node? p := rfl

/-! ## Looking up -/

/-- The place that one more part leads to, or what is found instead. -/
def step (tree : FileTree) (place : List FileName) (part : FileName) :
    Except Found (List FileName) :=
  match tree.node? place with
  | none => .error .nothing
  | some ⟨.directory, _⟩ =>
    if maxNameLength < part.length then .error .overlong
    else .ok (if part = [dot, dot] then place.dropLast else place ++ [part])
  | some _ => .error .blocked

/-- The place that parts lead to from a place, or what is found instead. -/
def follow (tree : FileTree) (place : List FileName) (parts : List FileName) :
    Except Found (List FileName) :=
  parts.foldlM tree.step place

/-- What parts lead to from a place. -/
def found (tree : FileTree) (place : List FileName) (parts : List FileName) : Found :=
  match tree.follow place parts with
  | .error found => found
  | .ok place => ((tree.node? place).map .node).getD .nothing

/-- Where following a path starts. -/
def start (tree : FileTree) (path : List UInt8) : List FileName :=
  if path.head? = some slash then [] else tree.here

def parts (path : List UInt8) : List FileName := SocketPath.parts slash dot path

/-- The place that a path leads to, or what is found instead. -/
def placeOf (tree : FileTree) (path : List UInt8) : Except Found (List FileName) :=
  tree.follow (tree.start path) (parts path)

/-- What is found where the bytes of a path lead. -/
def foundAt (tree : FileTree) (path : List UInt8) : Found :=
  tree.found (tree.start path) (parts path)

/-- What is found in the place of the directory into which the bytes of a path lead. -/
def parentAt (tree : FileTree) (path : List UInt8) : Found :=
  tree.found (tree.start path) (parts path).dropLast

/-- What is found at a path. Nothing is where a text stands for no bytes or holds a null
character. -/
def lookUp (tree : FileTree) (path : Text) : Found :=
  match RawBytes.encode path with
  | .error _ => .nothing
  | .ok bytes =>
    if bytes.contains 0 then .nothing
    else if pathLimit ≤ bytes.length then .overlong
    else tree.foundAt bytes

end FileTree

end WindowTiling
