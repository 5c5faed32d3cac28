import WindowTiling.Ipc.Frame
import WindowTiling.Ipc.Stream
import WindowTiling.Roster

/-!
# The server's connections

Which connections wait to be accepted, which clients the server has, and to which channels they
have subscribed. A client to which writing fails is dropped, wherever that happens. A subscription
that was not made over a connection is kept as well, and keeps what is sent from going beyond it.

Main facts: `connection_updateConnection` (a write changes one connection) and
`sendAll_complete_iff` (what is sent reaches all unless one of them has no connection).
-/

namespace WindowTiling

/-! ## Channels -/

/-- What clients can subscribe to. -/
inductive Channel where
  | workspace
  | output
  | tiling
  deriving DecidableEq, Repr

namespace Channel

def name : Channel → String
  | workspace => "workspace"
  | output => "output"
  | tiling => "tiling"

def all : List Channel := [workspace, output, tiling]

def ofName? (s : String) : Option Channel := all.find? (·.name = s)

/-- The message type of what is sent on a channel. The highest bit tells it from a reply. -/
def messageType : Channel → UInt32
  | workspace => 0x80000000
  | output => 0x80000001
  | tiling => 0x80000064

end Channel

/-! ## Connections -/

/-- Refers to a connection. -/
structure ConnectionRef where
  index : Nat
  deriving DecidableEq, Repr, Inhabited

/-- The server's end of a connection. -/
structure Connection where
  incoming : ByteStream := {}
  /-- All that has been written to the client so far. -/
  written : List UInt8 := []
  /-- How many more bytes can be written; any number if none is given. -/
  room : Option Nat := none
  /-- The server has closed the connection. -/
  dropped : Bool := false
  deriving Repr, Inhabited

namespace Connection

/-- Write as many of the bytes as there is room for. The flag tells whether all were written. -/
def write (c : Connection) (bytes : List UInt8) : Connection × Bool :=
  if c.dropped then (c, false)
  else
    match c.room with
    | none => ({ c with written := c.written ++ bytes }, true)
    | some k =>
      ({ c with written := c.written ++ bytes.take k, room := some (k - bytes.length) },
        decide (bytes.length ≤ k))

/-- The client closes the connection: no more bytes come, and none can be written. -/
def hangUp (c : Connection) : Connection :=
  { c with incoming := { c.incoming with ended := true }, room := some 0 }

end Connection

/-! ## Servers -/

/-- The socket at which a server accepts connections. -/
inductive Listener where
  | absent
  /-- A socket that has got no address. -/
  | unaddressed
  | listening
  deriving DecidableEq, Repr, Inhabited

/-- The state of the server. -/
structure Server where
  listener : Listener := .absent
  connections : Roster ConnectionRef Connection := []
  /-- How many connections have been made. -/
  connectionCount : Nat := 0
  /-- Connections not yet accepted. -/
  waiting : List ConnectionRef := []
  clients : List ConnectionRef := []
  /-- The channels of those who have subscribed, in the order of first subscription. All who did
  so without a connection count as one. -/
  subscribers : Roster (Option ConnectionRef) (List Channel) := []
  deriving Repr, Inhabited

namespace Server

/-- The server can be connected to. -/
def listening (s : Server) : Bool := s.listener = .listening

/-- A connection. -/
def connection (s : Server) (c : ConnectionRef) : Connection := (s.connections.find? c).getD {}

/-- Change one connection. -/
def updateConnection (s : Server) (c : ConnectionRef) (f : Connection → Connection) : Server :=
  { s with connections := s.connections.insert c (f (s.connection c)) }

theorem connection_updateConnection (s : Server) (c v : ConnectionRef)
    (f : Connection → Connection) :
    (s.updateConnection c f).connection v =
      if v = c then f (s.connection v) else s.connection v := by
  simp only [connection, updateConnection, Roster.find?_insert]
  by_cases h : c = v
  · simp [h]
  · simp [h, Ne.symm h]

/-! ## From outside -/

/-- So many connections can wait. -/
def maxWaiting : Nat := 11

/-- Somebody connects and waits to be accepted. None if the server does not listen, or too many are
waiting. -/
def connect? (s : Server) : Option (Server × ConnectionRef) :=
  if s.listening && decide (s.waiting.length < maxWaiting) then
    let c : ConnectionRef := ⟨s.connectionCount⟩
    some ({ s with connectionCount := s.connectionCount + 1, waiting := s.waiting ++ [c] }, c)
  else none

/-- Bytes arrive on a connection. -/
def deliver (s : Server) (c : ConnectionRef) (bytes : List UInt8) : Server :=
  s.updateConnection c fun k => { k with incoming := k.incoming.arrive bytes }

/-- The client closes a connection. -/
def hangUp (s : Server) (c : ConnectionRef) : Server := s.updateConnection c Connection.hangUp

/-! ## Clients -/

/-- Close a connection and forget its client. -/
def drop (s : Server) (c : ConnectionRef) : Server :=
  { s.updateConnection c fun k => { k with dropped := true } with
    clients := s.clients.erase c
    subscribers := s.subscribers.erase (some c) }

/-- Accept the connection that has waited longest. -/
def accept (s : Server) : Server :=
  match s.waiting with
  | [] => s
  | c :: rest => { s with waiting := rest, clients := s.clients ++ [c] }

/-- Write to a client, which is dropped if not all can be written. -/
def send (s : Server) (c : ConnectionRef) (f : Frame) : Server :=
  let (k, complete) := (s.connection c).write f.encode
  let s := s.updateConnection c fun _ => k
  if complete then s else s.drop c

/-- Write to each in turn, up to the first that has no connection. The flag tells whether there was
none such. -/
def sendAll (s : Server) (f : Frame) : List (Option ConnectionRef) → Server × Bool
  | [] => (s, true)
  | none :: _ => (s, false)
  | some c :: rest => (s.send c f).sendAll f rest

theorem sendAll_complete_iff (s : Server) (f : Frame) (l : List (Option ConnectionRef)) :
    (s.sendAll f l).2 = true ↔ none ∉ l := by
  induction l generalizing s with
  | nil => simp [sendAll]
  | cons c l ih => cases c <;> simp [sendAll, ih]

/-- Write to the subscribers of a channel, in the order of first subscription. -/
def broadcast (s : Server) (channel : Channel) (payload : List UInt8) : Server × Bool :=
  s.sendAll ⟨channel.messageType, payload⟩
    ((s.subscribers.filter fun e => e.2.contains channel).map (·.1))

/-- Add to the channels of a subscriber, one entry for each time a new channel is named. -/
def subscribe (s : Server) (c : Option ConnectionRef) (channels : List Channel) : Server :=
  let existing := (s.subscribers.find? c).getD []
  { s with subscribers :=
      s.subscribers.insert c (existing ++ channels.filter fun k => !existing.contains k) }

/-! ## Starting and stopping -/

/-- Close connections that were never accepted. -/
def turnAway (s : Server) : Server :=
  { s.waiting.foldl (fun s c => s.updateConnection c fun k => { k with dropped := true }) s with
    waiting := [] }

/-- Have another socket. Clients are kept; those who wait at the old one are turned away. -/
def replaceListener (s : Server) (listener : Listener) : Server := { s.turnAway with listener }

/-- Listen anew. -/
def start (s : Server) : Server := s.replaceListener .listening

/-- Drop all clients and stop listening. -/
def stop (s : Server) : Server :=
  (s.clients.foldl drop s).replaceListener .absent

end Server

end WindowTiling
