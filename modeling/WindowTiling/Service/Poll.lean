import WindowTiling.Ipc.Listening
import WindowTiling.Service.Request

/-!
# Serving clients

A round of serving accepts one waiting connection and then reads one message from each client
that has sent something, in the order in which the clients were accepted. A client accepted in a
round is first read in the next one. A client that breaks off, or sends something that is no
message, is dropped. Of a message that has not arrived completely, the part that was read is
lost. At a socket without address a round fails before anybody is served.

Main facts: `poll_of_not_listening` (a server that does not listen serves nobody) and
`tryPolls_of_acceptError?_eq_none` (rounds fail only where nobody can be accepted).
-/

namespace WindowTiling

/-- What reading from a client comes to. -/
inductive Reading where
  | frame (frame : Frame)
  /-- Nothing complete has arrived. -/
  | incomplete
  /-- The client has broken off, or sent no message. -/
  | broken
  deriving DecidableEq, Repr

namespace ByteStream

/-- Read the payload that a header announces. -/
def readPayload (header : Header) (s : ByteStream) : Reading × ByteStream :=
  match s.receiveExactly header.length with
  | (.bytes payload, s) => (.frame ⟨header.type, payload⟩, s)
  | (.nothing, s) => (.incomplete, s)
  | (.closed, s) => (.broken, s)

/-- Read one message. The header has to come at once. -/
def readFrame (s : ByteStream) : Reading × ByteStream :=
  match s.receive headerSize with
  | (.nothing, s) => (.incomplete, s)
  | (.closed, s) => (.broken, s)
  | (.bytes bytes, s) =>
    if bytes.length < headerSize then (.broken, s)
    else
      match Header.read? bytes with
      | none => (.broken, s)
      | some header => s.readPayload header

end ByteStream

namespace Service

/-- Read one message from a client and answer it. -/
def serve (s : Service) (c : ConnectionRef) : Service :=
  let connection := s.server.connection c
  if connection.dropped then { s with server := s.server.drop c }
  else
    let (reading, incoming) := connection.incoming.readFrame
    let s := { s with server := s.server.updateConnection c fun k => { k with incoming } }
    match reading with
    | .incomplete => s
    | .broken => { s with server := s.server.drop c }
    | .frame f =>
      let (answer, s) := s.reply (some c) f.type.toNat f.payload
      { s with server := s.server.send c ⟨f.type, answer.payload⟩ }

/-- The clients whose connections can be read from. -/
def readable (s : Service) : List ConnectionRef :=
  s.server.clients.filter fun c => (s.server.connection c).incoming.ready

/-- One round of serving. -/
def poll (s : Service) : Service :=
  if s.server.listening then
    s.readable.foldl serve { s with server := s.server.accept }
  else s

theorem poll_of_not_listening {s : Service} (h : s.server.listening = false) : s.poll = s := by
  simp [poll, h]

/-- Several rounds. -/
def polls (s : Service) : Nat → Service
  | 0 => s
  | n + 1 => s.poll.polls n

/-- Several rounds, or why there are none. -/
def tryPolls (s : Service) (n : Nat) : Except AcceptError Service :=
  match n, s.server.acceptError? with
  | _ + 1, some e => .error e
  | _, _ => .ok (s.polls n)

theorem tryPolls_of_acceptError?_eq_none {s : Service} (h : s.server.acceptError? = none)
    (n : Nat) : s.tryPolls n = .ok (s.polls n) := by
  cases n <;> simp [tryPolls, h]

end Service

end WindowTiling
