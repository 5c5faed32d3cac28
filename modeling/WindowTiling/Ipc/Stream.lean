/-!
# Byte streams

The bytes on their way to one end of a connection. They arrive in pieces, and one reading gets
bytes of one piece only. Reading an exact number of bytes goes on until they are all there, or
nothing is, or the sender has closed its end.

Main facts: `receive_append` (nothing is lost or reordered) and `receive_length` (a reading gets
at least one byte and no more than it asks for).
-/

namespace WindowTiling

/-- Bytes that have arrived and are not read yet, and whether more can come. -/
structure ByteStream where
  pieces : List (List UInt8) := []
  /-- The sender has closed its end. -/
  ended : Bool := false
  deriving DecidableEq, Repr, Inhabited

/-- What a reading gets. -/
inductive Receipt where
  | bytes (bytes : List UInt8)
  /-- Nothing has arrived yet. -/
  | nothing
  /-- Nothing will arrive any more. -/
  | closed
  deriving DecidableEq, Repr

namespace ByteStream

/-- All bytes not read yet. -/
def unread (s : ByteStream) : List UInt8 := s.pieces.flatten

/-- A reading would get bytes or learn that there will be none. -/
def ready (s : ByteStream) : Bool := !s.unread.isEmpty || s.ended

/-- Bytes arrive; they are read together with those that were waiting. -/
def arrive (s : ByteStream) (bytes : List UInt8) : ByteStream :=
  { s with pieces := [s.unread ++ bytes] }

/-- Read from the first piece that holds any bytes. -/
def receiveFrom (limit : Nat) (ended : Bool) : List (List UInt8) → Receipt × ByteStream
  | [] => (if ended then .closed else .nothing, ⟨[], ended⟩)
  | [] :: rest => receiveFrom limit ended rest
  | (b :: bs) :: rest => (.bytes ((b :: bs).take limit), ⟨(b :: bs).drop limit :: rest, ended⟩)

/-- Read at most `limit` bytes. -/
def receive (limit : Nat) (s : ByteStream) : Receipt × ByteStream :=
  receiveFrom limit s.ended s.pieces

/-- What is read comes off the front of what was there. -/
theorem receive_append {limit : Nat} {s s' : ByteStream} {bytes : List UInt8}
    (h : s.receive limit = (.bytes bytes, s')) : bytes ++ s'.unread = s.unread := by
  obtain ⟨pieces, ended⟩ := s
  simp only [receive, unread] at h ⊢
  induction pieces with
  | nil => simp only [receiveFrom] at h; split at h <;> simp at h
  | cons p rest ih =>
    cases p with
    | nil => simpa using ih h
    | cons b bs =>
      simp only [receiveFrom, Prod.mk.injEq, Receipt.bytes.injEq] at h
      rw [← h.1, ← h.2, List.flatten_cons, ← List.append_assoc, List.take_append_drop,
        List.flatten_cons]

/-- A reading gets at least one byte and no more than it asks for. -/
theorem receive_length {limit : Nat} {s s' : ByteStream} {bytes : List UInt8} (hl : 0 < limit)
    (h : s.receive limit = (.bytes bytes, s')) : 0 < bytes.length ∧ bytes.length ≤ limit := by
  obtain ⟨pieces, ended⟩ := s
  simp only [receive] at h
  induction pieces with
  | nil => simp only [receiveFrom] at h; split at h <;> simp at h
  | cons p rest ih =>
    cases p with
    | nil => exact ih h
    | cons b bs =>
      simp only [receiveFrom, Prod.mk.injEq, Receipt.bytes.injEq] at h
      rw [← h.1, List.length_take, List.length_cons]
      omega

/-! ## Exact numbers of bytes -/

/-- Read exactly `n` bytes. On failure what was read is lost. -/
def receiveExactly (n : Nat) (s : ByteStream) : Receipt × ByteStream :=
  match n with
  | 0 => (.bytes [], s)
  | n + 1 =>
    match s.receive (n + 1) with
    | (.bytes bytes, s') =>
      match receiveExactly (n - (bytes.length - 1)) s' with
      | (.bytes more, s'') => (.bytes (bytes ++ more), s'')
      | failure => failure
    | failure => failure
termination_by n
decreasing_by omega

end ByteStream

end WindowTiling
