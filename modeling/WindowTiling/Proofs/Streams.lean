import WindowTiling.Ipc.Client
import WindowTiling.Service.Poll

/-!
# Reading from streams

However the bytes of a stream come apart when they are read, an exact number of them is read off the
front if they are there, and all of them are used up if they are not.

**Theorem (`readFrame_of_unread`).** From a stream on which a message comes next, the server reads
this message if the stream *holds a frame*: the first reading gets all of the header, and the
payload has arrived. **Theorem (`readFrame_of_not_holdsFrame`).** Otherwise it reads none, and loses
bytes.

A server that reads this way does not wait for the rest of a message.
-/

namespace WindowTiling

namespace ByteStream

variable {s : ByteStream}

/-! ## Single readings -/

theorem receive_of_unread_eq_nil (h : s.unread = []) (limit : Nat) :
    s.receive limit = (if s.ended then .closed else .nothing, ⟨[], s.ended⟩) := by
  obtain ⟨pieces, ended⟩ := s
  simp only [receive, unread] at h ⊢
  induction pieces with
  | nil => rfl
  | cons piece rest ih =>
    obtain ⟨rfl, hrest⟩ := List.append_eq_nil_iff.1 (List.flatten_cons.symm.trans h)
    exact ih hrest

theorem ended_receive (s : ByteStream) (limit : Nat) : (s.receive limit).2.ended = s.ended := by
  obtain ⟨pieces, ended⟩ := s
  simp only [receive]
  induction pieces with
  | nil => rfl
  | cons piece rest ih =>
    cases piece with
    | nil => exact ih
    | cons b bs => rfl

theorem exists_receive (h : s.unread ≠ []) (limit : Nat) :
    ∃ bytes rest, s.receive limit = (.bytes bytes, rest) := by
  obtain ⟨pieces, ended⟩ := s
  simp only [receive, unread] at h ⊢
  induction pieces with
  | nil => exact absurd rfl h
  | cons piece rest ih =>
    cases piece with
    | nil => exact ih h
    | cons b bs => exact ⟨_, _, rfl⟩

/-! ## Exact numbers of bytes -/

/-- **The bytes that are there are read.** -/
theorem receiveExactly_of_le {n : Nat} (h : n ≤ s.unread.length) :
    ∃ rest, s.receiveExactly n = (.bytes (s.unread.take n), rest) ∧
      rest.unread = s.unread.drop n ∧ rest.ended = s.ended := by
  induction n using Nat.strongRecOn generalizing s with
  | ind n ih =>
    cases n with
    | zero => exact ⟨s, by rw [receiveExactly, List.take_zero], rfl, rfl⟩
    | succ n =>
      have hne : s.unread ≠ [] := List.ne_nil_of_length_pos (Nat.lt_of_lt_of_le n.succ_pos h)
      obtain ⟨bytes, rest, hreceive⟩ := exists_receive hne (n + 1)
      have hended : rest.ended = s.ended := by
        simpa [hreceive] using s.ended_receive (n + 1)
      have happend := receive_append hreceive
      have hlength := receive_length n.succ_pos hreceive
      rw [← happend, List.length_append] at h
      -- A reading gets a byte at least, so there is less left to read.
      obtain ⟨rest', hrest, hunread, hended'⟩ :=
        ih (n - (bytes.length - 1)) (by omega) (s := rest) (by omega)
      have hcount : n - (bytes.length - 1) = n + 1 - bytes.length := by omega
      refine ⟨rest', ?_, ?_, hended'.trans hended⟩
      · rw [receiveExactly, hreceive]
        dsimp only
        rw [hrest, ← happend, List.take_append, List.take_of_length_le hlength.2, hcount]
      · rw [hunread, ← happend, List.drop_append, List.drop_of_length_le hlength.2, hcount,
          List.nil_append]

/-- **Where there are too few bytes, they are lost.** -/
theorem receiveExactly_of_lt {n : Nat} (h : s.unread.length < n) :
    ∃ rest, s.receiveExactly n = (if s.ended then .closed else .nothing, rest) ∧
      rest.unread = [] ∧ rest.ended = s.ended := by
  induction n using Nat.strongRecOn generalizing s with
  | ind n ih =>
    cases n with
    | zero => exact absurd h (Nat.not_lt_zero _)
    | succ n =>
      by_cases hne : s.unread = []
      · refine ⟨⟨[], s.ended⟩, ?_, rfl, rfl⟩
        rw [receiveExactly, receive_of_unread_eq_nil hne]
        cases s.ended <;> rfl
      · obtain ⟨bytes, rest, hreceive⟩ := exists_receive hne (n + 1)
        have hended : rest.ended = s.ended := by
          simpa [hreceive] using s.ended_receive (n + 1)
        have happend := receive_append hreceive
        have hlength := receive_length n.succ_pos hreceive
        rw [← happend, List.length_append] at h
        obtain ⟨rest', hrest, hunread, hended'⟩ :=
          ih (n - (bytes.length - 1)) (by omega) (s := rest) (by omega)
        refine ⟨rest', ?_, hunread, hended'.trans hended⟩
        rw [receiveExactly, hreceive]
        dsimp only
        rw [hrest, hended]
        by_cases he : s.ended = true <;> simp [he]

theorem ended_receiveExactly (n : Nat) (s : ByteStream) :
    (s.receiveExactly n).2.ended = s.ended := by
  rcases Nat.lt_or_ge s.unread.length n with h | h
  · obtain ⟨rest, hrest, -, hended⟩ := receiveExactly_of_lt h
    rw [hrest]
    exact hended
  · obtain ⟨rest, hrest, -, hended⟩ := receiveExactly_of_le h
    rw [hrest]
    exact hended

end ByteStream

/-! ## Messages -/

/-- With what the first reading gets, a whole message can be read: it is all of the header, and the
payload that this announces is there. -/
def Receipt.BeginsFrame (rest : ByteStream) : Receipt → Prop
  | .bytes received => received.length = headerSize ∧
    ∃ header ∈ Header.read? received, header.length ≤ rest.unread.length
  | .nothing | .closed => False

instance (rest : ByteStream) (receipt : Receipt) : Decidable (receipt.BeginsFrame rest) :=
  match receipt with
  | .bytes received => inferInstanceAs (Decidable (received.length = headerSize ∧
      ∃ header ∈ Header.read? received, header.length ≤ rest.unread.length))
  | .nothing | .closed => inferInstanceAs (Decidable False)

namespace ByteStream

/-- The server can read a whole message at once. -/
def HoldsFrame (s : ByteStream) : Prop :=
  (s.receive headerSize).1.BeginsFrame (s.receive headerSize).2

instance : DecidablePred HoldsFrame := fun s =>
  inferInstanceAs (Decidable ((s.receive headerSize).1.BeginsFrame _))

variable {s : ByteStream}

theorem ended_readPayload (header : Header) (s : ByteStream) :
    (s.readPayload header).2.ended = s.ended := by
  rw [← ended_receiveExactly header.length s, readPayload]
  rcases s.receiveExactly header.length with ⟨bytes | _ | _, rest⟩ <;> rfl

theorem ended_readFrame (s : ByteStream) : s.readFrame.2.ended = s.ended := by
  rw [← s.ended_receive headerSize, readFrame]
  rcases s.receive headerSize with ⟨bytes | _ | _, rest⟩
  · dsimp only
    split
    · rfl
    · cases Header.read? bytes with
      | none => rfl
      | some header => exact ended_readPayload header rest
  · rfl
  · rfl

theorem readFrame_of_unread_eq_nil (h : s.unread = []) (hended : s.ended = false) :
    s.readFrame = (.incomplete, ⟨[], false⟩) := by
  rw [readFrame, receive_of_unread_eq_nil h, hended]
  rfl

/-- **A message is read from a stream that holds one**, and is what is used up. -/
theorem readFrame_of_holdsFrame (h : s.HoldsFrame) :
    ∃ f rest, s.readFrame = (.frame f, rest) ∧
      f.encode.length + rest.unread.length = s.unread.length ∧ rest.ended = s.ended := by
  have hended := s.ended_receive headerSize
  rw [HoldsFrame] at h
  rcases hreceive : s.receive headerSize with ⟨bytes | _ | _, rest⟩ <;>
    simp only [hreceive] at h hended
  · obtain ⟨hlength, header, hheader, hle⟩ := h
    obtain ⟨rest', hrest, hunread, hended'⟩ := receiveExactly_of_le hle
    refine ⟨⟨header.type, rest.unread.take header.length⟩, rest', ?_, ?_, hended'.trans hended⟩
    · rw [readFrame, hreceive]
      dsimp only
      rw [if_neg (by omega), Option.mem_def.1 hheader]
      dsimp only
      rw [readPayload, hrest]
    · rw [← receive_append hreceive, hunread, Frame.encode, List.length_append,
        Frame.length_header, List.length_take, List.length_append, List.length_drop, hlength]
      omega
  · exact h.elim
  · exact h.elim

/-- **The message that comes next is read from a stream that holds one**, whatever comes later. -/
theorem readFrame_of_unread {f : Frame} (h : s.HoldsFrame) (hf : f.payload.length < wordBound)
    (later more : List UInt8) (hunread : s.unread ++ later = f.encode ++ more) :
    ∃ rest, s.readFrame = (.frame f, rest) ∧ rest.unread ++ later = more := by
  rw [HoldsFrame] at h
  rcases hreceive : s.receive headerSize with ⟨bytes | _ | _, rest⟩ <;>
    simp only [hreceive] at h
  · obtain ⟨hlength, header, hheader, hle⟩ := h
    -- The first reading gets just the header, so that the payload is next.
    have happend : bytes ++ (rest.unread ++ later) = f.header ++ (f.payload ++ more) := by
      rw [← List.append_assoc, receive_append hreceive, hunread, Frame.encode, List.append_assoc]
    obtain ⟨rfl, hrest⟩ := List.append_inj happend hlength
    obtain rfl : ⟨f.payload.length, f.type⟩ = header := by
      simpa [Header.read?_header hf] using hheader
    obtain ⟨rest', hpayload, hunread', -⟩ := receiveExactly_of_le hle
    have htake : rest.unread.take f.payload.length = f.payload := by
      rw [← List.take_append_of_le_length hle, hrest, List.take_left]
    refine ⟨rest', ?_, ?_⟩
    · rw [readFrame, hreceive]
      dsimp only
      rw [if_neg (by omega), Header.read?_header hf]
      dsimp only
      rw [readPayload, hpayload, htake]
    · rw [hunread', ← List.drop_append_of_le_length hle, hrest, List.drop_left]
  · exact h.elim
  · exact h.elim

theorem holdsFrame_of_piece {f : Frame} (hf : f.payload.length < wordBound) (more : List UInt8)
    (ended : Bool) : HoldsFrame ⟨[f.encode ++ more], ended⟩ := by
  have hreceive : receive headerSize ⟨[f.encode ++ more], ended⟩ =
      (.bytes f.header, ⟨[f.payload ++ more], ended⟩) := rfl
  rw [HoldsFrame, hreceive]
  exact ⟨f.length_header, _, Header.read?_header hf, by simp [unread]⟩

theorem receiveExactly_piece {n : Nat} {piece : List UInt8} (h : n ≤ piece.length) (ended : Bool) :
    receiveExactly n ⟨[piece], ended⟩ = (.bytes (piece.take n), ⟨[piece.drop n], ended⟩) := by
  cases n with
  | zero => rw [receiveExactly, List.take_zero, List.drop_zero]
  | succ n =>
    cases piece with
    | nil => exact absurd h (Nat.not_succ_le_zero n)
    | cons b bs =>
      have hreceive : receive (n + 1) ⟨[b :: bs], ended⟩ =
          (.bytes ((b :: bs).take (n + 1)), ⟨[(b :: bs).drop (n + 1)], ended⟩) := rfl
      rw [receiveExactly, hreceive]
      dsimp only
      rw [List.length_take, Nat.min_eq_left h, Nat.add_sub_cancel, Nat.sub_self, receiveExactly]
      dsimp only
      rw [List.append_nil]

theorem readFrame_piece {f : Frame} (hf : f.payload.length < wordBound) (more : List UInt8)
    (ended : Bool) : readFrame ⟨[f.encode ++ more], ended⟩ = (.frame f, ⟨[more], ended⟩) := by
  have hreceive : receive headerSize ⟨[f.encode ++ more], ended⟩ =
      (.bytes f.header, ⟨[f.payload ++ more], ended⟩) := rfl
  rw [readFrame, hreceive]
  dsimp only
  rw [if_neg (by simp), Header.read?_header hf]
  dsimp only
  rw [readPayload, receiveExactly_piece (by simp), List.take_left, List.drop_left]

/-- **From a stream that holds no message none is read, and something is lost.** -/
theorem readFrame_of_not_holdsFrame (h : ¬s.HoldsFrame) (hne : s.unread ≠ []) :
    (∀ f, s.readFrame.1 ≠ .frame f) ∧ s.readFrame.2.unread.length < s.unread.length := by
  obtain ⟨bytes, rest, hreceive⟩ := exists_receive hne headerSize
  have happend := receive_append hreceive
  have hlength := receive_length (by decide) hreceive
  simp only [HoldsFrame, hreceive] at h
  have hlost : rest.unread.length < s.unread.length := by
    rw [← happend, List.length_append]
    omega
  rw [readFrame, hreceive]
  dsimp only
  split
  · exact ⟨fun f => Reading.noConfusion, hlost⟩
  · next hlong =>
    cases hheader : Header.read? bytes with
    | none => exact ⟨fun f => Reading.noConfusion, hlost⟩
    | some header =>
      have hlt : rest.unread.length < header.length :=
        Nat.lt_of_not_le fun hle => h ⟨by omega, header, hheader, hle⟩
      obtain ⟨rest', hrest, hunread, -⟩ := receiveExactly_of_lt hlt
      have hlost : rest'.unread.length < s.unread.length := by
        rw [hunread]
        exact List.length_pos_iff.2 hne
      dsimp only
      rw [readPayload, hrest]
      cases rest.ended <;> exact ⟨fun f => Reading.noConfusion, hlost⟩

end ByteStream

/-! ## Replies -/

section Replies

variable {s : ByteStream} {more : List UInt8}

theorem receiveReply_of_le {n : Nat} (h : n ≤ s.unread.length) :
    ∃ rest, receiveReply n s = .ok (s.unread.take n, rest) ∧ rest.unread = s.unread.drop n ∧
      rest.ended = s.ended := by
  obtain ⟨rest, hread, hunread, hended⟩ := ByteStream.receiveExactly_of_le h
  exact ⟨rest, by rw [receiveReply, hread], hunread, hended⟩

theorem receiveReply_of_lt {n : Nat} (hended : s.ended = true) (h : s.unread.length < n) :
    receiveReply n s = .error .closed := by
  obtain ⟨rest, hread, -, -⟩ := ByteStream.receiveExactly_of_lt h
  rw [receiveReply, hread, if_pos hended]

theorem receiveReply_of_unread {bytes : List UInt8} (h : s.unread = bytes ++ more) :
    ∃ rest, receiveReply bytes.length s = .ok (bytes, rest) ∧ rest.unread = more := by
  have hle : bytes.length ≤ s.unread.length := by
    rw [h, List.length_append]
    exact Nat.le_add_right _ _
  obtain ⟨rest, hread, hrest, -⟩ := receiveReply_of_le hle
  rw [h, List.take_left] at hread
  rw [h, List.drop_left] at hrest
  exact ⟨rest, hread, hrest⟩

/-- **A client reads the message that comes next**, and no more. -/
theorem readReplyFrame_of_unread {f : Frame} (hf : f.payload.length < wordBound)
    (h : s.unread = f.encode ++ more) :
    ∃ rest, readReplyFrame s = .ok (f, rest) ∧ rest.unread = more := by
  rw [Frame.encode, List.append_assoc] at h
  obtain ⟨rest, hheader, hrest⟩ := receiveReply_of_unread h
  obtain ⟨rest', hpayload, hrest'⟩ := receiveReply_of_unread hrest
  rw [f.length_header] at hheader
  refine ⟨rest', ?_, hrest'⟩
  rw [readReplyFrame, hheader]
  simp only [bind, Except.bind, Header.read?_header hf, hpayload, pure, Except.pure]

/-- Read a reply for each of so many calls, one after the other. -/
def readReplyFrames : Nat → ByteStream → Except ClientError (List Frame × ByteStream)
  | 0, s => .ok ([], s)
  | n + 1, s => do
    let (f, s) ← readReplyFrame s
    let (fs, s) ← readReplyFrames n s
    return (f :: fs, s)

theorem readReplyFrames_of_unread {fs : List Frame} (hfs : ∀ f ∈ fs, f.payload.length < wordBound)
    (h : s.unread = fs.flatMap Frame.encode ++ more) :
    ∃ rest, readReplyFrames fs.length s = .ok (fs, rest) ∧ rest.unread = more := by
  induction fs generalizing s with
  | nil => exact ⟨s, rfl, h⟩
  | cons f fs ih =>
    rw [List.flatMap_cons, List.append_assoc] at h
    obtain ⟨rest, hread, hrest⟩ := readReplyFrame_of_unread (hfs f (List.mem_cons_self ..)) h
    obtain ⟨rest', hreads, hrest'⟩ := ih (fun g hg => hfs g (List.mem_cons_of_mem _ hg)) hrest
    refine ⟨rest', ?_, hrest'⟩
    rw [List.length_cons, readReplyFrames, hread]
    simp only [bind, Except.bind, hreads, pure, Except.pure]

/-- What so many calls return. Each reads one message and returns the value in it; after one that
reads none there are no more. -/
def returned : Nat → ByteStream → List (Except ClientError Json)
  | 0, _ => []
  | n + 1, s =>
    match readReplyFrame s with
    | .error e => [.error e]
    | .ok (f, s) => replyValue f :: returned n s

theorem returned_of_readReplyFrames {n : Nat} {fs : List Frame} {rest : ByteStream}
    (h : readReplyFrames n s = .ok (fs, rest)) : returned n s = fs.map replyValue := by
  induction n generalizing s fs with
  | zero =>
    obtain ⟨rfl, -⟩ := Prod.mk.inj (Except.ok.inj h)
    rfl
  | succ n ih =>
    rw [readReplyFrames] at h
    rw [returned]
    cases hread : readReplyFrame s with
    | error e => simp [hread, bind, Except.bind] at h
    | ok r =>
      obtain ⟨f, s'⟩ := r
      simp only [hread, bind, Except.bind] at h
      cases hreads : readReplyFrames n s' with
      | error e => simp [hreads] at h
      | ok r =>
        obtain ⟨gs, s''⟩ := r
        simp only [hreads, pure, Except.pure, Except.ok.injEq, Prod.mk.injEq] at h
        obtain ⟨rfl, rfl⟩ := h
        exact congrArg (replyValue f :: ·) (ih hreads)

end Replies

end WindowTiling
