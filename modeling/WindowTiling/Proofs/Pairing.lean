import WindowTiling.Proofs.Framing

/-!
# Which reply a call returns

A call of a client sends one message and returns the value in the next message that it reads
(`replyValue`), whatever that is. All that is sent to the client comes to it in order, the news of
its channels among the answers. So is what a call returns the answer to its own message?

**Theorem (`paired_iff`).** Each of a client's calls returns the answer to its own message exactly
if the client is read in step, and no news is sent to it before the answer to its last message.

**Theorem (`paired_of_unsubscribed`).** So it is for a client that is read in step, has not
subscribed to a channel and does not do so.

News that comes earlier is taken for an answer, and from then on each call returns what was meant
for the one before it. The messages differ at least in type, since no message that asks for
something has the type of an event.
-/

namespace WindowTiling

namespace Service

/-- The answers in mail. -/
def answersIn (mail : List Letter) : List Frame :=
  (mail.filter fun l => l.request?.isSome).map Letter.frame

/-- These are the messages that are answered, and so many calls that read from the stream get the
answers, one each and in order. -/
structure Paired (c : ConnectionRef) (s : Service) (run : List Happening) (fs : List Frame)
    (stream : ByteStream) : Prop where
  requests_eq : requestsIn (mail c s run) = fs
  replies_eq : ∃ rest, readReplyFrames fs.length stream = .ok (answersIn (mail c s run), rest)
  returned_eq : returned fs.length stream = (answersIn (mail c s run)).map replyValue

/-! ## Letters and what they hold -/

section Letters

variable {ls : List Letter}

theorem length_requestsIn (ls : List Letter) :
    (requestsIn ls).length = (ls.filter fun l => l.request?.isSome).length := by
  rw [requestsIn, List.length_filterMap_eq_countP, List.countP_eq_length_filter]

theorem type_mem_of_mem_answersIn {f : Frame} (hf : f ∈ answersIn ls) :
    ∃ request ∈ requestsIn ls, f.type = request.type := by
  obtain ⟨l, hl, rfl⟩ := List.mem_map.1 hf
  obtain ⟨hl, hsome⟩ := List.mem_filter.1 hl
  cases l with
  | news n => exact absurd hsome (by simp [Letter.request?])
  | answer request a => exact ⟨request, List.mem_filterMap.2 ⟨_, hl, rfl⟩, rfl⟩

/-- If the first letters, as many as there are answers, are answers, then they are all of them. -/
theorem answersIn_eq_take (h : ∀ l ∈ ls.take (requestsIn ls).length, l.request?.isSome = true) :
    answersIn ls = (ls.take (requestsIn ls).length).map Letter.frame := by
  have hcount := length_requestsIn ls
  have hle : (requestsIn ls).length ≤ ls.length := hcount ▸ List.length_filter_le ..
  generalize (requestsIn ls).length = n at *
  have hsplit : (ls.filter fun l => l.request?.isSome) =
      ls.take n ++ (ls.drop n).filter fun l => l.request?.isSome := by
    conv_lhs => rw [← List.take_append_drop n ls, List.filter_append, List.filter_eq_self.2 h]
  have hrest : ((ls.drop n).filter fun l => l.request?.isSome) = [] := by
    refine List.eq_nil_of_length_eq_zero ?_
    rw [hsplit, List.length_append, List.length_take] at hcount
    omega
  rw [answersIn, hsplit, hrest, List.append_nil]

theorem forall_take_of_answersIn_eq
    (htypes : ∀ f ∈ requestsIn ls, ∀ channel : Channel, f.type ≠ channel.messageType)
    (h : answersIn ls = (ls.take (requestsIn ls).length).map Letter.frame) :
    ∀ l ∈ ls.take (requestsIn ls).length, l.request?.isSome = true := by
  intro l hl
  obtain ⟨request, hrequest, htype⟩ :=
    type_mem_of_mem_answersIn (h ▸ List.mem_map_of_mem hl : l.frame ∈ answersIn ls)
  cases l with
  | news n => exact absurd htype.symm (htypes request hrequest n.1)
  | answer request a => rfl

end Letters

/-! ## Clients that do not subscribe -/

section Unsubscribed

variable {s : Service} {c : ConnectionRef}

theorem newsLetters_of_unsubscribed (hc : some c ∉ s.server.subscribers.keys) (news : List News) :
    s.newsLetters c news = [] := by
  simp [newsLetters, Server.newsFor, Server.subscribed, Roster.find?_eq_none hc]

theorem unsubscribed_requested {server : Server} (hc : some c ∉ server.subscribers.keys)
    {v : ConnectionRef} {type : Int}
    (h : v = c → Request.ofType? type ≠ some .subscribe) (payload : List UInt8) :
    some c ∉ (server.requested (some v) type payload).subscribers.keys := by
  rw [Server.requested]
  split
  · next hsubscribe _ =>
    intro hmem
    obtain ⟨e, he, hkey⟩ := List.mem_map.1 hmem
    rcases Roster.mem_of_mem_insert he with rfl | he
    · exact h (Option.some_inj.1 hkey) hsubscribe
    · exact hc (hkey ▸ List.mem_map_of_mem he)
  · exact hc

theorem unsubscribed_serve (hs : s.server.Sound) (hc : some c ∉ s.server.subscribers.keys)
    (v : ConnectionRef)
    (hv : ∀ f ∈ requestsIn (s.mailOfServe c v), Request.ofType? f.type.toNat ≠ some .subscribe) :
    some c ∉ (s.serve v).server.subscribers.keys ∧
      ∀ l ∈ s.mailOfServe c v, l.request?.isSome = true := by
  by_cases hdropped : (s.server.connection v).dropped = true
  · rw [serve_of_dropped hdropped, mailOfServe, if_pos hdropped]
    exact ⟨fun hmem => hc ((s.server.keys_drop_sublist v).subset hmem), fun l hl => by simp at hl⟩
  · rw [mailOfServe, if_neg hdropped] at hv ⊢
    rw [Bool.not_eq_true] at hdropped
    rcases hread : (s.server.connection v).incoming.readFrame with ⟨f | _ | _, rest⟩
    · rw [hread] at hv
      dsimp only at hv ⊢
      rw [newsLetters_of_unsubscribed hc, List.nil_append] at hv ⊢
      have hrelayed : some c ∉ ((s.received v rest).relay (s.answeredTo f).news).subscribers.keys :=
        fun hmem => hc ((Server.keys_relay_sublist (s.received v rest) _).subset hmem)
      have hv' : v = c → Request.ofType? f.type.toNat ≠ some .subscribe :=
        fun heq => hv f (by simp [heq, requestsIn, Letter.request?])
      have hrequested := unsubscribed_requested hrelayed hv' f.payload
      rw [serve_of_frame hs.connected hdropped hread]
      refine ⟨fun hmem => hrequested ((Server.keys_send_sublist _ _ _).subset hmem), fun l hl => ?_⟩
      split at hl
      · rw [List.mem_singleton.1 hl]
        rfl
      · exact absurd hl List.not_mem_nil
    · rw [serve_of_incomplete hdropped hread]
      exact ⟨hc, fun l hl => absurd hl List.not_mem_nil⟩
    · rw [serve_of_broken hdropped hread]
      exact ⟨fun hmem => hc ((Server.keys_drop_sublist _ v).subset hmem),
        fun l hl => absurd hl List.not_mem_nil⟩

theorem unsubscribed_serves (hs : s.server.Sound) (hc : some c ∉ s.server.subscribers.keys)
    (vs : List ConnectionRef)
    (hv : ∀ f ∈ requestsIn (mailOfServes c s vs), Request.ofType? f.type.toNat ≠ some .subscribe) :
    some c ∉ (vs.foldl serve s).server.subscribers.keys ∧
      ∀ l ∈ mailOfServes c s vs, l.request?.isSome = true := by
  induction vs generalizing s with
  | nil => exact ⟨hc, fun l hl => absurd hl List.not_mem_nil⟩
  | cons v vs ih =>
    rw [mailOfServes, requestsIn_append, List.forall_mem_append] at hv
    obtain ⟨hfirst, hanswers⟩ := unsubscribed_serve hs hc v hv.1
    obtain ⟨hrest, hanswers'⟩ := ih ((follows_serve hs v).sound hs) hfirst hv.2
    exact ⟨hrest, List.forall_mem_append.2 ⟨hanswers, hanswers'⟩⟩

theorem unsubscribed_happen (hs : s.server.Sound) (hc : some c ∉ s.server.subscribers.keys)
    (x : Happening)
    (hx : ∀ f ∈ requestsIn (s.mailOf c x), Request.ofType? f.type.toNat ≠ some .subscribe) :
    some c ∉ (s.happen x).server.subscribers.keys ∧
      ∀ l ∈ s.mailOf c x, l.request?.isSome = true := by
  cases x with
  | step e =>
    rw [happen, step_of_connected hs.connected, mailOf, newsLetters_of_unsubscribed hc]
    exact ⟨fun hmem => hc ((Server.keys_relay_sublist _ _).subset hmem),
      fun l hl => absurd hl List.not_mem_nil⟩
  | connect =>
    refine ⟨?_, fun l hl => absurd hl List.not_mem_nil⟩
    rw [happen]
    cases hconnect : s.server.connect? with
    | none => exact hc
    | some r =>
      obtain ⟨-, -, hserver⟩ := Server.connect?_eq_some hconnect
      rw [server_withServer, hserver]
      exact hc
  | arrive v bytes cuts => exact ⟨hc, fun l hl => absurd hl List.not_mem_nil⟩
  | hangUp v => exact ⟨hc, fun l hl => absurd hl List.not_mem_nil⟩
  | poll =>
    rw [mailOf] at hx ⊢
    show some c ∉ s.poll.server.subscribers.keys ∧ _
    rw [poll]
    split
    · next hlistening =>
      rw [if_pos hlistening] at hx
      exact unsubscribed_serves (s := s.withServer s.server.accept) (Server.sound_accept hs)
        (by simpa using hc) _ hx
    · exact ⟨hc, fun l hl => absurd hl List.not_mem_nil⟩

/-- **A client that does not subscribe is sent answers only.** -/
theorem isSome_of_unsubscribed (hs : s.server.Sound) (hc : some c ∉ s.server.subscribers.keys)
    (run : List Happening)
    (hrun : ∀ f ∈ requestsIn (mail c s run), Request.ofType? f.type.toNat ≠ some .subscribe) :
    ∀ l ∈ mail c s run, l.request?.isSome = true := by
  induction run generalizing s with
  | nil => exact fun l hl => absurd hl List.not_mem_nil
  | cons x run ih =>
    rw [mail, requestsIn_append, List.forall_mem_append] at hrun
    obtain ⟨hfirst, hanswers⟩ := unsubscribed_happen hs hc x hrun.1
    exact List.forall_mem_append.2 ⟨hanswers, ih (sound_happen hs x) hfirst hrun.2⟩

end Unsubscribed

/-! ## Calls -/

theorem readReplyFrames_of_mailBytes {stream : ByteStream} {ls : List Letter} {n : Nat}
    (hls : ∀ l ∈ ls, l.frame.payload.length < wordBound) (hn : n ≤ ls.length)
    (h : stream.unread = mailBytes ls) :
    ∃ rest, readReplyFrames n stream = .ok ((ls.take n).map Letter.frame, rest) := by
  have hunread : stream.unread =
      ((ls.take n).map Letter.frame).flatMap Frame.encode ++ mailBytes (ls.drop n) := by
    rw [List.flatMap_map, h]
    conv_lhs => rw [← List.take_append_drop n ls, mailBytes_append]
    rfl
  obtain ⟨rest, hread, -⟩ := readReplyFrames_of_unread (fun f hf => by
    obtain ⟨l, hl, rfl⟩ := List.mem_map.1 hf
    exact hls l (List.mem_of_mem_take hl)) hunread
  rw [List.length_map, List.length_take, Nat.min_eq_left hn] at hread
  exact ⟨rest, hread⟩

section Calls

variable {s : Service} {c : ConnectionRef} {run : List Happening} {rounds n : Nat} {fs : List Frame}
  {stream : ByteStream}

/-! A client sends messages, there are enough rounds in the end, and its calls read all that is sent
to it. -/

variable (h : s.server.Serves c rounds) (hnone : (s.server.connection c).incoming.unread = [])
  (hstays : Stays c run) (hfs : ∀ f ∈ fs, f.payload.length < wordBound)
  (hbytes : arriving c run = framesBytes fs) (hn : rounds + fs.length ≤ n)
  (hshort : ∀ l ∈ mail c s (run ++ List.replicate n .poll), l.frame.payload.length < wordBound)
  (hstream : (s.server.connection c).written ++ stream.unread =
    ((s.through (run ++ List.replicate n .poll)).server.connection c).written)

include h hnone hstays hfs hbytes hn hshort hstream

/-- Read in step, the client is sent no fewer letters than it makes calls, and these read the first
of them. -/
theorem readReplyFrames_of_inStep (hin : InStep c s (run ++ List.replicate n .poll)) :
    ∃ rest, readReplyFrames fs.length stream =
      .ok (((mail c s (run ++ List.replicate n .poll)).take fs.length).map Letter.frame, rest) := by
  obtain ⟨-, -, -, hwritten, -⟩ := through_of_inStep h (hstays.append_polls n) hin hfs []
    (by rw [List.append_nil, arriving_append_polls, hnone, List.nil_append, hbytes])
  refine readReplyFrames_of_mailBytes hshort ?_ (List.append_cancel_left (hstream.trans hwritten))
  rw [← (requestsIn_eq_iff h hnone hstays hfs hbytes hn).2 hin, length_requestsIn]
  exact List.length_filter_le ..

theorem paired_of_isSome (hin : InStep c s (run ++ List.replicate n .poll))
    (hall : ∀ l ∈ (mail c s (run ++ List.replicate n .poll)).take fs.length,
      l.request?.isSome = true) :
    Paired c s (run ++ List.replicate n .poll) fs stream := by
  have hrequests := (requestsIn_eq_iff h hnone hstays hfs hbytes hn).2 hin
  obtain ⟨rest, hread⟩ := readReplyFrames_of_inStep h hnone hstays hfs hbytes hn hshort hstream hin
  have hanswers := answersIn_eq_take (by rw [hrequests]; exact hall)
  rw [hrequests] at hanswers
  rw [← hanswers] at hread
  exact ⟨hrequests, ⟨rest, hread⟩, returned_of_readReplyFrames hread⟩

/-- **A client that does not subscribe gets its own answers**, if it is read in step. -/
theorem paired_of_unsubscribed (hin : InStep c s (run ++ List.replicate n .poll))
    (hc : some c ∉ s.server.subscribers.keys)
    (hsubscribe : ∀ f ∈ fs, Request.ofType? f.type.toNat ≠ some .subscribe) :
    Paired c s (run ++ List.replicate n .poll) fs stream := by
  refine paired_of_isSome h hnone hstays hfs hbytes hn hshort hstream hin fun l hl => ?_
  refine isSome_of_unsubscribed h.sound hc _ ?_ l (List.mem_of_mem_take hl)
  rwa [(requestsIn_eq_iff h hnone hstays hfs hbytes hn).2 hin]

/-- **When calls return their own answers.** If no message has the type of an event, each of the
calls returns the answer to its own message just when the client is read in step and no news comes
before the last answer. -/
theorem paired_iff (htypes : ∀ f ∈ fs, ∀ channel : Channel, f.type ≠ channel.messageType) :
    Paired c s (run ++ List.replicate n .poll) fs stream ↔
      InStep c s (run ++ List.replicate n .poll) ∧
        ∀ l ∈ (mail c s (run ++ List.replicate n .poll)).take fs.length,
          l.request?.isSome = true := by
  refine ⟨fun hpaired => ?_, fun ⟨hin, hall⟩ =>
    paired_of_isSome h hnone hstays hfs hbytes hn hshort hstream hin hall⟩
  have hrequests := hpaired.requests_eq
  have hin := (requestsIn_eq_iff h hnone hstays hfs hbytes hn).1 hrequests
  obtain ⟨rest, hanswers⟩ := hpaired.replies_eq
  obtain ⟨rest', hletters⟩ :=
    readReplyFrames_of_inStep h hnone hstays hfs hbytes hn hshort hstream hin
  have heq := congrArg Prod.fst (Except.ok.inj (hanswers.symm.trans hletters))
  -- Letters that read like the answers are answers, as no message has the type of an event.
  rw [← hrequests] at htypes heq ⊢
  exact ⟨hin, forall_take_of_answersIn_eq htypes heq⟩

end Calls

/-- A client disables the tiling and asks for its state, both before the server has accepted it. -/
theorem paired_iff_disabled :
    let s := ((unoccupied .smart 1).withServer { listener := .listening }).happen .connect
    let fs : List Frame := [⟨0, [0x64, 0x69, 0x73, 0x61, 0x62, 0x6c, 0x65]⟩, ⟨100, []⟩]
    let run : List Happening := [.arrive ⟨0⟩ (framesBytes fs) []]
    let last := s.through (run ++ List.replicate 3 .poll)
    let stream : ByteStream := ⟨[(last.server.connection ⟨0⟩).written], false⟩
    s.server.Serves ⟨0⟩ 1 ∧ (s.server.connection ⟨0⟩).incoming.unread = [] ∧ Stays ⟨0⟩ run ∧
      (∀ f ∈ fs, f.payload.length < wordBound) ∧ arriving ⟨0⟩ run = framesBytes fs ∧
      (∀ l ∈ mail ⟨0⟩ s (run ++ List.replicate 3 .poll), l.frame.payload.length < wordBound) ∧
      (s.server.connection ⟨0⟩).written ++ stream.unread = (last.server.connection ⟨0⟩).written ∧
      (∀ f ∈ fs, ∀ channel : Channel, f.type ≠ channel.messageType) ∧
      Paired ⟨0⟩ s (run ++ List.replicate 3 .poll) fs stream := by
  intro s fs run last stream
  obtain ⟨hserves, hnone⟩ :=
    Server.Serves.of_connect (Server.sound_of_listener .listening) rfl rfl
  have hstays : Stays ⟨0⟩ run := by decide
  have hfs : ∀ f ∈ fs, f.payload.length < wordBound := by decide
  have hbytes : arriving ⟨0⟩ run = framesBytes fs := by decide
  have hshort : ∀ l ∈ mail ⟨0⟩ s (run ++ List.replicate 3 .poll),
      l.frame.payload.length < wordBound := by decide +kernel
  have hwritten : (s.server.connection ⟨0⟩).written = [] := rfl
  have hstream : (s.server.connection ⟨0⟩).written ++ stream.unread =
      (last.server.connection ⟨0⟩).written := by
    rw [hwritten, List.nil_append, ByteStream.unread, List.flatten_singleton]
  have htypes : ∀ f ∈ fs, ∀ channel : Channel, f.type ≠ channel.messageType := by
    intro f hf channel
    cases channel <;> revert f hf <;> decide
  exact ⟨hserves, hnone, hstays, hfs, hbytes, hshort, hstream, htypes,
    (paired_iff hserves hnone hstays hfs hbytes (by decide) hshort hstream htypes).2
      (by decide +kernel)⟩

/-- **An event is taken for an answer.** A client subscribes to the tiling and then disables it. It
is sent the news before the answer to its second message, so that the second call returns that. -/
theorem event_returned_for_reply :
    let s := ((unoccupied .smart 1).withServer { listener := .listening }).happen .connect
    let fs : List Frame :=
      [⟨2, [0x5b, 0x22, 0x74, 0x69, 0x6c, 0x69, 0x6e, 0x67, 0x22, 0x5d]⟩,
        ⟨0, [0x64, 0x69, 0x73, 0x61, 0x62, 0x6c, 0x65]⟩]
    let run : List Happening := .poll :: fs.flatMap fun f => [.arrive ⟨0⟩ f.encode [], .poll]
    let last := s.through run
    let stream : ByteStream := ⟨[(last.server.connection ⟨0⟩).written], false⟩
    requestsIn (mail ⟨0⟩ s run) = fs ∧
      (answersIn (mail ⟨0⟩ s run)).map Frame.type = [2, 0] ∧
      (readReplyFrames 2 stream).toOption.map (fun r => r.1.map Frame.type) =
        some [2, Channel.tiling.messageType] ∧
      ¬Paired ⟨0⟩ s run fs stream := by
  intro s fs run last stream
  have hanswers : (answersIn (mail ⟨0⟩ s run)).map Frame.type = [2, 0] := by decide +kernel
  have hread : (readReplyFrames 2 stream).toOption.map (fun r => r.1.map Frame.type) =
      some [2, Channel.tiling.messageType] := by decide +kernel
  have hrequests : requestsIn (mail ⟨0⟩ s run) = fs := by decide +kernel
  refine ⟨hrequests, hanswers, hread, fun hpaired => ?_⟩
  obtain ⟨rest, hreplies⟩ := hpaired.replies_eq
  have htypes : some ((answersIn (mail ⟨0⟩ s run)).map Frame.type) =
      some [2, Channel.tiling.messageType] := by
    rw [← hread]
    exact (congrArg (fun r => r.toOption.map fun r => r.1.map Frame.type) hreplies).symm
  rw [hanswers] at htypes
  exact absurd htypes (by decide)

end Service

end WindowTiling
