import WindowTiling.Proofs.Connections
import WindowTiling.Proofs.Streams

/-!
# What is sent to a client

Things happen to the service one after the other: it takes a step, somebody connects or hangs up,
bytes arrive, and it makes a round of serving. What is sent to a client in the course of this is its
*mail*: news of the channels to which it has subscribed, and an answer to each message that is read
from it, which comes after the news that the message itself gives rise to.

**Theorem (`serves_of_spares`), Theorem (`poll_of_readFrom`).** To a client whose connection is open
at both ends nothing happens but that it is sent its mail, and that in a round a message is read
from it, which is answered in the mail.

A round serves several clients in turn. Those before and after this one come to mail at most
(`wrote_serves`), so that all is seen from how it is served itself (`serve_self`).
-/

namespace WindowTiling

/-! ## Bytes that arrive -/

namespace ByteStream

/-- A list cut into pieces of these lengths; what is left over is the last piece. -/
def cut : List Nat → List UInt8 → List (List UInt8)
  | [], bytes => [bytes]
  | n :: cuts, bytes => bytes.take n :: cut cuts (bytes.drop n)

theorem flatten_cut (cuts : List Nat) (bytes : List UInt8) : (cut cuts bytes).flatten = bytes := by
  induction cuts generalizing bytes with
  | nil => simp [cut]
  | cons n cuts ih => rw [cut, List.flatten_cons, ih, List.take_append_drop]

/-- Bytes arrive, and from now on all that has not been read comes apart in these lengths. -/
def arriveCut (s : ByteStream) (bytes : List UInt8) (cuts : List Nat) : ByteStream :=
  { s with pieces := cut cuts (s.unread ++ bytes) }

@[simp] theorem unread_arriveCut (s : ByteStream) (bytes : List UInt8) (cuts : List Nat) :
    (s.arriveCut bytes cuts).unread = s.unread ++ bytes := flatten_cut ..

end ByteStream

/-- Bytes arrive on a connection. -/
def Connection.arriveCut (k : Connection) (bytes : List UInt8) (cuts : List Nat) : Connection :=
  { k with incoming := k.incoming.arriveCut bytes cuts }

/-! ## What can happen -/

/-- Something that happens to the service. -/
inductive Happening where
  /-- It is called upon to do something. -/
  | step (step : Step)
  /-- Somebody connects, if that is possible. -/
  | connect
  /-- Bytes arrive on a connection, and what has arrived on it by then is cut into pieces. -/
  | arrive (client : ConnectionRef) (bytes : List UInt8) (cuts : List Nat)
  /-- A client closes its connection. -/
  | hangUp (client : ConnectionRef)
  /-- It makes a round of serving. -/
  | poll
  deriving DecidableEq, Repr

/-- The client has no part in what happens. -/
def Happening.Spares (c : ConnectionRef) : Happening → Prop
  | arrive v _ _ | hangUp v => v ≠ c
  | poll => False
  | step _ | connect => True

/-- Induction on what happens, as a client sees it: it has no part in it, or it is the one that
sends or hangs up, or a round is made. -/
@[elab_as_elim]
theorem Happening.run_induction (c : ConnectionRef) {motive : List Happening → Prop}
    (nil : motive [])
    (spares : ∀ (x : Happening) (run), x.Spares c → motive run → motive (x :: run))
    (arrive : ∀ bytes cuts run, motive run → motive (.arrive c bytes cuts :: run))
    (hangUp : ∀ run, motive run → motive (.hangUp c :: run))
    (poll : ∀ run, motive run → motive (.poll :: run)) (run : List Happening) : motive run := by
  induction run with
  | nil => exact nil
  | cons x run ih =>
    cases x with
    | step e => exact spares _ run trivial ih
    | connect => exact spares _ run trivial ih
    | arrive v bytes cuts =>
      by_cases hv : v = c
      · exact hv ▸ arrive bytes cuts run ih
      · exact spares _ run hv ih
    | hangUp v =>
      by_cases hv : v = c
      · exact hv ▸ hangUp run ih
      · exact spares _ run hv ih
    | poll => exact poll run ih

namespace Service

/-- The state after something has happened. -/
def happen (s : Service) : Happening → Service
  | .step e => s.step e
  | .connect =>
    match s.server.connect? with
    | none => s
    | some (server, _) => s.withServer server
  | .arrive v bytes cuts =>
    s.withServer (s.server.updateConnection v fun k => k.arriveCut bytes cuts)
  | .hangUp v => s.withServer (s.server.hangUp v)
  | .poll => s.poll

/-- The state after all this has happened. -/
def through (s : Service) (happenings : List Happening) : Service := happenings.foldl happen s

/-! ## Serving one client -/

end Service

/-- The message that has been read. -/
def Reading.frame? : Reading → Option Frame
  | frame f => some f
  | incomplete | broken => none

namespace Service

/-- What answering a message comes to. -/
def answeredTo (s : Service) (f : Frame) : Answered := s.answered f.type.toNat f.payload

/-- The server after something has been read from a client. -/
def received (s : Service) (v : ConnectionRef) (rest : ByteStream) : Server :=
  s.server.updateConnection v fun k => { k with incoming := rest }

variable {s : Service} {v : ConnectionRef} {rest : ByteStream}

theorem sound_received (hs : s.server.Sound) (v : ConnectionRef) (rest : ByteStream) :
    (s.received v rest).Sound := (s.server.follows_updateConnection v _).sound hs

theorem serve_of_dropped (h : (s.server.connection v).dropped = true) :
    s.serve v = s.withServer (s.server.drop v) := by
  rw [serve]
  dsimp only
  rw [if_pos h]
  rfl

theorem serve_of_incomplete (h : (s.server.connection v).dropped = false)
    (hread : (s.server.connection v).incoming.readFrame = (.incomplete, rest)) :
    s.serve v = s.withServer (s.received v rest) := by
  rw [serve]
  dsimp only
  rw [if_neg (by simp [h]), hread]
  rfl

theorem serve_of_broken (h : (s.server.connection v).dropped = false)
    (hread : (s.server.connection v).incoming.readFrame = (.broken, rest)) :
    s.serve v = s.withServer ((s.received v rest).drop v) := by
  rw [serve]
  dsimp only
  rw [if_neg (by simp [h]), hread]
  rfl

/-- **A message that is read is answered**: its news is relayed, and then the answer is sent. -/
theorem serve_of_frame {f : Frame} (hs : s.server.Connected)
    (h : (s.server.connection v).dropped = false)
    (hread : (s.server.connection v).incoming.readFrame = (.frame f, rest)) :
    s.serve v = (s.answeredTo f).state.withServer
      ((((s.received v rest).relay (s.answeredTo f).news).requested (some v) f.type.toNat
        f.payload).send v ⟨f.type, (s.answeredTo f).answer.payload⟩) := by
  have hreceived : (s.received v rest).Connected := hs
  have hreply := reply_withServer hreceived s (some v) f.type.toNat f.payload
  rw [serve]
  dsimp only
  rw [if_neg (by simp [h]), hread]
  show (let r := (s.withServer (s.received v rest)).reply (some v) f.type.toNat f.payload
    r.2.withServer (r.2.server.send v ⟨f.type, r.1.payload⟩)) = _
  rw [hreply]
  rfl

theorem follows_serve (hs : s.server.Sound) (v : ConnectionRef) :
    s.server.Follows (s.serve v).server := by
  by_cases hdropped : (s.server.connection v).dropped = true
  · rw [serve_of_dropped hdropped]
    exact s.server.follows_drop v
  · rw [Bool.not_eq_true] at hdropped
    have hreceived (rest : ByteStream) : s.server.Follows (s.received v rest) :=
      s.server.follows_updateConnection v _
    rcases hread : (s.server.connection v).incoming.readFrame with ⟨f | _ | _, rest⟩
    · rw [serve_of_frame hs.connected hdropped hread]
      exact (hreceived rest).trans ((Server.follows_relay _ _).trans
        ((Server.follows_requested _ v _ _).trans (Server.follows_send _ v _)))
    · rw [serve_of_incomplete hdropped hread]
      exact hreceived rest
    · rw [serve_of_broken hdropped hread]
      exact (hreceived rest).trans (Server.follows_drop _ v)

/-! ## Mail -/

end Service

/-- Something that is sent to a client. -/
inductive Letter where
  | news (news : News)
  /-- The answer to a message that was read from the client. -/
  | answer (request : Frame) (answer : Json)

namespace Letter

/-- The message that is sent. -/
def frame : Letter → Frame
  | news n => Server.newsFrame n
  | answer request a => ⟨request.type, a.payload⟩

/-- The message that is answered. -/
def request? : Letter → Option Frame
  | news _ => none
  | answer request _ => some request

end Letter

/-- The bytes of mail. -/
def mailBytes (mail : List Letter) : List UInt8 := mail.flatMap fun l => l.frame.encode

/-- The messages that are answered in mail. -/
def requestsIn (mail : List Letter) : List Frame := mail.filterMap Letter.request?

namespace Service

/-- The letters that carry news to a client. -/
def newsLetters (s : Service) (c : ConnectionRef) (news : List News) : List Letter :=
  (s.server.newsFor c news).map .news

/-- What a client is sent while somebody is served. -/
def mailOfServe (s : Service) (c v : ConnectionRef) : List Letter :=
  if (s.server.connection v).dropped then []
  else
    match (s.server.connection v).incoming.readFrame.1 with
    | .frame f => s.newsLetters c (s.answeredTo f).news ++
      if v = c then [.answer f (s.answeredTo f).answer] else []
    | .incomplete | .broken => []

/-- What a client is sent while others are served in turn. -/
def mailOfServes (c : ConnectionRef) : Service → List ConnectionRef → List Letter
  | _, [] => []
  | s, v :: vs => s.mailOfServe c v ++ mailOfServes c (s.serve v) vs

/-- What a client is sent while something happens. -/
def mailOf (s : Service) (c : ConnectionRef) : Happening → List Letter
  | .step e => s.newsLetters c (e.told s)
  | .poll =>
    if s.server.listening then mailOfServes c (s.withServer s.server.accept) s.readable else []
  | .connect | .arrive .. | .hangUp _ => []

/-- **What a client is sent** while all this happens. -/
def mail (c : ConnectionRef) : Service → List Happening → List Letter
  | _, [] => []
  | s, h :: hs => s.mailOf c h ++ mail c (s.happen h) hs

variable {s : Service} {c v : ConnectionRef} {rest : ByteStream}

theorem mailBytes_append (mail more : List Letter) :
    mailBytes (mail ++ more) = mailBytes mail ++ mailBytes more := List.flatMap_append

theorem requestsIn_append (mail more : List Letter) :
    requestsIn (mail ++ more) = requestsIn mail ++ requestsIn more := List.filterMap_append

theorem requestsIn_newsLetters (s : Service) (c : ConnectionRef) (news : List News) :
    requestsIn (s.newsLetters c news) = [] := by
  simp [requestsIn, newsLetters, Letter.request?, Function.comp_def]

theorem wrote_relay_letters {server : Server} (hs : server.Sound) (ho : server.Open c)
    (hsame : server.subscribers.find? (some c) = s.server.subscribers.find? (some c))
    (news : List News) :
    server.Wrote c (mailBytes (s.newsLetters c news)) (server.relay news) := by
  have h := Server.wrote_relay hs ho news
  have hnews : server.newsFor c news = s.server.newsFor c news := by
    simp only [Server.newsFor, Server.subscribed, hsame]
  rw [hnews] at h
  rw [mailBytes, newsLetters, List.flatMap_map]
  exact h

theorem wrote_serve (hs : s.server.Sound) (ho : s.server.Open c) (hne : v ≠ c) :
    s.server.Wrote c (mailBytes (s.mailOfServe c v)) (s.serve v).server := by
  by_cases hdropped : (s.server.connection v).dropped = true
  · rw [serve_of_dropped hdropped, mailOfServe, if_pos hdropped]
    exact Server.wrote_drop hne _
  · have hopen : (s.server.connection v).dropped = false := by simpa using hdropped
    have hreceived (rest : ByteStream) : s.server.Wrote c [] (s.received v rest) :=
      Server.wrote_updateConnection hne _ _
    rw [mailOfServe, if_neg hdropped]
    rcases hread : (s.server.connection v).incoming.readFrame with ⟨f | _ | _, rest⟩
    · have hsound := sound_received hs v rest
      have hrelay := wrote_relay_letters (s := s) hsound ((hreceived rest).isOpen ho)
        (hreceived rest).find?_eq (s.answeredTo f).news
      rw [serve_of_frame hs.connected hopen hread]
      dsimp only
      rw [if_neg hne, List.append_nil]
      simpa using (hreceived rest).trans (hrelay.trans
        ((Server.wrote_requested hne _ _ _).trans (Server.wrote_send_of_ne hne _ _)))
    · rw [serve_of_incomplete hopen hread]
      exact hreceived rest
    · rw [serve_of_broken hopen hread]
      exact (hreceived rest).trans (Server.wrote_drop hne _)

theorem connection_received (s : Service) (c : ConnectionRef) (rest : ByteStream) :
    (s.received c rest).connection c = { s.server.connection c with incoming := rest } := by
  rw [received, Server.connection_updateConnection, if_pos rfl]

theorem open_received (ho : s.server.Open c) (rest : ByteStream) : (s.received c rest).Open c :=
  ⟨by rw [connection_received]; exact ho.dropped_eq, by rw [connection_received]; exact ho.room_eq⟩

theorem serve_self (hs : s.server.Sound) (ho : s.server.Open c) {r : Reading}
    (hread : (s.server.connection c).incoming.readFrame = (r, rest)) (hr : r ≠ .broken) :
    (s.serve c).server.connection c = { s.server.connection c with
      incoming := rest
      written := (s.server.connection c).written ++ mailBytes (s.mailOfServe c c) } ∧
      (c ∈ (s.serve c).server.clients ↔ c ∈ s.server.clients) ∧
      requestsIn (s.mailOfServe c c) = r.frame?.toList := by
  have hreceived := s.connection_received c rest
  have hopen := open_received ho rest
  rw [mailOfServe, if_neg (by simp [ho.dropped_eq]), hread]
  cases r with
  | broken => exact absurd rfl hr
  | incomplete =>
    rw [serve_of_incomplete ho.dropped_eq hread]
    exact ⟨by simp [hreceived, mailBytes], Iff.rfl, rfl⟩
  | frame f =>
    have hsound := sound_received hs c rest
    have hrelay := wrote_relay_letters (s := s) hsound hopen rfl (s.answeredTo f).news
    have hrequested := (hrelay.isOpen hopen).requested (some c) f.type.toNat f.payload
    have hsend := Server.wrote_send hrequested ⟨f.type, (s.answeredTo f).answer.payload⟩
    rw [serve_of_frame hs.connected ho.dropped_eq hread, server_withServer]
    refine ⟨?_, ?_, ?_⟩
    · rw [hsend.connection_eq, Server.connection_requested, hrelay.connection_eq, hreceived]
      simp [mailBytes, Letter.frame]
    · rw [hsend.mem_clients, Server.clients_requested, hrelay.mem_clients]
      rfl
    · dsimp only
      rw [if_pos rfl, requestsIn_append, requestsIn_newsLetters]
      rfl

/-! ## Serving several in turn -/

theorem mailOfServes_append (c : ConnectionRef) (s : Service) (vs ws : List ConnectionRef) :
    mailOfServes c s (vs ++ ws) =
      mailOfServes c s vs ++ mailOfServes c (vs.foldl serve s) ws := by
  induction vs generalizing s with
  | nil => rfl
  | cons v vs ih => rw [List.cons_append, mailOfServes, ih, mailOfServes, List.append_assoc,
      List.foldl_cons]

theorem follows_serves (hs : s.server.Sound) (vs : List ConnectionRef) :
    s.server.Follows (vs.foldl serve s).server := by
  induction vs generalizing s with
  | nil => exact Server.Follows.refl _
  | cons v vs ih => exact (follows_serve hs v).trans (ih ((follows_serve hs v).sound hs))

theorem wrote_serves (hs : s.server.Sound) (ho : s.server.Open c) {vs : List ConnectionRef}
    (hc : c ∉ vs) :
    s.server.Wrote c (mailBytes (mailOfServes c s vs)) (vs.foldl serve s).server := by
  induction vs generalizing s with
  | nil => exact Server.Wrote.refl c _
  | cons v vs ih =>
    rw [List.mem_cons, not_or] at hc
    have hfirst := wrote_serve hs ho (Ne.symm hc.1)
    have hrest := ih ((follows_serve hs v).sound hs) (hfirst.isOpen ho) hc.2
    rw [mailOfServes, mailBytes_append]
    exact hfirst.trans hrest

theorem requestsIn_mailOfServe (hne : v ≠ c) : requestsIn (s.mailOfServe c v) = [] := by
  rw [mailOfServe]
  split
  · rfl
  · split
    · rw [List.append_nil, requestsIn_newsLetters]
    · rfl
    · rfl

theorem requestsIn_mailOfServes {vs : List ConnectionRef} (hc : c ∉ vs) (s : Service) :
    requestsIn (mailOfServes c s vs) = [] := by
  induction vs generalizing s with
  | nil => rfl
  | cons v vs ih =>
    rw [List.mem_cons, not_or] at hc
    rw [mailOfServes, requestsIn_append, requestsIn_mailOfServe (Ne.symm hc.1), ih hc.2]
    rfl

theorem serves_of_mem (hs : s.server.Sound) (ho : s.server.Open c) {vs : List ConnectionRef}
    (hc : c ∈ vs) (hvs : vs.Nodup) {r : Reading}
    (hread : (s.server.connection c).incoming.readFrame = (r, rest)) (hr : r ≠ .broken) :
    (vs.foldl serve s).server.connection c = { s.server.connection c with
      incoming := rest
      written := (s.server.connection c).written ++ mailBytes (mailOfServes c s vs) } ∧
      (c ∈ (vs.foldl serve s).server.clients ↔ c ∈ s.server.clients) ∧
      requestsIn (mailOfServes c s vs) = r.frame?.toList := by
  obtain ⟨before, after, rfl⟩ := List.append_of_mem hc
  obtain ⟨hnot, -⟩ := List.nodup_cons.1 (List.nodup_middle.1 hvs)
  rw [List.mem_append, not_or] at hnot
  -- Those before and after it leave what it has sent as it is.
  have hfirst := wrote_serves hs ho hnot.1
  have hsound := (follows_serves hs before).sound hs
  have hopen := hfirst.isOpen ho
  rw [mailOfServes_append, mailOfServes, List.foldl_append, List.foldl_cons]
  generalize before.foldl serve s = t at hfirst hsound hopen ⊢
  have hread' : (t.server.connection c).incoming.readFrame = (r, rest) := by
    rw [hfirst.connection_eq]
    exact hread
  obtain ⟨hself, hclients, hrequests⟩ := serve_self hsound hopen hread' hr
  have hsound' := (follows_serve hsound c).sound hsound
  have hopen' : (t.serve c).server.Open c :=
    ⟨by rw [hself]; exact hopen.dropped_eq, by rw [hself]; exact hopen.room_eq⟩
  have hrest := wrote_serves hsound' hopen' hnot.2
  refine ⟨?_, ?_, ?_⟩
  · rw [hrest.connection_eq, hself, hfirst.connection_eq, mailBytes_append, mailBytes_append]
    simp only [List.append_assoc]
  · rw [hrest.mem_clients, hclients, hfirst.mem_clients]
  · rw [requestsIn_append, requestsIn_append, requestsIn_mailOfServes hnot.1, hrequests,
      requestsIn_mailOfServes hnot.2, List.append_nil, List.nil_append]

end Service

/-! ## Rounds -/

namespace Server

theorem sound_accept {s : Server} (h : s.Sound) : s.accept.Sound := by
  rw [accept]
  split
  · exact h
  · next v rest hwaiting =>
    have hperm : (s.clients ++ [v]) ++ rest = s.clients ++ s.waiting := by
      rw [hwaiting, List.append_assoc, List.singleton_append]
    exact ⟨h.connected, h.nodup_subscribers, hperm ▸ h.nodup, hperm ▸ h.made⟩

@[simp] theorem connection_accept (s : Server) (c : ConnectionRef) :
    s.accept.connection c = s.connection c := by
  rw [accept]
  split <;> rfl

@[simp] theorem subscribers_accept (s : Server) : s.accept.subscribers = s.subscribers := by
  rw [accept]
  split <;> rfl

theorem listening_accept (s : Server) : s.accept.listening = s.listening := by
  rw [accept]
  split <;> rfl

/-- Whoever connects waits behind all others. -/
theorem connect?_eq_some {s s' : Server} {v : ConnectionRef} (h : s.connect? = some (s', v)) :
    s.listening = true ∧ v = ⟨s.connectionCount⟩ ∧
      s' = { s with connectionCount := s.connectionCount + 1, waiting := s.waiting ++ [v] } := by
  rw [connect?] at h
  split at h
  · next hcan =>
    obtain ⟨rfl, rfl⟩ := Prod.mk.inj (Option.some_inj.1 h)
    exact ⟨(Bool.and_eq_true_iff.1 hcan).1, rfl, rfl⟩
  · exact absurd h.symm (Option.some_ne_none _)

theorem sound_connect {s s' : Server} {v : ConnectionRef} (h : s.Sound)
    (hconnect : s.connect? = some (s', v)) : s'.Sound := by
  obtain ⟨-, rfl, rfl⟩ := connect?_eq_some hconnect
  have hnew : (⟨s.connectionCount⟩ : ConnectionRef) ∉ s.clients ++ s.waiting :=
    fun hmem => Nat.lt_irrefl _ (h.made _ hmem)
  refine ⟨h.connected, h.nodup_subscribers, ?_, ?_⟩
  · show (s.clients ++ (s.waiting ++ [_])).Nodup
    rw [← List.append_assoc]
    exact h.nodup.append (List.nodup_singleton _) (List.disjoint_singleton.2 hnew)
  · intro w hw
    have hw : w ∈ s.clients ++ (s.waiting ++ [(⟨s.connectionCount⟩ : ConnectionRef)]) := hw
    rw [← List.append_assoc, List.mem_append, List.mem_singleton] at hw
    rcases hw with hw | rfl
    · exact Nat.lt_succ_of_lt (h.made w hw)
    · exact Nat.lt_succ_self _

/-- The connection is open at both ends, and is read from after so many rounds at most. -/
structure Serves (s : Server) (c : ConnectionRef) (rounds : Nat) : Prop where
  sound : s.Sound
  listening : s.listening = true
  isOpen : s.Open c
  ended_eq : (s.connection c).incoming.ended = false
  place : c ∈ s.clients ∨
    ∃ before after, s.waiting = before ++ c :: after ∧ before.length < rounds

variable {s s' : Server} {c v : ConnectionRef} {rounds : Nat} {bytes : List UInt8}

theorem Serves.of_wrote (h : s.Serves c rounds) (hf : s.Follows s') (hw : s.Wrote c bytes s') :
    s'.Serves c rounds where
  sound := hf.sound h.sound
  listening := by rw [Server.listening, hf.listener_eq]; exact h.listening
  isOpen := hw.isOpen h.isOpen
  ended_eq := by rw [hw.connection_eq]; exact h.ended_eq
  place := by
    rw [hw.mem_clients, hf.waiting_eq]
    exact h.place

theorem Serves.mono {more : Nat} (h : s.Serves c rounds) (hle : rounds ≤ more) :
    s.Serves c more where
  sound := h.sound
  listening := h.listening
  isOpen := h.isOpen
  ended_eq := h.ended_eq
  place := h.place.imp id fun ⟨before, after, hwaiting, hlt⟩ =>
    ⟨before, after, hwaiting, Nat.lt_of_lt_of_le hlt hle⟩

theorem Serves.connect (h : s.Serves c rounds) (hconnect : s.connect? = some (s', v)) :
    s'.Serves c rounds := by
  have hsound := sound_connect h.sound hconnect
  obtain ⟨-, rfl, rfl⟩ := connect?_eq_some hconnect
  refine ⟨hsound, h.listening, ⟨h.isOpen.dropped_eq, h.isOpen.room_eq⟩, h.ended_eq, ?_⟩
  refine h.place.imp id ?_
  rintro ⟨before, after, hwaiting, hlt⟩
  exact ⟨before, after ++ [⟨s.connectionCount⟩], by simp [hwaiting], hlt⟩

/-- Somebody who has just connected is served, after all who wait already. -/
theorem Serves.of_connect (hs : s.Sound) (hnew : s.connection ⟨s.connectionCount⟩ = {})
    (hconnect : s.connect? = some (s', v)) :
    s'.Serves v (s.waiting.length + 1) ∧ (s'.connection v).incoming.unread = [] := by
  have hsound := sound_connect hs hconnect
  obtain ⟨hlistening, rfl, rfl⟩ := connect?_eq_some hconnect
  have hconnection : ({ s with
      connectionCount := s.connectionCount + 1
      waiting := s.waiting ++ [⟨s.connectionCount⟩] } : Server).connection ⟨s.connectionCount⟩ =
      {} := hnew
  exact ⟨⟨hsound, hlistening,
    ⟨congrArg Connection.dropped hconnection, congrArg Connection.room hconnection⟩,
    congrArg (·.incoming.ended) hconnection, .inr ⟨s.waiting, [], rfl, Nat.lt_succ_self _⟩⟩,
    congrArg (·.incoming.unread) hconnection⟩

theorem mem_clients_accept {s : Server} {c : ConnectionRef} (h : c ∈ s.clients) :
    c ∈ s.accept.clients := by
  rw [Server.accept]
  split
  · exact h
  · exact List.mem_append_left _ h

theorem Serves.accept (h : s.Serves c rounds) : s.accept.Serves c (rounds - 1) := by
  refine ⟨sound_accept h.sound, (listening_accept s).trans h.listening,
    ⟨by simpa using h.isOpen.dropped_eq, by simpa using h.isOpen.room_eq⟩,
    by simpa using h.ended_eq, ?_⟩
  rcases h.place with hc | ⟨before, after, hwaiting, hlt⟩
  · exact .inl (mem_clients_accept hc)
  · rw [Server.accept, hwaiting]
    cases before with
    | nil => exact .inl (List.mem_append_right _ (List.mem_singleton.2 rfl))
    | cons v before =>
      simp only [List.length_cons] at hlt
      exact .inr ⟨before, after, rfl, by omega⟩

end Server

namespace Service

variable {s : Service} {c v : ConnectionRef} {rounds : Nat} {rest : ByteStream}

/-- Nobody is read from twice in a round. -/
theorem nodup_readable (hs : s.server.Sound) : s.readable.Nodup :=
  (List.nodup_append.1 hs.nodup).1.filter _

/-- A round accepts somebody, and then serves all who could be read from before. -/
theorem happen_poll (h : s.server.listening = true) :
    s.happen .poll = s.readable.foldl serve (s.withServer s.server.accept) := if_pos h

/-- What a round reads from a client, and what is left unread. -/
def readFrom (s : Service) (c : ConnectionRef) : Reading × ByteStream :=
  if c ∈ s.readable then (s.server.connection c).incoming.readFrame
  else (.incomplete, (s.server.connection c).incoming)

/-- **What a round does to a client** that does not break off: what is read is answered. -/
theorem poll_of_readFrom (h : s.server.Serves c rounds) {r : Reading}
    (hread : s.readFrom c = (r, rest)) (hr : r ≠ .broken) :
    (s.happen .poll).server.connection c = { s.server.connection c with
      incoming := rest
      written := (s.server.connection c).written ++ mailBytes (s.mailOf c .poll) } ∧
      requestsIn (s.mailOf c .poll) = r.frame?.toList ∧
      (s.happen .poll).server.Serves c (rounds - 1) := by
  have haccept := h.accept
  have hnodup := nodup_readable h.sound
  have hfollows := follows_serves (s := s.withServer s.server.accept) haccept.sound s.readable
  rw [happen_poll h.listening, mailOf, if_pos h.listening]
  rw [readFrom] at hread
  -- Either the client is among those who are read in this round, or others are served around it.
  split at hread
  · next hc =>
    have hread' : (s.server.accept.connection c).incoming.readFrame = (r, rest) := by
      rw [Server.connection_accept]
      exact hread
    obtain ⟨hconnection, hclients, hrequests⟩ := serves_of_mem (s := s.withServer s.server.accept)
      haccept.sound haccept.isOpen hc hnodup hread' hr
    have hended : rest.ended = false := by
      rw [← h.ended_eq, ← (s.server.connection c).incoming.ended_readFrame, hread]
    have hmem : c ∈ s.server.accept.clients := Server.mem_clients_accept (List.mem_filter.1 hc).1
    refine ⟨by simpa using hconnection, hrequests, hfollows.sound haccept.sound, ?_, ?_, ?_, ?_⟩
    · rw [Server.listening, hfollows.listener_eq]
      exact haccept.listening
    · exact ⟨by rw [hconnection]; exact haccept.isOpen.dropped_eq,
        by rw [hconnection]; exact haccept.isOpen.room_eq⟩
    · rw [hconnection]
      exact hended
    · exact .inl (hclients.2 hmem)
  · next hc =>
    have hwrote := wrote_serves (s := s.withServer s.server.accept) haccept.sound haccept.isOpen hc
    obtain ⟨rfl, rfl⟩ := Prod.mk.inj hread
    refine ⟨?_, requestsIn_mailOfServes hc _, haccept.of_wrote hfollows hwrote⟩
    rw [hwrote.connection_eq]
    simp

/-! ## Everything else that happens -/

theorem follows_step (hs : s.server.Sound) (e : Step) : s.server.Follows (s.step e).server := by
  rw [step_of_connected hs.connected]
  exact s.server.follows_relay _

/-- **Whatever happens leaves the server in order.** -/
theorem sound_happen (hs : s.server.Sound) (x : Happening) : (s.happen x).server.Sound := by
  cases x with
  | step e => exact (follows_step hs e).sound hs
  | connect =>
    rw [happen]
    cases hconnect : s.server.connect? with
    | none => exact hs
    | some r => exact Server.sound_connect hs hconnect
  | arrive v bytes cuts =>
    exact (s.server.follows_updateConnection v fun k => k.arriveCut bytes cuts).sound hs
  | hangUp v => exact (s.server.follows_updateConnection v Connection.hangUp).sound hs
  | poll =>
    show s.poll.server.Sound
    rw [poll]
    have haccept := Server.sound_accept hs
    split
    · exact (follows_serves (s := s.withServer s.server.accept) haccept _).sound haccept
    · exact hs

theorem serves_arrive (h : s.server.Serves c rounds) (bytes : List UInt8) (cuts : List Nat) :
    (s.happen (.arrive c bytes cuts)).server.connection c =
      (s.server.connection c).arriveCut bytes cuts ∧
      (s.happen (.arrive c bytes cuts)).server.Serves c rounds := by
  have hconnection : (s.happen (.arrive c bytes cuts)).server.connection c =
      (s.server.connection c).arriveCut bytes cuts := by
    rw [happen, server_withServer, Server.connection_updateConnection, if_pos rfl]
  have hfollows := s.server.follows_updateConnection c fun k => k.arriveCut bytes cuts
  refine ⟨hconnection, hfollows.sound h.sound, h.listening, ?_, ?_, h.place⟩
  · exact ⟨by rw [hconnection]; exact h.isOpen.dropped_eq,
      by rw [hconnection]; exact h.isOpen.room_eq⟩
  · rw [hconnection]
    exact h.ended_eq

/-- **What happens without a client comes to mail at most.** -/
theorem serves_of_spares (h : s.server.Serves c rounds) {x : Happening} (hx : x.Spares c) :
    (s.happen x).server.connection c = { s.server.connection c with
      written := (s.server.connection c).written ++ mailBytes (s.mailOf c x) } ∧
      requestsIn (s.mailOf c x) = [] ∧ (s.happen x).server.Serves c rounds := by
  cases x with
  | step e =>
    have hwrote := wrote_relay_letters (s := s) h.sound h.isOpen rfl (e.told s)
    rw [happen, step_of_connected h.sound.connected]
    exact ⟨hwrote.connection_eq, requestsIn_newsLetters ..,
      h.of_wrote (s.server.follows_relay _) hwrote⟩
  | connect =>
    rw [happen]
    cases hconnect : s.server.connect? with
    | none => exact ⟨(Server.Wrote.refl c _).connection_eq, rfl, h⟩
    | some r =>
      obtain ⟨-, -, hserver⟩ := Server.connect?_eq_some hconnect
      refine ⟨?_, rfl, h.connect hconnect⟩
      rw [server_withServer, hserver]
      exact (Server.Wrote.refl c _).connection_eq
  | arrive v bytes cuts =>
    have hwrote := Server.wrote_updateConnection hx s.server fun k => k.arriveCut bytes cuts
    have hfollows := s.server.follows_updateConnection v fun k => k.arriveCut bytes cuts
    exact ⟨hwrote.connection_eq, rfl, h.of_wrote hfollows hwrote⟩
  | hangUp v =>
    have hwrote := Server.wrote_updateConnection hx s.server Connection.hangUp
    have hfollows := s.server.follows_updateConnection v Connection.hangUp
    exact ⟨hwrote.connection_eq, rfl, h.of_wrote hfollows hwrote⟩
  | poll => exact hx.elim

end Service

end WindowTiling
