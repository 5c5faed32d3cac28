import WindowTiling.Proofs.Mail

/-!
# Services in lockstep

Two services that differ at most in what one client has sent and is still unread are *alike but for*
that client. They stay so, and send the same mail, as long as the same is read from this client.

**Theorem (`alike_of_spares`).** What happens without the client leaves services alike but for it,
and everybody is sent the same.

**Theorem (`alike_poll`).** So does a round in which the same is read from the client.

All that a service looks at of a connection before it reads from it is whether there is something to
read. Hence the statement about a round is for services in which this is so for the client, or is
not, in both.
-/

namespace WindowTiling

/-! ## Servers -/

namespace Server

/-- The servers differ at most in what is unread from a client. -/
structure AlikeBut (c : ConnectionRef) (s t : Server) : Prop where
  listener_eq : t.listener = s.listener
  connectionCount_eq : t.connectionCount = s.connectionCount
  waiting_eq : t.waiting = s.waiting
  clients_eq : t.clients = s.clients
  subscribers_eq : t.subscribers = s.subscribers
  connection_eq : ∀ v, v ≠ c → t.connection v = s.connection v
  sent_eq : ∃ incoming, t.connection c = { s.connection c with incoming }

variable {c v : ConnectionRef} {s t : Server}

theorem AlikeBut.dropped_eq (h : s.AlikeBut c t) (v : ConnectionRef) :
    (t.connection v).dropped = (s.connection v).dropped := by
  by_cases hv : v = c
  · obtain ⟨incoming, heq⟩ := h.sent_eq
    rw [hv, heq]
  · rw [h.connection_eq v hv]

theorem AlikeBut.symm (h : s.AlikeBut c t) : t.AlikeBut c s where
  listener_eq := h.listener_eq.symm
  connectionCount_eq := h.connectionCount_eq.symm
  waiting_eq := h.waiting_eq.symm
  clients_eq := h.clients_eq.symm
  subscribers_eq := h.subscribers_eq.symm
  connection_eq v hv := (h.connection_eq v hv).symm
  sent_eq := by
    obtain ⟨incoming, heq⟩ := h.sent_eq
    exact ⟨(s.connection c).incoming, by rw [heq]⟩

theorem AlikeBut.trans {u : Server} (h : s.AlikeBut c t) (h' : t.AlikeBut c u) :
    s.AlikeBut c u where
  listener_eq := h'.listener_eq.trans h.listener_eq
  connectionCount_eq := h'.connectionCount_eq.trans h.connectionCount_eq
  waiting_eq := h'.waiting_eq.trans h.waiting_eq
  clients_eq := h'.clients_eq.trans h.clients_eq
  subscribers_eq := h'.subscribers_eq.trans h.subscribers_eq
  connection_eq v hv := (h'.connection_eq v hv).trans (h.connection_eq v hv)
  sent_eq := by
    obtain ⟨incoming, heq⟩ := h.sent_eq
    obtain ⟨incoming', heq'⟩ := h'.sent_eq
    exact ⟨incoming', by rw [heq', heq]⟩

theorem AlikeBut.updateConnection (h : s.AlikeBut c t) {f g : Connection → Connection}
    (hother : v ≠ c → f (s.connection v) = g (s.connection v))
    (hself : v = c → ∀ incoming, ∃ incoming',
      g { s.connection c with incoming } = { f (s.connection c) with incoming := incoming' }) :
    (s.updateConnection v f).AlikeBut c (t.updateConnection v g) where
  listener_eq := h.listener_eq
  connectionCount_eq := h.connectionCount_eq
  waiting_eq := h.waiting_eq
  clients_eq := h.clients_eq
  subscribers_eq := h.subscribers_eq
  connection_eq w hw := by
    rw [connection_updateConnection, connection_updateConnection, h.connection_eq w hw]
    split
    · next hv =>
      subst hv
      exact (hother hw).symm
    · rfl
  sent_eq := by
    obtain ⟨incoming, heq⟩ := h.sent_eq
    rw [connection_updateConnection, connection_updateConnection, heq]
    split
    · next hv => exact hself hv.symm incoming
    · exact ⟨incoming, rfl⟩

theorem AlikeBut.drop (h : s.AlikeBut c t) (v : ConnectionRef) :
    (s.drop v).AlikeBut c (t.drop v) := by
  have hupdate := h.updateConnection (v := v) (f := fun k => { k with dropped := true })
    (g := fun k => { k with dropped := true }) (fun _ => rfl) fun _ incoming => ⟨incoming, rfl⟩
  exact {
    listener_eq := h.listener_eq
    connectionCount_eq := h.connectionCount_eq
    waiting_eq := h.waiting_eq
    clients_eq := congrArg (·.erase v) h.clients_eq
    subscribers_eq := congrArg (·.erase (some v)) h.subscribers_eq
    connection_eq := hupdate.connection_eq
    sent_eq := hupdate.sent_eq }

theorem write_incoming (k : Connection) (incoming : ByteStream) (bytes : List UInt8) :
    ({ k with incoming } : Connection).write bytes =
      ({ (k.write bytes).1 with incoming }, (k.write bytes).2) := by
  obtain ⟨incoming', written, room, dropped⟩ := k
  cases dropped <;> cases room <;> rfl

theorem AlikeBut.send (h : s.AlikeBut c t) (v : ConnectionRef) (f : Frame) :
    (s.send v f).AlikeBut c (t.send v f) := by
  have hflag : ((t.connection v).write f.encode).2 = ((s.connection v).write f.encode).2 := by
    by_cases hv : v = c
    · obtain ⟨incoming, heq⟩ := h.sent_eq
      rw [hv, heq, write_incoming]
    · rw [h.connection_eq v hv]
  have hupdate : (s.updateConnection v fun _ => ((s.connection v).write f.encode).1).AlikeBut c
      (t.updateConnection v fun _ => ((t.connection v).write f.encode).1) := by
    refine h.updateConnection (fun hv => ?_) fun hv _ => ?_
    · rw [h.connection_eq v hv]
    · obtain ⟨incoming, heq⟩ := h.sent_eq
      refine ⟨incoming, ?_⟩
      rw [hv, heq, write_incoming]
  rw [Server.send, Server.send]
  dsimp only
  rw [hflag]
  split
  · exact hupdate
  · exact hupdate.drop v

theorem AlikeBut.sendAll (h : s.AlikeBut c t) (f : Frame) (l : List (Option ConnectionRef)) :
    (s.sendAll f l).1.AlikeBut c (t.sendAll f l).1 := by
  induction l generalizing s t with
  | nil => exact h
  | cons v l ih =>
    cases v with
    | none => exact h
    | some v => exact ih (h.send v f)

theorem AlikeBut.relay (h : s.AlikeBut c t) (news : List News) :
    (s.relay news).AlikeBut c (t.relay news) := by
  induction news generalizing s t with
  | nil => exact h
  | cons n news ih =>
    rw [relay_cons, relay_cons]
    refine ih ?_
    rw [broadcast, broadcast, h.subscribers_eq]
    exact h.sendAll _ _

theorem AlikeBut.requested (h : s.AlikeBut c t) (client : Option ConnectionRef) (type : Int)
    (payload : List UInt8) :
    (s.requested client type payload).AlikeBut c (t.requested client type payload) := by
  rw [Server.requested, Server.requested]
  split
  · exact {
      listener_eq := h.listener_eq
      connectionCount_eq := h.connectionCount_eq
      waiting_eq := h.waiting_eq
      clients_eq := h.clients_eq
      subscribers_eq := by rw [subscribe, subscribe, h.subscribers_eq]
      connection_eq := h.connection_eq
      sent_eq := h.sent_eq }
  · exact h

theorem AlikeBut.accept (h : s.AlikeBut c t) : s.accept.AlikeBut c t.accept := by
  have hwaiting := h.waiting_eq
  rw [Server.accept, Server.accept, hwaiting]
  split
  · exact h
  · exact {
      listener_eq := h.listener_eq
      connectionCount_eq := h.connectionCount_eq
      waiting_eq := rfl
      clients_eq := congrArg (· ++ _) h.clients_eq
      subscribers_eq := h.subscribers_eq
      connection_eq := h.connection_eq
      sent_eq := h.sent_eq }

end Server

/-! ## Services -/

namespace Service

/-- The services differ at most in what is unread from a client. -/
structure AlikeBut (c : ConnectionRef) (s t : Service) : Prop where
  eq_withServer : t = s.withServer t.server
  server : s.server.AlikeBut c t.server

variable {c v : ConnectionRef} {s t : Service}

theorem AlikeBut.refl (c : ConnectionRef) (s : Service) : s.AlikeBut c s :=
  ⟨rfl, rfl, rfl, rfl, rfl, rfl, fun _ _ => rfl, (s.server.connection c).incoming, rfl⟩

theorem AlikeBut.symm (h : s.AlikeBut c t) : t.AlikeBut c s :=
  ⟨by rw [h.eq_withServer]; rfl, h.server.symm⟩

theorem AlikeBut.trans {u : Service} (h : s.AlikeBut c t) (h' : t.AlikeBut c u) :
    s.AlikeBut c u :=
  ⟨by rw [h'.eq_withServer, h.eq_withServer]; rfl, h.server.trans h'.server⟩

theorem AlikeBut.newsLetters_eq (h : s.AlikeBut c t) (v : ConnectionRef) (news : List News) :
    t.newsLetters v news = s.newsLetters v news := by
  simp only [newsLetters, Server.newsFor, Server.subscribed, h.server.subscribers_eq]

theorem AlikeBut.answeredTo_eq (h : s.AlikeBut c t) (f : Frame) :
    t.answeredTo f = ⟨(s.answeredTo f).answer, (s.answeredTo f).state.withServer t.server,
      (s.answeredTo f).news⟩ := by
  rw [answeredTo, answeredTo, ← answered_withServer, ← h.eq_withServer]

theorem alike_serve (h : s.AlikeBut c t) (hs : s.server.Sound) (ht : t.server.Sound)
    {r : Reading} {rest rest' : ByteStream}
    (hread : (s.server.connection v).incoming.readFrame = (r, rest))
    (hread' : (t.server.connection v).incoming.readFrame = (r, rest'))
    (hrest : v ≠ c → rest' = rest) :
    (s.serve v).AlikeBut c (t.serve v) ∧ t.mailOfServe c v = s.mailOfServe c v := by
  have hreceived : (s.received v rest).AlikeBut c (t.received v rest') :=
    h.server.updateConnection (fun hv => by rw [hrest hv]) fun _ _ => ⟨rest', rfl⟩
  have hdropped := h.server.dropped_eq v
  have heq := h.eq_withServer
  by_cases hd : (s.server.connection v).dropped = true
  · rw [serve_of_dropped hd, serve_of_dropped (hdropped.trans hd), mailOfServe, mailOfServe,
      hdropped, if_pos hd, if_pos hd]
    exact ⟨⟨by rw [heq]; rfl, h.server.drop v⟩, rfl⟩
  · rw [mailOfServe, mailOfServe, hdropped, if_neg hd, if_neg hd, hread, hread']
    rw [Bool.not_eq_true] at hd
    cases r with
    | incomplete =>
      rw [serve_of_incomplete hd hread, serve_of_incomplete (hdropped.trans hd) hread']
      exact ⟨⟨by rw [heq]; rfl, hreceived⟩, rfl⟩
    | broken =>
      rw [serve_of_broken hd hread, serve_of_broken (hdropped.trans hd) hread']
      exact ⟨⟨by rw [heq]; rfl, hreceived.drop v⟩, rfl⟩
    | frame f =>
      dsimp only
      rw [serve_of_frame hs.connected hd hread,
        serve_of_frame ht.connected (hdropped.trans hd) hread', h.answeredTo_eq, h.newsLetters_eq]
      exact ⟨⟨rfl, ((hreceived.relay _).requested _ _ _).send v _⟩, rfl⟩

theorem alike_serves_of_not_mem (h : s.AlikeBut c t) (hs : s.server.Sound) (ht : t.server.Sound)
    {vs : List ConnectionRef} (hc : c ∉ vs) :
    (vs.foldl serve s).AlikeBut c (vs.foldl serve t) ∧
      mailOfServes c t vs = mailOfServes c s vs := by
  induction vs generalizing s t with
  | nil => exact ⟨h, rfl⟩
  | cons v vs ih =>
    rw [List.mem_cons, not_or] at hc
    have hread : (t.server.connection v).incoming.readFrame =
        (s.server.connection v).incoming.readFrame := by
      rw [h.server.connection_eq v (Ne.symm hc.1)]
    obtain ⟨hserve, hmail⟩ := alike_serve h hs ht (v := v) rfl hread fun _ => rfl
    obtain ⟨hrest, hmails⟩ := ih hserve ((follows_serve hs v).sound hs)
      ((follows_serve ht v).sound ht) hc.2
    exact ⟨hrest, by rw [mailOfServes, mailOfServes, hmail, hmails]⟩

/-- Several are served, and from the client among them the same is read. -/
theorem alike_serves_of_mem (h : s.AlikeBut c t) (hs : s.server.Sound) (ht : t.server.Sound)
    (hos : s.server.Open c) (hot : t.server.Open c) {vs : List ConnectionRef} (hc : c ∈ vs)
    (hvs : vs.Nodup) {r : Reading} {rest rest' : ByteStream}
    (hread : (s.server.connection c).incoming.readFrame = (r, rest))
    (hread' : (t.server.connection c).incoming.readFrame = (r, rest')) :
    (vs.foldl serve s).AlikeBut c (vs.foldl serve t) ∧
      mailOfServes c t vs = mailOfServes c s vs := by
  obtain ⟨before, after, rfl⟩ := List.append_of_mem hc
  obtain ⟨hnot, -⟩ := List.nodup_cons.1 (List.nodup_middle.1 hvs)
  rw [List.mem_append, not_or] at hnot
  obtain ⟨hfirst, hmail₁⟩ := alike_serves_of_not_mem h hs ht hnot.1
  have hsound := (follows_serves hs before).sound hs
  have hsound' := (follows_serves ht before).sound ht
  have hread₁ : ((before.foldl serve s).server.connection c).incoming.readFrame = (r, rest) := by
    rw [(wrote_serves hs hos hnot.1).connection_eq]
    exact hread
  have hread₁' : ((before.foldl serve t).server.connection c).incoming.readFrame = (r, rest') := by
    rw [(wrote_serves ht hot hnot.1).connection_eq]
    exact hread'
  obtain ⟨hself, hmail₂⟩ := alike_serve hfirst hsound hsound' hread₁ hread₁'
    fun hne => absurd rfl hne
  obtain ⟨hrest, hmail₃⟩ := alike_serves_of_not_mem hself ((follows_serve hsound c).sound hsound)
    ((follows_serve hsound' c).sound hsound') hnot.2
  rw [mailOfServes_append, mailOfServes_append, mailOfServes, mailOfServes, hmail₁, hmail₂, hmail₃,
    List.foldl_append, List.foldl_append]
  exact ⟨hrest, rfl⟩

/-! ## What happens to both -/

/-- **What happens without the client leaves the services alike.** -/
theorem alike_of_spares (h : s.AlikeBut c t) (hs : s.server.Sound) (ht : t.server.Sound)
    {x : Happening} (hx : x.Spares c) :
    (s.happen x).AlikeBut c (t.happen x) ∧ t.mailOf c x = s.mailOf c x := by
  -- Nothing here looks at what is unread from the client, so both services do the same.
  cases x with
  | step e =>
    have hstep : t.step e = (e.outcome s).withServer (t.server.relay (e.told s)) := by
      rw [← step_withServer ht.connected, ← h.eq_withServer]
    have htold : e.told t = e.told s := by
      rw [h.eq_withServer, Step.told_withServer]
    refine ⟨?_, ?_⟩
    · rw [happen, happen, hstep, step_of_connected hs.connected]
      exact ⟨rfl, h.server.relay _⟩
    · rw [mailOf, mailOf, htold, h.newsLetters_eq]
  | connect =>
    refine ⟨?_, rfl⟩
    have hcan : (t.server.listening && decide (t.server.waiting.length < Server.maxWaiting)) =
        (s.server.listening && decide (s.server.waiting.length < Server.maxWaiting)) := by
      rw [Server.listening, Server.listening, h.server.listener_eq, h.server.waiting_eq]
    rw [happen, happen, Server.connect?, Server.connect?, hcan]
    by_cases hc : (s.server.listening &&
        decide (s.server.waiting.length < Server.maxWaiting)) = true
    · rw [if_pos hc, if_pos hc]
      have hcount := h.server.connectionCount_eq
      exact ⟨by rw [h.eq_withServer]; rfl, {
        listener_eq := h.server.listener_eq
        connectionCount_eq := congrArg (· + 1) hcount
        waiting_eq := congrArg₂ (fun l n => l ++ [(⟨n⟩ : ConnectionRef)]) h.server.waiting_eq hcount
        clients_eq := h.server.clients_eq
        subscribers_eq := h.server.subscribers_eq
        connection_eq := h.server.connection_eq
        sent_eq := h.server.sent_eq }⟩
    · rw [if_neg hc, if_neg hc]
      exact h
  | arrive v bytes cuts =>
    have hupdate := h.server.updateConnection (v := v) (f := fun k => k.arriveCut bytes cuts)
      (g := fun k => k.arriveCut bytes cuts) (fun _ => rfl) fun hv => absurd hv hx
    exact ⟨⟨by rw [h.eq_withServer]; rfl, hupdate⟩, rfl⟩
  | hangUp v =>
    have hupdate := h.server.updateConnection (v := v) (f := Connection.hangUp)
      (g := Connection.hangUp) (fun _ => rfl) fun hv => absurd hv hx
    exact ⟨⟨by rw [h.eq_withServer]; rfl, hupdate⟩, rfl⟩
  | poll => exact hx.elim

theorem alike_arrive (c : ConnectionRef) (s : Service) (bytes : List UInt8) (cuts : List Nat) :
    s.AlikeBut c (s.happen (.arrive c bytes cuts)) where
  eq_withServer := rfl
  server := {
    listener_eq := rfl
    connectionCount_eq := rfl
    waiting_eq := rfl
    clients_eq := rfl
    subscribers_eq := rfl
    connection_eq := fun v hv => by
      rw [happen, server_withServer, Server.connection_updateConnection, if_neg hv]
    sent_eq := by
      refine ⟨(s.server.connection c).incoming.arriveCut bytes cuts, ?_⟩
      rw [happen, server_withServer, Server.connection_updateConnection, if_pos rfl]
      rfl }

/-- **The same reading from the client leaves the services alike.** -/
theorem alike_poll {rounds : Nat} (h : s.AlikeBut c t) (hs : s.server.Serves c rounds)
    (ht : t.server.Serves c rounds) (hc : c ∈ t.readable ↔ c ∈ s.readable)
    (hread : c ∈ s.readable → (t.server.connection c).incoming.readFrame.1 =
      (s.server.connection c).incoming.readFrame.1) :
    (s.happen .poll).AlikeBut c (t.happen .poll) ∧ t.mailOf c .poll = s.mailOf c .poll := by
  have hreadable : t.readable = s.readable := by
    rw [readable, readable, h.server.clients_eq]
    refine List.filter_congr fun v hv => ?_
    by_cases hvc : v = c
    · subst hvc
      simpa [readable, h.server.clients_eq, hv] using hc
    · rw [h.server.connection_eq v hvc]
  have haccept : (s.withServer s.server.accept).AlikeBut c (t.withServer t.server.accept) :=
    ⟨by rw [h.eq_withServer]; rfl, h.server.accept⟩
  rw [happen_poll hs.listening, happen_poll ht.listening, mailOf, mailOf, if_pos hs.listening,
    if_pos ht.listening, hreadable]
  by_cases hmem : c ∈ s.readable
  · have hnodup := nodup_readable hs.sound
    have hsame := hread hmem
    rcases hread₁ : (s.server.connection c).incoming.readFrame with ⟨r, rest⟩
    rcases hread₂ : (t.server.connection c).incoming.readFrame with ⟨r', rest'⟩
    rw [hread₁, hread₂] at hsame
    subst hsame
    rw [← s.server.connection_accept] at hread₁
    rw [← t.server.connection_accept] at hread₂
    exact alike_serves_of_mem haccept hs.accept.sound ht.accept.sound hs.accept.isOpen
      ht.accept.isOpen hmem hnodup hread₁ hread₂
  · exact alike_serves_of_not_mem haccept hs.accept.sound ht.accept.sound hmem

end Service

end WindowTiling
