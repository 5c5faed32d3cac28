import WindowTiling.Proofs.InStep
import WindowTiling.Proofs.Lockstep

/-!
# How messages arrive

A client sends messages, their bytes arrive in pieces, and the server makes a round now and then.
It reads a message only as a whole. Does it matter then how the bytes arrive?

**Theorem (`answersAll_iff`).** All messages are answered just as if each of them arrived whole, and
the client is kept, exactly if the client is read in step.

That they are answered then follows from `requestsIn_of_inStep`. That it makes no difference how
they arrived is seen from two services in lockstep, of which one reads from messages that arrive
whole (`mail_whole`). The other direction counts bytes: what is answered is made of bytes that
arrived, and whenever no message can be read bytes are lost (`length_requestsIn_le`).
-/

namespace WindowTiling

namespace Server

/-- The connection has been closed, and never comes back. -/
structure Gone (s : Server) (c : ConnectionRef) : Prop where
  sound : s.Sound
  not_mem : c ∉ s.clients ++ s.waiting
  made : c.index < s.connectionCount

variable {s s' : Server} {c : ConnectionRef}

theorem Gone.of_follows (h : s.Gone c) (hf : s.Follows s') : s'.Gone c where
  sound := hf.sound h.sound
  not_mem := by
    rw [hf.waiting_eq]
    exact fun hmem => h.not_mem ((hf.clients_sublist.append (List.Sublist.refl _)).subset hmem)
  made := by
    rw [hf.connectionCount_eq]
    exact h.made

theorem Gone.accept (h : s.Gone c) : s.accept.Gone c := by
  refine ⟨sound_accept h.sound, ?_, ?_⟩
  · have hnot := h.not_mem
    rw [Server.accept]
    split
    · exact hnot
    · next v rest hwaiting =>
      rwa [hwaiting, ← List.singleton_append, ← List.append_assoc] at hnot
  · rw [Server.accept]
    split <;> exact h.made

theorem Gone.connect {v : ConnectionRef} (h : s.Gone c) (hconnect : s.connect? = some (s', v)) :
    s'.Gone c := by
  have hsound := sound_connect h.sound hconnect
  obtain ⟨-, rfl, rfl⟩ := connect?_eq_some hconnect
  refine ⟨hsound, ?_, Nat.lt_succ_of_lt h.made⟩
  have hne : c ≠ ⟨s.connectionCount⟩ := fun heq => by simpa [heq] using h.made
  have hnot := h.not_mem
  rw [List.mem_append, not_or] at hnot
  simp [hnot, hne]

end Server

namespace Service

variable {s : Service} {c v : ConnectionRef} {run : List Happening} {rounds : Nat}

/-! ## Clients that are gone -/

theorem gone_happen (h : s.server.Gone c) (x : Happening) : (s.happen x).server.Gone c := by
  cases x with
  | step e => exact h.of_follows (follows_step h.sound e)
  | connect =>
    rw [happen]
    cases hconnect : s.server.connect? with
    | none => exact h
    | some r => exact h.connect hconnect
  | arrive v bytes cuts =>
    exact h.of_follows (s.server.follows_updateConnection v fun k => k.arriveCut bytes cuts)
  | hangUp v => exact h.of_follows (s.server.follows_updateConnection v Connection.hangUp)
  | poll =>
    show s.poll.server.Gone c
    rw [poll]
    split
    · have hfollows := follows_serves (s := s.withServer s.server.accept) h.accept.sound s.readable
      exact h.accept.of_follows hfollows
    · exact h

theorem requestsIn_mailOf {x : Happening} (hx : x = .poll → c ∉ s.readable) :
    requestsIn (s.mailOf c x) = [] := by
  cases x with
  | step e => exact requestsIn_newsLetters ..
  | poll =>
    rw [mailOf]
    split
    · exact requestsIn_mailOfServes (hx rfl) _
    · rfl
  | _ => rfl

theorem inStep_of_gone (h : s.server.Gone c) (run : List Happening) :
    InStep c s run ∧ requestsIn (mail c s run) = [] := by
  induction run generalizing s with
  | nil => exact ⟨trivial, rfl⟩
  | cons x run ih =>
    obtain ⟨hin, hrequests⟩ := ih (gone_happen h x)
    have hc : c ∉ s.readable :=
      fun hmem => h.not_mem (List.mem_append_left _ (List.mem_filter.1 hmem).1)
    refine ⟨⟨fun _ hmem => absurd hmem hc, hin⟩, ?_⟩
    rw [mail, requestsIn_append, requestsIn_mailOf fun _ => hc, hrequests]
    rfl

theorem gone_serve (hs : s.server.Sound) (hc : c ∈ s.server.clients)
    (hdropped : (s.server.connection c).dropped = false) {rest : ByteStream}
    (hread : (s.server.connection c).incoming.readFrame = (.broken, rest)) :
    (s.serve c).server.Gone c := by
  refine ⟨(follows_serve hs c).sound hs, ?_, ?_⟩
  · rw [serve_of_broken hdropped hread]
    show c ∉ s.server.clients.erase c ++ s.server.waiting
    rw [List.mem_append, not_or]
    exact ⟨(List.nodup_append.1 hs.nodup).1.not_mem_erase,
      fun hw => List.disjoint_of_nodup_append hs.nodup hc hw⟩
  · rw [(follows_serve hs c).connectionCount_eq]
    exact hs.made c (List.mem_append_left _ hc)

/-- A client from which no message can be read is gone after the round. -/
theorem gone_of_broken (h : s.server.Serves c rounds) (hc : c ∈ s.readable)
    {rest : ByteStream} (hread : (s.server.connection c).incoming.readFrame = (.broken, rest)) :
    (s.happen .poll).server.Gone c ∧ requestsIn (s.mailOf c .poll) = [] := by
  have haccept := h.accept
  have hnodup := nodup_readable h.sound
  have hmem := Server.mem_clients_accept (List.mem_filter.1 hc).1
  rw [happen_poll h.listening, mailOf, if_pos h.listening]
  obtain ⟨before, after, heq⟩ := List.append_of_mem hc
  rw [heq] at hnodup ⊢
  obtain ⟨hnot, -⟩ := List.nodup_cons.1 (List.nodup_middle.1 hnodup)
  rw [List.mem_append, not_or] at hnot
  have hfirst :=
    wrote_serves (s := s.withServer s.server.accept) haccept.sound haccept.isOpen hnot.1
  have hsound := (follows_serves (s := s.withServer s.server.accept) haccept.sound before).sound
    haccept.sound
  rw [mailOfServes_append, mailOfServes, List.foldl_append, List.foldl_cons]
  rw [requestsIn_append, requestsIn_append, requestsIn_mailOfServes hnot.1,
    requestsIn_mailOfServes hnot.2]
  generalize before.foldl serve (s.withServer s.server.accept) = t at hfirst hsound ⊢
  have hopen := (hfirst.isOpen haccept.isOpen).dropped_eq
  have hread' : (t.server.connection c).incoming.readFrame = (.broken, rest) := by
    rw [hfirst.connection_eq]
    simpa using hread
  have hgone := gone_serve hsound (hfirst.mem_clients.2 hmem) hopen hread'
  exact ⟨hgone.of_follows (follows_serves hgone.sound after),
    by simp [mailOfServe, hopen, hread', requestsIn]⟩

/-! ## Counting bytes -/

/-- **The messages that are answered are made of bytes that arrived**, and not of all of them if
ever a whole message could not be read. -/
theorem length_requestsIn_le (h : s.server.Serves c rounds) (hstays : Stays c run) :
    (framesBytes (requestsIn (mail c s run))).length ≤
        (s.server.connection c).incoming.unread.length + (arriving c run).length ∧
      (¬InStep c s run → (framesBytes (requestsIn (mail c s run))).length <
        (s.server.connection c).incoming.unread.length + (arriving c run).length) := by
  have htail {s : Service} {x : Happening} {run : List Happening} (hx : x ≠ .poll)
      (hin : ¬InStep c s (x :: run)) : ¬InStep c (s.happen x) run :=
    fun h => hin ⟨fun heq => absurd heq hx, h⟩
  -- Both bounds are carried along together: once a message is lost the strict bound needs no more
  -- than the weak one for the rest of the run.
  induction run using Happening.run_induction c generalizing s rounds with
  | nil => exact ⟨Nat.zero_le _, fun h => absurd trivial h⟩
  | spares x run hx ih =>
    obtain ⟨hconnection, hrequests, hserves⟩ := serves_of_spares h hx
    obtain ⟨hle, hlt⟩ := ih hserves hstays.tail
    have hne : x ≠ .poll := by rintro rfl; exact hx
    rw [hconnection] at hle hlt
    rw [mail, requestsIn_append, hrequests, arriving_of_spares hx]
    exact ⟨hle, fun hin => hlt (htail hne hin)⟩
  | arrive bytes cuts run ih =>
    obtain ⟨hconnection, hserves⟩ := serves_arrive h bytes cuts
    obtain ⟨hle, hlt⟩ := ih hserves hstays.tail
    rw [hconnection, Connection.arriveCut, ByteStream.unread_arriveCut, List.length_append,
      Nat.add_assoc] at hle hlt
    rw [arriving_arrive, List.length_append]
    exact ⟨hle, fun hin => hlt (htail Happening.noConfusion hin)⟩
  | hangUp run ih => exact absurd (List.mem_cons_self ..) hstays
  | poll run ih =>
    rw [mail, requestsIn_append, arriving_poll]
    by_cases hc : c ∈ s.readable
    · by_cases hold : (s.server.connection c).incoming.HoldsFrame
      · obtain ⟨f, rest, hread, hlength, -⟩ := ByteStream.readFrame_of_holdsFrame hold
        obtain ⟨hconnection, hrequests, hserves⟩ :=
          poll_of_readFrom h ((if_pos hc).trans hread) Reading.noConfusion
        obtain ⟨hle, hlt⟩ := ih hserves hstays.tail
        rw [hconnection] at hle hlt
        have htotal : (framesBytes (requestsIn (s.mailOf c .poll) ++
            requestsIn (mail c (s.happen .poll) run))).length = f.encode.length +
            (framesBytes (requestsIn (mail c (s.happen .poll) run))).length := by
          rw [hrequests]
          simp [framesBytes, Reading.frame?]
        rw [htotal]
        dsimp only at hle hlt
        refine ⟨by omega, fun hin => ?_⟩
        have := hlt fun hrest => hin ⟨fun _ _ => hold, hrest⟩
        omega
      · -- Something is lost, so that the weak bound for the rest is enough.
        obtain ⟨-, hne⟩ := (mem_readable_iff h).1 hc
        obtain ⟨hframe, hlost⟩ := ByteStream.readFrame_of_not_holdsFrame hold hne
        rcases hread : (s.server.connection c).incoming.readFrame with ⟨f | _ | _, rest⟩ <;>
          rw [hread] at hframe hlost <;> dsimp only at hlost
        · exact absurd rfl (hframe f)
        · obtain ⟨hconnection, hrequests, hserves⟩ :=
            poll_of_readFrom h ((if_pos hc).trans hread) Reading.noConfusion
          obtain ⟨hle, -⟩ := ih hserves hstays.tail
          rw [hconnection] at hle
          dsimp only at hle
          rw [hrequests, Reading.frame?, Option.toList_none, List.nil_append]
          exact ⟨by omega, fun _ => by omega⟩
        · obtain ⟨hgone, hrequests⟩ := gone_of_broken h hc hread
          rw [hrequests, (inStep_of_gone hgone run).2]
          refine ⟨Nat.zero_le _, fun _ => ?_⟩
          show 0 < _
          omega
    · obtain ⟨hconnection, hrequests, hserves⟩ :=
        poll_of_readFrom h (if_neg hc) Reading.noConfusion
      obtain ⟨hle, hlt⟩ := ih hserves hstays.tail
      rw [hconnection] at hle hlt
      rw [hrequests]
      exact ⟨hle, fun hin => hlt fun hrest => hin ⟨fun _ hmem => absurd hmem hc, hrest⟩⟩

/-- **Not all messages are answered if ever a whole one could not be read.** -/
theorem requestsIn_ne_of_not_inStep (h : s.server.Serves c rounds) (hstays : Stays c run)
    (hunread : (s.server.connection c).incoming.unread = []) (hin : ¬InStep c s run) :
    framesBytes (requestsIn (mail c s run)) ≠ arriving c run := by
  intro heq
  have hlt := (length_requestsIn_le h hstays).2 hin
  rw [heq, hunread, List.length_nil, Nat.zero_add] at hlt
  exact Nat.lt_irrefl _ hlt

/-- **When all messages are answered**, with enough rounds in the end. -/
theorem requestsIn_eq_iff {fs : List Frame} {n : Nat} (h : s.server.Serves c rounds)
    (hnone : (s.server.connection c).incoming.unread = []) (hstays : Stays c run)
    (hfs : ∀ f ∈ fs, f.payload.length < wordBound) (hbytes : arriving c run = framesBytes fs)
    (hn : rounds + fs.length ≤ n) :
    requestsIn (mail c s (run ++ List.replicate n .poll)) = fs ↔
      InStep c s (run ++ List.replicate n .poll) := by
  refine ⟨fun hrequests => ?_, fun hin => ?_⟩
  · by_contra hin
    refine requestsIn_ne_of_not_inStep h (hstays.append_polls n) hnone hin ?_
    rw [hrequests, arriving_append_polls, hbytes]
  · have hunread : (s.server.connection c).incoming.unread ++ arriving c run = framesBytes fs := by
      rw [hnone, List.nil_append, hbytes]
    exact (requestsIn_of_inStep h hstays hin hfs hunread hn).1

/-! ## Messages that arrive whole -/

/-- The same run, but for how the messages of a client arrive: each of them does so all at once,
just before it is read. -/
def whole (c : ConnectionRef) : Service → List Happening → List Happening
  | _, [] => []
  | s, x :: run =>
    (match x with
    | .arrive v bytes cuts => if v = c then [] else [.arrive v bytes cuts]
    | .poll =>
      match (s.readFrom c).1 with
      | .frame f => [.arrive c f.encode [], .poll]
      | .incomplete | .broken => [.poll]
    | x => [x]) ++ whole c (s.happen x) run

theorem whole_of_spares {x : Happening} (hx : x.Spares c) (s : Service) (run : List Happening) :
    whole c s (x :: run) = x :: whole c (s.happen x) run := by
  cases x with
  | arrive v bytes cuts =>
    show (if v = c then _ else _) ++ _ = _
    rw [if_neg hx]
    rfl
  | poll => exact hx.elim
  | _ => rfl

theorem whole_arrive (s : Service) (bytes : List UInt8) (cuts : List Nat) (run : List Happening) :
    whole c s (.arrive c bytes cuts :: run) = whole c (s.happen (.arrive c bytes cuts)) run := by
  show (if c = c then _ else _) ++ _ = _
  rw [if_pos rfl]
  rfl

/-- A message that arrives all at once is read in the next round. -/
theorem read_of_arrive {t : Service} {f : Frame} (h : t.server.Serves c rounds)
    (hf : f.payload.length < wordBound) (hunread : (t.server.connection c).incoming.unread = []) :
    ∃ rest, ((t.happen (.arrive c f.encode [])).server.connection c).incoming.readFrame =
      (.frame f, rest) ∧ rest.unread = [] := by
  obtain ⟨hconnection, -⟩ := serves_arrive h f.encode []
  have hincoming : ((t.happen (.arrive c f.encode [])).server.connection c).incoming =
      ⟨[f.encode ++ []], (t.server.connection c).incoming.ended⟩ := by
    rw [hconnection, List.append_nil]
    show (⟨[_ ++ f.encode], _⟩ : ByteStream) = _
    rw [hunread, List.nil_append]
  rw [hincoming]
  exact ⟨_, ByteStream.readFrame_piece hf [] _, rfl⟩

/-- A round that reads a message in one service, and in the other after this message has arrived all
at once, on which nothing else is unread. -/
theorem alike_poll_of_arrive {t u : Service} {f : Frame} {rest : ByteStream} (h : s.AlikeBut c t)
    (hs : s.server.Serves c rounds) (ht : t.server.Serves c rounds)
    (hnone : (t.server.connection c).incoming.unread = []) (hf : f.payload.length < wordBound)
    (hread : s.readFrom c = (.frame f, rest)) (hu : t.happen (.arrive c f.encode []) = u) :
    (s.happen .poll).AlikeBut c (u.happen .poll) ∧ u.mailOf c .poll = s.mailOf c .poll ∧
      (u.happen .poll).server.Serves c (rounds - 1) ∧
      ((u.happen .poll).server.connection c).incoming.unread = [] := by
  obtain ⟨-, hserves⟩ := serves_arrive ht f.encode []
  obtain ⟨rest', hread', hrest'⟩ := read_of_arrive ht hf hnone
  have halike := h.trans (alike_arrive c t f.encode [])
  rw [hu] at hserves hread' halike
  have hc : c ∈ s.readable := by
    by_contra hc
    rw [readFrom, if_neg hc] at hread
    exact Reading.noConfusion (congrArg Prod.fst hread)
  have hc' : c ∈ u.readable := by
    refine (mem_readable_iff hserves).2 ⟨?_, fun hnil => ?_⟩
    · rw [halike.server.clients_eq]
      exact ((mem_readable_iff hs).1 hc).1
    · rw [ByteStream.readFrame_of_unread_eq_nil hnil hserves.ended_eq] at hread'
      exact Reading.noConfusion (congrArg Prod.fst hread')
  rw [readFrom, if_pos hc] at hread
  obtain ⟨hpoll, hmail⟩ := alike_poll halike hs hserves (iff_of_true hc' hc)
    fun _ => by rw [hread', hread]
  obtain ⟨hconnection, -, hserves'⟩ :=
    poll_of_readFrom hserves ((if_pos hc').trans hread') Reading.noConfusion
  exact ⟨hpoll, hmail, hserves', by rw [hconnection]; exact hrest'⟩

theorem alike_poll_of_not_mem {t : Service} (h : s.AlikeBut c t) (hs : s.server.Serves c rounds)
    (ht : t.server.Serves c rounds) (hnone : (t.server.connection c).incoming.unread = [])
    (hc : c ∉ s.readable) :
    (s.happen .poll).AlikeBut c (t.happen .poll) ∧ t.mailOf c .poll = s.mailOf c .poll ∧
      (t.happen .poll).server.Serves c (rounds - 1) ∧
      ((t.happen .poll).server.connection c).incoming.unread = [] := by
  have hc' : c ∉ t.readable := fun hc => ((mem_readable_iff ht).1 hc).2 hnone
  obtain ⟨hpoll, hmail⟩ := alike_poll h hs ht (iff_of_false hc' hc) fun hmem => absurd hmem hc
  obtain ⟨hconnection, -, hserves⟩ := poll_of_readFrom ht (if_neg hc') Reading.noConfusion
  exact ⟨hpoll, hmail, hserves, by rw [hconnection]; exact hnone⟩

/-- **Read in step, a client is answered as if its messages arrived whole.** -/
theorem mail_whole {t : Service} {fs : List Frame} (h : s.AlikeBut c t)
    (hs : s.server.Serves c rounds) (ht : t.server.Serves c rounds)
    (hnone : (t.server.connection c).incoming.unread = []) (hstays : Stays c run)
    (hin : InStep c s run) (hfs : ∀ f ∈ fs, f.payload.length < wordBound)
    (hunread : (s.server.connection c).incoming.unread ++ arriving c run = framesBytes fs) :
    mail c t (whole c s run) = mail c s run := by
  -- The invariant is that the services differ only in what is unread from the client, and that
  -- nothing is unread from it in the second one. Only a round that reads a message needs care:
  -- there the message arrives in the second run just before the round.
  induction run using Happening.run_induction c generalizing s t fs rounds with
  | nil => rfl
  | spares x run hx ih =>
    obtain ⟨hconnection, -, hserves⟩ := serves_of_spares hs hx
    obtain ⟨hconnection', -, hserves'⟩ := serves_of_spares ht hx
    obtain ⟨halike, hmail⟩ := alike_of_spares h hs.sound ht.sound hx
    rw [arriving_of_spares hx] at hunread
    rw [whole_of_spares hx, mail, mail, hmail, ih halike hserves hserves'
      (by rw [hconnection']; exact hnone) hstays.tail hin.2 hfs
      (by rw [hconnection]; exact hunread)]
  | arrive bytes cuts run ih =>
    obtain ⟨hconnection, hserves⟩ := serves_arrive hs bytes cuts
    rw [arriving_arrive, ← List.append_assoc] at hunread
    rw [whole_arrive, ih ((alike_arrive c s bytes cuts).symm.trans h) hserves ht hnone hstays.tail
      hin.2 hfs (by
        rw [hconnection, Connection.arriveCut, ByteStream.unread_arriveCut]
        exact hunread)]
    rfl
  | hangUp run ih => exact absurd (List.mem_cons_self ..) hstays
  | poll run ih =>
    obtain ⟨r, rest, left, hread, hr, hfs₁, hrest, hsome⟩ :=
      readFrom_of_inStep hs (hin.1 rfl) hfs _ hunread
    have hleft : ∀ f ∈ left, f.payload.length < wordBound :=
      fun f hf => hfs f (hfs₁ ▸ List.mem_append_right _ hf)
    obtain ⟨hconnection, -, hserves⟩ := poll_of_readFrom hs hread hr
    have hrest' : ((s.happen .poll).server.connection c).incoming.unread ++ arriving c run =
        framesBytes left := by
      rw [hconnection]
      exact hrest
    cases r with
    | broken => exact absurd rfl hr
    | incomplete =>
      have hc : c ∉ s.readable := fun hc => Bool.noConfusion (hsome hc)
      obtain ⟨halike, hmail, hserves', hnone'⟩ := alike_poll_of_not_mem h hs ht hnone hc
      have hwhole : whole c s (.poll :: run) = .poll :: whole c (s.happen .poll) run := by
        rw [whole, hread]
        rfl
      rw [hwhole, mail, mail, hmail,
        ih halike hserves hserves' hnone' hstays.tail hin.2 hleft hrest']
    | frame f =>
      have hf : f.payload.length < wordBound :=
        hfs f (hfs₁ ▸ List.mem_append_left _ (List.mem_singleton.2 rfl))
      obtain ⟨halike, hmail, hserves', hnone'⟩ :=
        alike_poll_of_arrive h hs ht hnone hf hread rfl
      have hmail' : t.mailOf c (.arrive c f.encode []) = [] := rfl
      have hwhole : whole c s (.poll :: run) =
          .arrive c f.encode [] :: .poll :: whole c (s.happen .poll) run := by
        rw [whole, hread]
        rfl
      rw [hwhole, mail, hmail', List.nil_append, mail, mail, hmail,
        ih halike hserves hserves' hnone' hstays.tail hin.2 hleft hrest']

theorem arriving_whole {fs : List Frame} (h : s.server.Serves c rounds) (hstays : Stays c run)
    (hin : InStep c s run) (hfs : ∀ f ∈ fs, f.payload.length < wordBound)
    (hunread : (s.server.connection c).incoming.unread ++ arriving c run = framesBytes fs) :
    arriving c (whole c s run) = framesBytes (requestsIn (mail c s run)) := by
  induction run using Happening.run_induction c generalizing s fs rounds with
  | nil => rfl
  | spares x run hx ih =>
    obtain ⟨hconnection, hrequests, hserves⟩ := serves_of_spares h hx
    rw [arriving_of_spares hx] at hunread
    rw [whole_of_spares hx, arriving_of_spares hx, mail, requestsIn_append, hrequests]
    exact ih hserves hstays.tail hin.2 hfs (by rw [hconnection]; exact hunread)
  | arrive bytes cuts run ih =>
    obtain ⟨hconnection, hserves⟩ := serves_arrive h bytes cuts
    rw [arriving_arrive, ← List.append_assoc] at hunread
    rw [whole_arrive]
    exact ih hserves hstays.tail hin.2 hfs (by
      rw [hconnection, Connection.arriveCut, ByteStream.unread_arriveCut]
      exact hunread)
  | hangUp run ih => exact absurd (List.mem_cons_self ..) hstays
  | poll run ih =>
    obtain ⟨r, rest, left, hread, hr, hfs₁, hrest, -⟩ :=
      readFrom_of_inStep h (hin.1 rfl) hfs _ hunread
    obtain ⟨hconnection, hrequests, hserves⟩ := poll_of_readFrom h hread hr
    have hrest' := ih hserves hstays.tail hin.2
      (fun f hf => hfs f (hfs₁ ▸ List.mem_append_right _ hf)) (by rw [hconnection]; exact hrest)
    rw [whole, hread, mail, requestsIn_append, hrequests]
    cases r with
    | broken => exact absurd rfl hr
    | incomplete => exact hrest'
    | frame f =>
      show arriving c (.arrive c f.encode [] :: .poll :: _) = f.encode ++ framesBytes _
      rw [arriving_arrive, arriving_poll]
      exact congrArg (f.encode ++ ·) hrest'

/-! ## Whether the cutting matters -/

/-- These messages are answered, each of them once and in order, the client is sent the same as if
each of them arrived whole, and it is kept. -/
structure AnswersAll (c : ConnectionRef) (s : Service) (run : List Happening) (fs : List Frame) :
    Prop where
  requests_eq : requestsIn (mail c s run) = fs
  written_eq : ((s.through run).server.connection c).written =
    (s.server.connection c).written ++ mailBytes (mail c s run)
  arriving_whole : arriving c (whole c s run) = framesBytes fs
  mail_whole : mail c s (whole c s run) = mail c s run
  mem_clients : c ∈ (s.through run).server.clients
  isOpen : (s.through run).server.Open c

/-- **When it does not matter how messages arrive.** With enough rounds in the end, the messages of
a client are answered as if each of them arrived whole, just when the client is read in step. -/
theorem answersAll_iff {fs : List Frame} {n : Nat} (h : s.server.Serves c rounds)
    (hnone : (s.server.connection c).incoming.unread = []) (hstays : Stays c run)
    (hfs : ∀ f ∈ fs, f.payload.length < wordBound) (hbytes : arriving c run = framesBytes fs)
    (hn : rounds + fs.length ≤ n) :
    AnswersAll c s (run ++ List.replicate n .poll) fs ↔
      InStep c s (run ++ List.replicate n .poll) := by
  refine ⟨fun hall => (requestsIn_eq_iff h hnone hstays hfs hbytes hn).1 hall.requests_eq,
    fun hin => ?_⟩
  have hstays' := hstays.append_polls n
  have hunread : (s.server.connection c).incoming.unread ++ arriving c run = framesBytes fs := by
    rw [hnone, List.nil_append, hbytes]
  have hunread' := (arriving_append_polls c run n).symm ▸ hunread
  obtain ⟨hrequests, hserves⟩ := requestsIn_of_inStep h hstays hin hfs hunread hn
  obtain ⟨-, -, -, hwritten, -⟩ := through_of_inStep h hstays' hin hfs []
    (by rw [List.append_nil]; exact hunread')
  refine ⟨hrequests, hwritten, ?_, ?_, ?_, hserves.isOpen⟩
  · rw [arriving_whole h hstays' hin hfs hunread', hrequests]
  · exact mail_whole (AlikeBut.refl c s) h h hnone hstays' hin hfs hunread'
  · exact hserves.place.resolve_right fun ⟨_, _, _, hlt⟩ => Nat.not_lt_zero _ hlt

/-- A message arrives in three pieces, of which the first two are its header. -/
theorem answersAll_iff_header_apart :
    let s := ((unoccupied .smart 1).withServer { listener := .listening }).happen .connect
    let f : Frame := ⟨0, [0x73, 0x74, 0x61, 0x74, 0x75, 0x73]⟩
    let run : List Happening :=
      [.arrive ⟨0⟩ (f.encode.take 5) [], .arrive ⟨0⟩ (f.encode.drop 5) [14]]
    s.server.Serves ⟨0⟩ 1 ∧ (s.server.connection ⟨0⟩).incoming.unread = [] ∧ Stays ⟨0⟩ run ∧
      (∀ g ∈ [f], g.payload.length < wordBound) ∧ arriving ⟨0⟩ run = framesBytes [f] ∧
      AnswersAll ⟨0⟩ s (run ++ List.replicate 2 .poll) [f] := by
  intro s f run
  obtain ⟨hserves, hnone⟩ :=
    Server.Serves.of_connect (Server.sound_of_listener .listening) rfl rfl
  have hstays : Stays ⟨0⟩ run := by decide
  have hfs : ∀ g ∈ [f], g.payload.length < wordBound := by decide
  have hbytes : arriving ⟨0⟩ run = framesBytes [f] := by decide
  exact ⟨hserves, hnone, hstays, hfs, hbytes,
    (answersAll_iff hserves hnone hstays hfs hbytes (by decide)).2 (by decide)⟩

/-- **A message that arrives in two pieces is lost** if the server makes a round between them: it
does not wait for the rest, which it takes for the start of a message, so that it drops the client.
If the message arrives whole it is answered. -/
theorem message_cut_in_payload_lost :
    let s := ((unoccupied .smart 1).withServer { listener := .listening }).happen .connect
    let f : Frame := ⟨0, [0x73, 0x74, 0x61, 0x74, 0x75, 0x73]⟩
    let whole : List Happening := [.poll, .arrive ⟨0⟩ f.encode [], .poll, .poll, .poll]
    let cut : List Happening := [.poll, .arrive ⟨0⟩ (f.encode.take 17) [], .poll,
      .arrive ⟨0⟩ (f.encode.drop 17) [], .poll, .poll]
    arriving ⟨0⟩ whole = f.encode ∧ requestsIn (mail ⟨0⟩ s whole) = [f] ∧
      arriving ⟨0⟩ cut = f.encode ∧ requestsIn (mail ⟨0⟩ s cut) = [] ∧
      ⟨0⟩ ∉ (s.through cut).server.clients ∧ ¬AnswersAll ⟨0⟩ s cut [f] := by
  intro s f whole cut
  have hrequests : requestsIn (mail ⟨0⟩ s cut) = [] := by decide +kernel
  refine ⟨by decide, by decide +kernel, by decide, hrequests, by decide +kernel, fun hall => ?_⟩
  exact List.cons_ne_nil _ _ (hall.requests_eq.symm.trans hrequests)

end Service

end WindowTiling
