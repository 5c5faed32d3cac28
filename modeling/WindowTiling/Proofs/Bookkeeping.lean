import WindowTiling.Proofs.DraggedTarget
import WindowTiling.Proofs.Mail

/-!
# The list of clients and the subscriptions

A client is forgotten in several places: when it cannot be read from, when it cannot be written to,
be it an answer or an event that somebody else has caused, and when the server stops. All of this
may happen while the server goes over a list that it has made before, so that a client can be
forgotten twice, or be served although it is gone.

**Theorem (`clients_kept`).** The books stay in order all the same, however often writing fails. No
client is listed twice, whoever has subscribed is a client, and a connection that the server has
closed is neither. Whatever fails for one client, another one keeps its place and its subscriptions
unless writing fails for it too. Once the server has stopped nobody is left, and no event is written
to anybody.

What the server has of a client is its `Standing`. What others do comes to it only as news
(`Standing.told`), which depends on nothing but the standing itself. The order of the books is an
invariant (`Kept`) which each thing that is done to the server keeps.
-/

namespace WindowTiling

namespace Server

variable {s s' : Server} {c v : ConnectionRef}

/-! ## Books in order -/

/-- The connection has been accepted, whatever has become of it. -/
def Accepted (s : Server) (c : ConnectionRef) : Prop :=
  c.index < s.connectionCount ∧ c ∉ s.waiting

instance (s : Server) (c : ConnectionRef) : Decidable (s.Accepted c) :=
  inferInstanceAs (Decidable (_ ∧ _))

/-- The books are in order: whoever has subscribed is a client, and the connections that the server
has closed are those that are neither waiting nor clients any more. -/
structure Kept (s : Server) : Prop where
  sound : s.Sound
  subscribed : ∀ key ∈ s.subscribers.keys, ∃ c ∈ s.clients, key = some c
  dropped_iff : ∀ c, (s.connection c).dropped = true ↔
    c.index < s.connectionCount ∧ c ∉ s.clients ++ s.waiting

theorem kept_empty : Kept {} where
  sound := sound_of_listener .absent
  subscribed _ hkey := absurd hkey List.not_mem_nil
  dropped_iff _ := ⟨fun h => absurd h Bool.false_ne_true, fun h => absurd h.1 (Nat.not_lt_zero _)⟩

theorem Kept.accepted_of_mem (h : s.Kept) (hc : c ∈ s.clients) : s.Accepted c :=
  ⟨h.sound.made c (List.mem_append_left _ hc),
    fun hw => List.disjoint_of_nodup_append h.sound.nodup hc hw⟩

theorem Kept.mem_clients_of_accepted (h : s.Kept) (hc : s.Accepted c)
    (hopen : (s.connection c).dropped = false) : c ∈ s.clients := by
  by_contra hnot
  have hdropped := (h.dropped_iff c).2
    ⟨hc.1, by rw [List.mem_append, not_or]; exact ⟨hnot, hc.2⟩⟩
  rw [hopen] at hdropped
  exact Bool.false_ne_true hdropped

theorem Accepted.of_follows (h : s.Accepted c) (hf : s.Follows s') : s'.Accepted c := by
  rw [Accepted, hf.connectionCount_eq, hf.waiting_eq]
  exact h

/-! ## What keeps the books in order -/

theorem Kept.updateConnection (h : s.Kept) (v : ConnectionRef) {f : Connection → Connection}
    (hf : (f (s.connection v)).dropped = (s.connection v).dropped) :
    (s.updateConnection v f).Kept where
  sound := (s.follows_updateConnection v f).sound h.sound
  subscribed := h.subscribed
  dropped_iff c := by
    rw [connection_updateConnection]
    split
    · next hc =>
      subst hc
      rw [hf]
      exact h.dropped_iff c
    · exact h.dropped_iff c

theorem Kept.drop (h : s.Kept) (hv : s.Accepted v) : (s.drop v).Kept where
  sound := (s.follows_drop v).sound h.sound
  subscribed key hkey := by
    obtain ⟨c, hc, rfl⟩ := h.subscribed key ((s.keys_drop_sublist v).subset hkey)
    have hne : c ≠ v := by
      rintro rfl
      exact Roster.not_mem_keys_erase h.sound.nodup_subscribers _ hkey
    exact ⟨c, (List.mem_erase_of_ne hne).2 hc, rfl⟩
  dropped_iff c := by
    have hnodup := (List.nodup_append.1 h.sound.nodup).1
    show ((s.updateConnection v fun k => { k with dropped := true }).connection c).dropped = true ↔
      c.index < s.connectionCount ∧ c ∉ s.clients.erase v ++ s.waiting
    rw [connection_updateConnection, List.mem_append, hnodup.mem_erase_iff]
    by_cases hc : c = v
    · subst hc
      have hmade : c.index < s.connectionCount ∧ c ∉ s.waiting := hv
      simpa using hmade
    · rw [if_neg hc, h.dropped_iff c, List.mem_append]
      simp [hc]

theorem dropped_write (k : Connection) (bytes : List UInt8) :
    (k.write bytes).1.dropped = k.dropped := by
  rw [Connection.write]
  split
  · rfl
  · split <;> rfl

theorem Kept.send (h : s.Kept) (hv : s.Accepted v) (f : Frame) : (s.send v f).Kept := by
  have hwritten : (s.updateConnection v fun _ => ((s.connection v).write f.encode).1).Kept :=
    h.updateConnection v (dropped_write _ _)
  rw [Server.send]
  dsimp only
  split
  · exact hwritten
  · exact hwritten.drop hv

theorem Kept.sendAll (h : s.Kept) (f : Frame) {l : List (Option ConnectionRef)}
    (hl : ∀ v, some v ∈ l → s.Accepted v) : (s.sendAll f l).1.Kept := by
  induction l generalizing s with
  | nil => exact h
  | cons v l ih =>
    cases v with
    | none => exact h
    | some v =>
      refine ih (h.send (hl v List.mem_cons_self) f) fun w hw => ?_
      exact (hl w (List.mem_cons_of_mem _ hw)).of_follows (s.follows_send v f)

theorem Kept.relay (h : s.Kept) (news : List News) : (s.relay news).Kept := by
  induction news generalizing s with
  | nil => exact h
  | cons n news ih =>
    refine ih (h.sendAll _ fun v hv => ?_)
    have hkey : some v ∈ s.subscribers.keys := (List.filter_sublist.map _).subset hv
    obtain ⟨c, hc, heq⟩ := h.subscribed _ hkey
    obtain rfl := Option.some_inj.1 heq
    exact h.accepted_of_mem hc

theorem Kept.requested (h : s.Kept) (hv : v ∈ s.clients) (type : Int) (payload : List UInt8) :
    (s.requested (some v) type payload).Kept where
  sound := (s.follows_requested v type payload).sound h.sound
  subscribed key hkey := by
    rw [clients_requested]
    rw [Server.requested] at hkey
    split at hkey
    · obtain ⟨e, he, rfl⟩ := List.mem_map.1 hkey
      rcases Roster.mem_of_mem_insert he with rfl | he
      · exact ⟨v, hv, rfl⟩
      · exact h.subscribed _ (List.mem_map_of_mem he)
    · exact h.subscribed key hkey
  dropped_iff c := by
    have hf := s.follows_requested v type payload
    rw [connection_requested, clients_requested, hf.connectionCount_eq, hf.waiting_eq]
    exact h.dropped_iff c

theorem Kept.accept (h : s.Kept) : s.accept.Kept where
  sound := sound_accept h.sound
  subscribed key hkey := by
    rw [subscribers_accept] at hkey
    obtain ⟨c, hc, rfl⟩ := h.subscribed key hkey
    exact ⟨c, mem_clients_accept hc, rfl⟩
  dropped_iff c := by
    have hiff := h.dropped_iff c
    rw [connection_accept, Server.accept]
    split
    · exact hiff
    · next v rest hwaiting => rw [hiff, hwaiting]; simp

theorem Kept.connect (h : s.Kept) (hconnect : s.connect? = some (s', v)) : s'.Kept := by
  have hsound := sound_connect h.sound hconnect
  obtain ⟨-, rfl, rfl⟩ := connect?_eq_some hconnect
  refine ⟨hsound, h.subscribed, fun c => (h.dropped_iff c).trans ?_⟩
  show _ ↔ c.index < s.connectionCount + 1 ∧ c ∉ s.clients ++ (s.waiting ++ [⟨s.connectionCount⟩])
  have hmem : c ∈ s.clients ++ (s.waiting ++ [⟨s.connectionCount⟩]) ↔
      c ∈ s.clients ++ s.waiting ∨ c = ⟨s.connectionCount⟩ := by simp [or_assoc]
  rw [hmem, not_or]
  constructor
  · rintro ⟨hlt, hnot⟩
    refine ⟨Nat.lt_succ_of_lt hlt, hnot, ?_⟩
    rintro rfl
    exact Nat.lt_irrefl _ hlt
  · rintro ⟨hlt, hnot, hne⟩
    refine ⟨Nat.lt_of_le_of_ne (Nat.le_of_lt_succ hlt) fun heq => hne ?_, hnot⟩
    rw [← heq]

theorem connection_foldl_close (l : List ConnectionRef) (s : Server) (c : ConnectionRef) :
    (l.foldl (fun s c => s.updateConnection c fun k => { k with dropped := true }) s).connection c =
      if c ∈ l then { s.connection c with dropped := true } else s.connection c := by
  induction l generalizing s with
  | nil => rfl
  | cons v l ih =>
    rw [List.foldl_cons, ih, connection_updateConnection]
    by_cases hc : c = v
    · subst hc
      simp
    · simp [hc]

theorem foldl_close_eq (l : List ConnectionRef) (s : Server) :
    l.foldl (fun s c => s.updateConnection c fun k => { k with dropped := true }) s =
      { s with connections := (l.foldl (fun s c => s.updateConnection c fun k =>
        { k with dropped := true }) s).connections } := by
  induction l generalizing s with
  | nil => rfl
  | cons v l ih =>
    rw [List.foldl_cons, ih]
    rfl

theorem Kept.replaceListener (h : s.Kept) (listener : Listener) :
    (s.replaceListener listener).Kept := by
  rw [Server.replaceListener, turnAway, foldl_close_eq]
  refine ⟨⟨h.sound.connected, h.sound.nodup_subscribers, ?_, ?_⟩, h.subscribed, fun c => ?_⟩
  · rw [List.append_nil]
    exact (List.nodup_append.1 h.sound.nodup).1
  · intro v hv
    rw [List.append_nil] at hv
    exact h.sound.made v (List.mem_append_left _ hv)
  · show ((s.waiting.foldl (fun s c => s.updateConnection c fun k =>
      { k with dropped := true }) s).connection c).dropped = true ↔
      c.index < s.connectionCount ∧ c ∉ s.clients ++ []
    rw [connection_foldl_close, List.append_nil]
    split
    · next hw =>
      exact iff_of_true rfl ⟨h.sound.made c (List.mem_append_right _ hw),
        fun hc => List.disjoint_of_nodup_append h.sound.nodup hc hw⟩
    · next hw =>
      rw [h.dropped_iff c, List.mem_append, or_iff_left hw]

/-! ## Stopping -/

theorem Kept.foldl_drop (h : s.Kept) {l : List ConnectionRef} (hl : ∀ v ∈ l, s.Accepted v) :
    (l.foldl Server.drop s).Kept := by
  induction l generalizing s with
  | nil => exact h
  | cons v l ih =>
    refine ih (h.drop (hl v List.mem_cons_self)) fun w hw => ?_
    exact (hl w (List.mem_cons_of_mem v hw)).of_follows (s.follows_drop v)

theorem clients_foldl_drop {l : List ConnectionRef} (h : s.clients = l) :
    (l.foldl drop s).clients = [] := by
  induction l generalizing s with
  | nil => exact h
  | cons v l ih =>
    refine ih ?_
    show s.clients.erase v = l
    rw [h, List.erase_cons_head]

theorem Kept.stop (h : s.Kept) : s.stop.Kept :=
  (h.foldl_drop fun _ hv => h.accepted_of_mem hv).replaceListener .absent

theorem Kept.subscribers_eq_nil (h : s.Kept) (hc : s.clients = []) : s.subscribers = [] := by
  refine List.eq_nil_iff_forall_not_mem.2 fun e he => ?_
  obtain ⟨c, hmem, -⟩ := h.subscribed e.1 (List.mem_map_of_mem he)
  rw [hc] at hmem
  exact List.not_mem_nil hmem

theorem clients_replaceListener (s : Server) (listener : Listener) :
    (s.replaceListener listener).clients = s.clients := by
  rw [replaceListener, turnAway, foldl_close_eq]

theorem clients_stop (s : Server) : s.stop.clients = [] :=
  (clients_replaceListener _ _).trans (clients_foldl_drop rfl)

/-! ## What the server has of a client -/

/-- What the server has of a client: its connection, whether it is on the list, and the channels to
which it has subscribed. -/
structure Standing where
  connection : Connection
  listed : Bool
  channels : Option (List Channel)

namespace Standing

/-- A message is sent. If not all of it can be written the client is forgotten. -/
def send (st : Standing) (f : Frame) : Standing :=
  let (k, complete) := st.connection.write f.encode
  if complete then { st with connection := k } else ⟨{ k with dropped := true }, false, none⟩

/-- News is sent as far as it goes over channels of the client. -/
def told (st : Standing) (news : List News) : Standing :=
  news.foldl (fun st n => if st.channels.any (·.contains n.1) then st.send (newsFrame n) else st) st

theorem told_cons (st : Standing) (n : News) (news : List News) : st.told (n :: news) =
    (if st.channels.any (·.contains n.1) then st.send (newsFrame n) else st).told news := rfl

end Standing

/-- What the server has of a client. -/
def standing (s : Server) (c : ConnectionRef) : Standing :=
  ⟨s.connection c, c ∈ s.clients, s.subscribers.find? (some c)⟩

theorem standing_updateConnection_of_ne (h : v ≠ c) (s : Server) (f : Connection → Connection) :
    (s.updateConnection v f).standing c = s.standing c := by
  have hconnection := connection_updateConnection s v c f
  rw [if_neg h.symm] at hconnection
  rw [standing, hconnection]
  rfl

theorem standing_drop_of_ne (h : v ≠ c) (s : Server) : (s.drop v).standing c = s.standing c := by
  have hconnection := (wrote_drop h s).connection_eq
  rw [List.append_nil] at hconnection
  rw [standing, standing, (wrote_drop h s).find?_eq, hconnection]
  simp only [(wrote_drop h s).mem_clients]

/-- What is sent to others, whether it can be written or not, is nothing to a client. -/
theorem standing_send_of_ne (h : v ≠ c) (s : Server) (f : Frame) :
    (s.send v f).standing c = s.standing c := by
  rw [Server.send]
  dsimp only
  split
  · exact standing_updateConnection_of_ne h s _
  · exact (standing_drop_of_ne h _).trans (standing_updateConnection_of_ne h s _)

theorem standing_drop_self (hs : s.Sound) (c : ConnectionRef) : (s.drop c).standing c =
    ⟨{ s.connection c with dropped := true }, false, none⟩ := by
  have hconnection : (s.drop c).connection c = { s.connection c with dropped := true } := by
    have h := connection_updateConnection s c c fun k => { k with dropped := true }
    rwa [if_pos rfl] at h
  have hclients : c ∉ (s.drop c).clients := (List.nodup_append.1 hs.nodup).1.not_mem_erase
  have hfind : (s.drop c).subscribers.find? (some c) = none :=
    Roster.find?_eq_none (Roster.not_mem_keys_erase hs.nodup_subscribers _)
  rw [standing, hconnection, hfind, decide_eq_false hclients]

theorem standing_send (hs : s.Sound) (c : ConnectionRef) (f : Frame) :
    (s.send c f).standing c = (s.standing c).send f := by
  have hconnection : ∀ k, (s.updateConnection c fun _ => k).connection c = k := fun k => by
    rw [connection_updateConnection, if_pos rfl]
  rw [Server.send, Standing.send]
  dsimp only [standing]
  split
  · rw [hconnection]
    rfl
  · have hdrop := standing_drop_self ((s.follows_updateConnection c fun _ =>
      ((s.connection c).write f.encode).1).sound hs) c
    rw [hconnection] at hdrop
    exact hdrop

theorem standing_sendAll (hs : s.Sound) (c : ConnectionRef) (f : Frame)
    {l : List (Option ConnectionRef)} (hl : l.Nodup) (hnone : none ∉ l) :
    (s.sendAll f l).1.standing c =
      if some c ∈ l then (s.standing c).send f else s.standing c := by
  induction l generalizing s with
  | nil => rfl
  | cons v l ih =>
    obtain ⟨hv, hl'⟩ := List.nodup_cons.1 hl
    have hnone' : none ∉ l := fun h => hnone (List.mem_cons_of_mem _ h)
    cases v with
    | none => exact absurd List.mem_cons_self hnone
    | some v =>
      rw [Server.sendAll, ih ((s.follows_send v f).sound hs) hl' hnone']
      by_cases hvc : v = c
      · subst hvc
        rw [if_neg hv, if_pos List.mem_cons_self, standing_send hs]
      · simp only [standing_send_of_ne hvc, List.mem_cons, Option.some_inj, Ne.symm hvc, false_or]

/-- **News comes to a client as it would if it were the only one.** -/
theorem standing_relay (hs : s.Sound) (c : ConnectionRef) (news : List News) :
    (s.relay news).standing c = (s.standing c).told news := by
  induction news generalizing s with
  | nil => rfl
  | cons n news ih =>
    have hsub : ((s.subscribers.filter fun e => e.2.contains n.1).map (·.1)).Sublist
        s.subscribers.keys := List.filter_sublist.map _
    have hbroadcast := standing_sendAll hs c (newsFrame n) (hs.nodup_subscribers.sublist hsub)
      fun hnone => hs.connected (hsub.subset hnone)
    simp only [Roster.mem_keys_filter hs.nodup_subscribers
      (fun channels => channels.contains n.1) (some c)] at hbroadcast
    have hsound : (s.broadcast n.1 n.2.payload).1.Sound := (s.follows_sendAll _ _).sound hs
    rw [relay_cons, ih hsound, Standing.told_cons]
    exact congrArg (·.told news) hbroadcast

theorem standing_requested_of_ne (h : v ≠ c) (s : Server) (type : Int) (payload : List UInt8) :
    (s.requested (some v) type payload).standing c = s.standing c := by
  rw [standing, (wrote_requested h s type payload).find?_eq, connection_requested,
    clients_requested]
  rfl

namespace Standing

/-- The client is as it was on the list and among those who have subscribed, unless its connection
has been closed. -/
def Keeps (st st' : Standing) : Prop :=
  st'.connection.dropped = false →
    st.connection.dropped = false ∧ st'.listed = st.listed ∧ st'.channels = st.channels

theorem keeps_send (st : Standing) (f : Frame) : st.Keeps (st.send f) := by
  have hdropped := dropped_write st.connection f.encode
  rw [send, Keeps]
  dsimp only
  split
  · exact fun h => ⟨hdropped.symm.trans h, rfl, rfl⟩
  · exact fun h => absurd h.symm Bool.false_ne_true

/-- **A client that is told news keeps its place and its subscriptions** unless writing to it
fails. -/
theorem keeps_told (st : Standing) (news : List News) : st.Keeps (st.told news) := by
  induction news generalizing st with
  | nil => exact fun h => ⟨h, rfl, rfl⟩
  | cons n news ih =>
    rw [told_cons]
    split
    · intro h
      obtain ⟨hopen, hlisted, hchannels⟩ := ih _ h
      obtain ⟨hopen', hlisted', hchannels'⟩ := st.keeps_send (newsFrame n) hopen
      exact ⟨hopen', hlisted.trans hlisted', hchannels.trans hchannels'⟩
    · exact ih st

end Standing

theorem standing_replaceListener (h : c ∉ s.waiting) (listener : Listener) :
    (s.replaceListener listener).standing c = s.standing c := by
  have hconnection : (s.replaceListener listener).connection c = s.connection c :=
    (connection_foldl_close s.waiting s c).trans (if_neg h)
  rw [standing, hconnection, replaceListener, turnAway, foldl_close_eq]
  rfl

theorem standing_accept (h : s.waiting.head? ≠ some c) : s.accept.standing c = s.standing c := by
  rw [Server.accept]
  split
  · rfl
  · next v rest hwaiting =>
    rw [hwaiting, List.head?_cons, Ne, Option.some_inj] at h
    simp [standing, connection, Ne.symm h]

theorem standing_connect (hconnect : s.connect? = some (s', v)) (c : ConnectionRef) :
    s'.standing c = s.standing c := by
  obtain ⟨-, rfl, rfl⟩ := connect?_eq_some hconnect
  rfl

end Server

/-! ## Serving -/

namespace Service

variable {s : Service} {c v : ConnectionRef}

/-- The news that serving somebody gives rise to. -/
def newsRead (s : Service) (v : ConnectionRef) : List News :=
  if (s.server.connection v).dropped then []
  else
    match (s.server.connection v).incoming.readFrame.1 with
    | .frame f => (s.answeredTo f).news
    | .incomplete | .broken => []

/-- **Serving somebody comes to others as news**, whatever fails on the way. -/
theorem standing_serve_of_ne (hs : s.server.Sound) (h : v ≠ c) :
    (s.serve v).server.standing c = (s.server.standing c).told (s.newsRead v) := by
  rw [newsRead]
  by_cases hdropped : (s.server.connection v).dropped = true
  · rw [if_pos hdropped, serve_of_dropped hdropped]
    exact Server.standing_drop_of_ne h _
  · have hreceived (rest : ByteStream) : (s.received v rest).standing c = s.server.standing c :=
      Server.standing_updateConnection_of_ne h _ _
    rw [if_neg hdropped]
    rw [Bool.not_eq_true] at hdropped
    rcases hread : (s.server.connection v).incoming.readFrame with ⟨f | _ | _, rest⟩
    · have hsound := sound_received hs v rest
      rw [serve_of_frame hs.connected hdropped hread, server_withServer,
        Server.standing_send_of_ne h, Server.standing_requested_of_ne h,
        Server.standing_relay hsound, hreceived]
    · rw [serve_of_incomplete hdropped hread]
      exact hreceived rest
    · rw [serve_of_broken hdropped hread]
      exact (Server.standing_drop_of_ne h _).trans (hreceived rest)

/-- A message that has news is no subscription. -/
theorem news_eq_nil_or_requested_eq (s : Service) (f : Frame) : (s.answeredTo f).news = [] ∨
    ∀ (server : Server) client, server.requested client f.type.toNat f.payload = server := by
  rw [answeredTo, answered]
  simp only [Server.requested]
  cases Request.ofType? f.type.toNat with
  | none => exact .inl rfl
  | some request =>
    cases request with
    | command => exact .inr fun _ _ => rfl
    | subscribe =>
      left
      dsimp only
      split <;> rfl
    | outputs => exact .inl rfl
    | version => exact .inl rfl
    | tiling => exact .inl rfl

theorem kept_serve (h : s.server.Kept) (hv : s.server.Accepted v) : (s.serve v).server.Kept := by
  by_cases hdropped : (s.server.connection v).dropped = true
  · rw [serve_of_dropped hdropped]
    exact h.drop hv
  · rw [Bool.not_eq_true] at hdropped
    have hreceived (rest : ByteStream) : (s.received v rest).Kept := h.updateConnection v rfl
    rcases hread : (s.server.connection v).incoming.readFrame with ⟨f | _ | _, rest⟩
    · rw [serve_of_frame h.sound.connected hdropped hread, server_withServer]
      have hfollows := Server.follows_relay (s.received v rest) (s.answeredTo f).news
      -- Whoever subscribes is still a client, since no news has been sent before.
      have hrequested : (((s.received v rest).relay (s.answeredTo f).news).requested (some v)
          f.type.toNat f.payload).Kept := by
        rcases s.news_eq_nil_or_requested_eq f with hnil | hsame
        · rw [hnil]
          exact (hreceived rest).requested (h.mem_clients_of_accepted hv hdropped) _ _
        · rw [hsame]
          exact (hreceived rest).relay _
      refine hrequested.send ?_ _
      exact (Server.Accepted.of_follows (s := s.received v rest) hv hfollows).of_follows
        (Server.follows_requested _ _ _ _)
    · rw [serve_of_incomplete hdropped hread]
      exact hreceived rest
    · rw [serve_of_broken hdropped hread]
      exact (hreceived rest).drop hv

theorem kept_serves (h : s.server.Kept) {vs : List ConnectionRef}
    (hvs : ∀ v ∈ vs, s.server.Accepted v) : (vs.foldl serve s).server.Kept := by
  induction vs generalizing s with
  | nil => exact h
  | cons v vs ih =>
    refine ih (kept_serve h (hvs v List.mem_cons_self)) fun w hw => ?_
    exact (hvs w (List.mem_cons_of_mem v hw)).of_follows (follows_serve h.sound v)

theorem kept_happen (h : s.server.Kept) (x : Happening) : (s.happen x).server.Kept := by
  cases x with
  | step e =>
    rw [happen, step_of_connected h.sound.connected]
    exact h.relay _
  | connect =>
    rw [happen]
    cases hconnect : s.server.connect? with
    | none => exact h
    | some r => exact h.connect hconnect
  | arrive v bytes cuts =>
    exact h.updateConnection v (f := fun k => k.arriveCut bytes cuts) rfl
  | hangUp v => exact h.updateConnection v (f := Connection.hangUp) rfl
  | poll =>
    show s.poll.server.Kept
    rw [poll]
    split
    · refine kept_serves (s := s.withServer s.server.accept) h.accept fun v hv => ?_
      exact h.accept.accepted_of_mem (Server.mem_clients_accept (List.mem_filter.1 hv).1)
    · exact h

end Service

/-! ## All that is done to the server -/

/-- Something that is done to the service, down to the parts of a round. -/
inductive Deed where
  | happening (x : Happening)
  /-- A round accepts whoever has waited longest. -/
  | accept
  /-- A round gets to a connection that has been accepted, whatever has become of it since. -/
  | serve (client : ConnectionRef)
  /-- So many more bytes can be written to a client, from now on. -/
  | limit (client : ConnectionRef) (room : Option Nat)
  /-- The server gets another socket. -/
  | listen (listener : Listener)
  | stop

namespace Service

variable {s : Service} {c v : ConnectionRef}

/-- The state after something has been done. -/
def perform (s : Service) : Deed → Service
  | .happening x => s.happen x
  | .accept => s.withServer s.server.accept
  | .serve v => if s.server.Accepted v then s.serve v else s
  | .limit v room => s.withServer (s.server.updateConnection v fun k => { k with room })
  | .listen listener => s.withServer (s.server.replaceListener listener)
  | .stop => s.withServer s.server.stop

/-- A round is made of parts. -/
theorem poll_eq_performed (h : s.server.Kept) (hl : s.server.listening = true) :
    s.poll = (.accept :: s.readable.map .serve).foldl perform s := by
  have hserves : ∀ (vs : List ConnectionRef) (t : Service), t.server.Kept →
      (∀ v ∈ vs, t.server.Accepted v) →
      (vs.map Deed.serve).foldl perform t = vs.foldl serve t := by
    intro vs
    induction vs with
    | nil => exact fun _ _ _ => rfl
    | cons v vs ih =>
      intro t ht hvs
      have hv := hvs v List.mem_cons_self
      rw [List.map_cons, List.foldl_cons, List.foldl_cons, perform, if_pos hv]
      refine ih _ (kept_serve ht hv) fun w hw => ?_
      exact (hvs w (List.mem_cons_of_mem v hw)).of_follows (follows_serve ht.sound v)
  rw [poll, if_pos hl, List.foldl_cons]
  refine (hserves s.readable (s.withServer s.server.accept) h.accept fun v hv => ?_).symm
  exact h.accept.accepted_of_mem (Server.mem_clients_accept (List.mem_filter.1 hv).1)

/-- **Whatever is done keeps the books in order.** -/
theorem kept_perform (h : s.server.Kept) (d : Deed) : (s.perform d).server.Kept := by
  cases d with
  | happening x => exact kept_happen h x
  | accept => exact h.accept
  | serve v =>
    rw [perform]
    split
    · next hv => exact kept_serve h hv
    · exact h
  | limit v room => exact h.updateConnection v (f := fun k => { k with room }) rfl
  | listen listener => exact h.replaceListener listener
  | stop => exact h.stop

theorem kept_performed (h : s.server.Kept) (run : List Deed) :
    (run.foldl perform s).server.Kept := by
  induction run generalizing s with
  | nil => exact h
  | cons d run ih => exact ih (kept_perform h d)

/-! ## What is done to others -/

/-- A client itself is concerned. -/
def concerns (s : Service) (c : ConnectionRef) : Deed → Prop
  | .happening x => ¬ x.Spares c
  | .accept => s.server.waiting.head? = some c
  | .serve v | .limit v _ => v = c
  | .listen _ => c ∈ s.server.waiting
  | .stop => True

/-- The news that is sent on the occasion. -/
def newsOf (s : Service) : Deed → List News
  | .happening (.step e) => e.told s
  | .serve v => if s.server.Accepted v then s.newsRead v else []
  | .happening _ | .accept | .limit .. | .listen _ | .stop => []

/-- **What does not concern a client itself comes to it as news**, whatever fails for others. -/
theorem standing_perform (hs : s.server.Sound) {d : Deed} (hd : ¬ s.concerns c d) :
    (s.perform d).server.standing c = (s.server.standing c).told (s.newsOf d) := by
  cases d with
  | happening x =>
    rw [concerns, Classical.not_not] at hd
    cases x with
    | step e =>
      rw [perform, happen, step_of_connected hs.connected]
      exact Server.standing_relay hs c _
    | connect =>
      rw [perform, happen]
      cases hconnect : s.server.connect? with
      | none => rfl
      | some r => exact Server.standing_connect hconnect c
    | arrive v bytes cuts => exact Server.standing_updateConnection_of_ne hd _ _
    | hangUp v => exact Server.standing_updateConnection_of_ne hd _ _
    | poll => exact hd.elim
  | accept => exact Server.standing_accept hd
  | serve v =>
    rw [perform, newsOf]
    split
    · exact standing_serve_of_ne hs hd
    · rfl
  | limit v room => exact Server.standing_updateConnection_of_ne hd _ _
  | listen listener => exact Server.standing_replaceListener hd listener
  | stop => exact absurd trivial hd

end Service

/-! ## After the server has stopped -/

namespace Server

/-- The server has no clients, and nobody can become one. -/
structure Stopped (s : Server) : Prop where
  kept : s.Kept
  listener_eq : s.listener = .absent
  waiting_eq : s.waiting = []
  clients_eq : s.clients = []

variable {s s' : Server}

theorem Kept.stopped (h : s.Kept) : s.stop.Stopped where
  kept := h.stop
  listener_eq := rfl
  waiting_eq := rfl
  clients_eq := s.clients_stop

theorem relay_of_subscribers_eq_nil (h : s.subscribers = []) (news : List News) :
    s.relay news = s := by
  induction news with
  | nil => rfl
  | cons n news ih =>
    have hbroadcast : (s.broadcast n.1 n.2.payload).1 = s := by
      rw [broadcast, h]
      rfl
    rw [relay_cons, hbroadcast, ih]

/-- Nobody comes back. -/
theorem Stopped.of_eq (h : s.Stopped) (hk : s'.Kept) (hl : s'.listener = s.listener)
    (hw : s'.waiting = s.waiting) (hc : s'.clients.Sublist s.clients) : s'.Stopped where
  kept := hk
  listener_eq := hl.trans h.listener_eq
  waiting_eq := hw.trans h.waiting_eq
  clients_eq := List.sublist_nil.1 (h.clients_eq ▸ hc)

theorem Stopped.of_follows (h : s.Stopped) (hk : s'.Kept) (hf : s.Follows s') : s'.Stopped :=
  h.of_eq hk hf.listener_eq hf.waiting_eq hf.clients_sublist

end Server

namespace Service

variable {s : Service}

/-- **Events are written to nobody** after the server has stopped. -/
theorem server_step_of_stopped (h : s.server.Stopped) (e : Step) :
    (s.step e).server = s.server := by
  rw [step_of_connected h.kept.sound.connected]
  exact Server.relay_of_subscribers_eq_nil (h.kept.subscribers_eq_nil h.clients_eq) _

/-- A server that has stopped stays without clients unless it listens again. -/
theorem stopped_perform (h : s.server.Stopped) {d : Deed} (hd : ∀ listener, d ≠ .listen listener) :
    (s.perform d).server.Stopped := by
  have hkept := kept_perform h.kept d
  have hsilent : s.server.listening = false := by rw [Server.listening, h.listener_eq]; rfl
  -- A server that has stopped lets nobody connect, and it has nobody to accept, to read from or to
  -- tell.
  cases d with
  | happening x =>
    cases x with
    | step e =>
      rw [perform, happen, server_step_of_stopped h]
      exact h
    | connect =>
      rw [perform, happen, Server.connect?, hsilent]
      exact h
    | arrive v bytes cuts =>
      exact h.of_follows hkept (s.server.follows_updateConnection v fun k => k.arriveCut bytes cuts)
    | hangUp v => exact h.of_follows hkept (s.server.follows_updateConnection v _)
    | poll =>
      rw [perform, happen, poll_of_not_listening hsilent]
      exact h
  | accept =>
    rw [perform, Server.accept, h.waiting_eq]
    exact h
  | serve v =>
    rw [perform] at hkept ⊢
    split
    · next hv =>
      rw [if_pos hv] at hkept
      exact h.of_follows hkept (follows_serve h.kept.sound v)
    · exact h
  | limit v room =>
    exact h.of_follows hkept (s.server.follows_updateConnection v fun k => { k with room })
  | listen listener => exact absurd rfl (hd listener)
  | stop => exact h.kept.stopped

theorem stopped_performed (h : s.server.Stopped) {run : List Deed}
    (hrun : ∀ d ∈ run, ∀ listener, d ≠ .listen listener) :
    (run.foldl perform s).server.Stopped := by
  induction run generalizing s with
  | nil => exact h
  | cons d run ih =>
    obtain ⟨hd, hrun⟩ := List.forall_mem_cons.1 hrun
    exact ih (stopped_perform h hd) hrun

/-- **The books stay in order.** Whatever is done to a server from its start, and however often
writing fails on the way: no client is listed twice, whoever has subscribed is a client, and no
connection that the server has closed is a client or has subscribed. What does not concern a client
itself comes to it as news that depends on no other client's connection, and leaves it on the list
with its subscriptions unless writing to it fails; a round is no exception, since it is made of
smaller deeds. From a stop on there is no client and nobody has subscribed, and no event is written
to anybody, until the server listens again. -/
theorem clients_kept (s : Service) (run : List Deed) :
    let t := run.foldl perform (s.withServer {})
    t.server.clients.Nodup ∧
    (∀ key ∈ t.server.subscribers.keys, ∃ c ∈ t.server.clients, key = some c) ∧
    (∀ c, (t.server.connection c).dropped = true →
      c ∉ t.server.clients ∧ some c ∉ t.server.subscribers.keys) ∧
    (∀ d c, ¬ t.concerns c d →
      (t.perform d).server.standing c = (t.server.standing c).told (t.newsOf d) ∧
      (t.server.standing c).Keeps ((t.perform d).server.standing c)) ∧
    (t.server.listening = true →
      t.poll = (.accept :: t.readable.map .serve).foldl perform t) ∧
    ∀ later : List Deed, (∀ d ∈ later, ∀ listener, d ≠ .listen listener) →
      let u := later.foldl perform (t.perform .stop)
      u.server.clients = [] ∧ u.server.subscribers = [] ∧ ∀ e, (u.step e).server = u.server := by
  intro t
  have ht : t.server.Kept := kept_performed (s := s.withServer {}) Server.kept_empty run
  have hclosed : ∀ c, (t.server.connection c).dropped = true → c ∉ t.server.clients := by
    intro c hc hmem
    exact ((ht.dropped_iff c).1 hc).2 (List.mem_append_left _ hmem)
  refine ⟨(List.nodup_append.1 ht.sound.nodup).1, ht.subscribed, fun c hc => ⟨hclosed c hc, ?_⟩,
    fun d c hd => ?_, poll_eq_performed ht, fun later hlater => ?_⟩
  · intro hkey
    obtain ⟨c', hmem, heq⟩ := ht.subscribed _ hkey
    obtain rfl := Option.some_inj.1 heq
    exact hclosed c hc hmem
  · have htold := standing_perform ht.sound hd
    exact ⟨htold, htold ▸ Server.Standing.keeps_told _ _⟩
  · intro u
    have hstop : (t.perform .stop).server.Stopped := ht.stopped
    have hu : u.server.Stopped := stopped_performed hstop hlater
    exact ⟨hu.clients_eq, hu.kept.subscribers_eq_nil hu.clients_eq, server_step_of_stopped hu⟩

end Service

end WindowTiling
