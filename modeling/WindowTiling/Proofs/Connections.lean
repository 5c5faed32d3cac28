import Mathlib.Data.List.Nodup
import WindowTiling.Proofs.Answering

/-!
# What the server does to a connection

A client is told of news, and dropped if this fails. What that comes to for the server as a whole is
that clients may go, while those who wait still do (`Follows`). For one connection that is *open*,
so that all that is sent can be written, it comes to certain bytes being written (`Wrote`).

**Theorem (`wrote_relay`).** Of the news that is relayed, a client is sent what goes over the
channels to which it has subscribed, each item once and in order (`newsFor`).
-/

namespace WindowTiling

/-! ## Look-up of those who have subscribed -/

namespace Roster

variable {κ α : Type} [DecidableEq κ]

theorem find?_erase_of_ne (r : Roster κ α) {key k : κ} (h : key ≠ k) :
    (r.erase key).find? k = r.find? k := by
  induction r with
  | nil => rfl
  | cons e r ih =>
    obtain ⟨k', b⟩ := e
    simp only [erase]
    split
    · next hk =>
      subst hk
      exact (if_neg h).symm
    · simp only [find?, ih]

theorem find?_eq_none {r : Roster κ α} {key : κ} (h : key ∉ r.keys) : r.find? key = none := by
  cases hfind : r.find? key with
  | none => rfl
  | some a => exact absurd (List.mem_map_of_mem (mem_of_find? hfind)) h

theorem mem_keys_filter {r : Roster κ α} (h : r.keys.Nodup) (p : α → Bool) (key : κ) :
    key ∈ (r.filter fun e => p e.2).map (·.1) ↔ (r.find? key).any p = true := by
  induction r with
  | nil => simp [find?]
  | cons e r ih =>
    obtain ⟨k, b⟩ := e
    obtain ⟨hk, hr⟩ := List.nodup_cons.1 h
    rw [find?, List.filter_cons]
    by_cases hkey : k = key
    · subst hkey
      have hnot : k ∉ (r.filter fun e => p e.2).map (·.1) := by
        rw [ih hr, find?_eq_none hk]
        simp
      by_cases hp : p b = true <;> simp [hp, hnot]
    · by_cases hp : p b = true <;> simp [hp, hkey, Ne.symm hkey, ih hr]

end Roster

/-! ## The server as a whole -/

namespace Server

/-- The connections that wait or are clients are distinct, and no number of a connection to come is
among them. Nobody has subscribed twice, and all have done so over connections. -/
structure Sound (s : Server) : Prop where
  connected : s.Connected
  nodup_subscribers : s.subscribers.keys.Nodup
  nodup : (s.clients ++ s.waiting).Nodup
  made : ∀ v ∈ s.clients ++ s.waiting, v.index < s.connectionCount

theorem sound_of_listener (listener : Listener) : Sound { listener } :=
  ⟨List.not_mem_nil, List.nodup_nil, List.nodup_nil, fun _ hv => absurd hv List.not_mem_nil⟩

/-- Clients may have gone, but nobody has come or been accepted. -/
structure Follows (s s' : Server) : Prop where
  listener_eq : s'.listener = s.listener
  connectionCount_eq : s'.connectionCount = s.connectionCount
  waiting_eq : s'.waiting = s.waiting
  clients_sublist : s'.clients.Sublist s.clients
  sound : s.Sound → s'.Sound

variable {s s' s'' : Server}

theorem Follows.refl (s : Server) : s.Follows s := ⟨rfl, rfl, rfl, List.Sublist.refl _, id⟩

theorem Follows.trans (h : s.Follows s') (h' : s'.Follows s'') : s.Follows s'' where
  listener_eq := h'.listener_eq.trans h.listener_eq
  connectionCount_eq := h'.connectionCount_eq.trans h.connectionCount_eq
  waiting_eq := h'.waiting_eq.trans h.waiting_eq
  clients_sublist := h'.clients_sublist.trans h.clients_sublist
  sound hs := h'.sound (h.sound hs)

theorem follows_updateConnection (s : Server) (v : ConnectionRef) (f : Connection → Connection) :
    s.Follows (s.updateConnection v f) :=
  ⟨rfl, rfl, rfl, List.Sublist.refl _, fun h => ⟨h.connected, h.nodup_subscribers, h.nodup, h.made⟩⟩

theorem follows_drop (s : Server) (v : ConnectionRef) : s.Follows (s.drop v) where
  listener_eq := rfl
  connectionCount_eq := rfl
  waiting_eq := rfl
  clients_sublist := List.erase_sublist
  sound h := by
    have hsub : (s.clients.erase v ++ s.waiting).Sublist (s.clients ++ s.waiting) :=
      List.erase_sublist.append (List.Sublist.refl _)
    exact ⟨h.connected.drop v, Roster.nodup_keys_erase h.nodup_subscribers _, h.nodup.sublist hsub,
      fun w hw => h.made w (hsub.subset hw)⟩

theorem follows_send (s : Server) (v : ConnectionRef) (f : Frame) : s.Follows (s.send v f) := by
  rw [send]
  dsimp only
  split
  · exact s.follows_updateConnection v _
  · exact (s.follows_updateConnection v _).trans (follows_drop _ v)

theorem follows_sendAll (s : Server) (f : Frame) (l : List (Option ConnectionRef)) :
    s.Follows (s.sendAll f l).1 := by
  induction l generalizing s with
  | nil => exact Follows.refl s
  | cons v l ih =>
    cases v with
    | none => exact Follows.refl s
    | some v => exact (s.follows_send v f).trans (ih _)

theorem follows_relay (s : Server) (news : List News) : s.Follows (s.relay news) := by
  induction news generalizing s with
  | nil => exact Follows.refl s
  | cons n news ih => exact (s.follows_sendAll _ _).trans (ih _)

theorem follows_requested (s : Server) (v : ConnectionRef) (type : Int) (payload : List UInt8) :
    s.Follows (s.requested (some v) type payload) := by
  rw [requested]
  split
  · refine ⟨rfl, rfl, rfl, List.Sublist.refl _, fun h => ⟨?_, ?_, h.nodup, h.made⟩⟩
    · intro hmem
      rcases List.mem_map.1 hmem with ⟨e, he, hnone⟩
      rcases Roster.mem_of_mem_insert he with rfl | he
      · exact absurd hnone (by simp)
      · exact h.connected (hnone ▸ List.mem_map_of_mem he)
    · exact Roster.nodup_keys_insert h.nodup_subscribers _ _
  · exact Follows.refl s

@[simp] theorem connection_requested (s : Server) (client : Option ConnectionRef) (type : Int)
    (payload : List UInt8) (v : ConnectionRef) :
    (s.requested client type payload).connection v = s.connection v := by
  rw [requested]
  split <;> rfl

@[simp] theorem clients_requested (s : Server) (client : Option ConnectionRef) (type : Int)
    (payload : List UInt8) : (s.requested client type payload).clients = s.clients := by
  rw [requested]
  split <;> rfl

/-! ## One connection -/

/-- All that is sent over the connection can be written. -/
structure Open (s : Server) (c : ConnectionRef) : Prop where
  dropped_eq : (s.connection c).dropped = false
  room_eq : (s.connection c).room = none

/-- A request leaves the connections as they are. -/
theorem Open.requested {c : ConnectionRef} (h : s.Open c) (client : Option ConnectionRef)
    (type : Int) (payload : List UInt8) : (s.requested client type payload).Open c :=
  ⟨by simpa using h.dropped_eq, by simpa using h.room_eq⟩

/-- These bytes have been written to the client, and nothing else has changed for it. -/
structure Wrote (c : ConnectionRef) (bytes : List UInt8) (s s' : Server) : Prop where
  connection_eq : s'.connection c =
    { s.connection c with written := (s.connection c).written ++ bytes }
  mem_clients : c ∈ s'.clients ↔ c ∈ s.clients
  find?_eq : s'.subscribers.find? (some c) = s.subscribers.find? (some c)

variable {c v : ConnectionRef} {bytes more : List UInt8}

theorem Wrote.refl (c : ConnectionRef) (s : Server) : s.Wrote c [] s :=
  ⟨by rw [List.append_nil], Iff.rfl, rfl⟩

theorem Wrote.trans (h : s.Wrote c bytes s') (h' : s'.Wrote c more s'') :
    s.Wrote c (bytes ++ more) s'' where
  connection_eq := by rw [h'.connection_eq, h.connection_eq, List.append_assoc]
  mem_clients := h'.mem_clients.trans h.mem_clients
  find?_eq := h'.find?_eq.trans h.find?_eq

theorem Wrote.isOpen (h : s.Wrote c bytes s') (ho : s.Open c) : s'.Open c where
  dropped_eq := by rw [h.connection_eq]; exact ho.dropped_eq
  room_eq := by rw [h.connection_eq]; exact ho.room_eq

theorem wrote_updateConnection (h : v ≠ c) (s : Server) (f : Connection → Connection) :
    s.Wrote c [] (s.updateConnection v f) where
  connection_eq := by rw [connection_updateConnection, if_neg h.symm, List.append_nil]
  mem_clients := Iff.rfl
  find?_eq := rfl

theorem wrote_drop (h : v ≠ c) (s : Server) : s.Wrote c [] (s.drop v) where
  connection_eq :=
    (wrote_updateConnection h s fun k => { k with dropped := true }).connection_eq
  mem_clients := List.mem_erase_of_ne h.symm
  find?_eq := Roster.find?_erase_of_ne _ fun heq => h (Option.some_inj.1 heq)

theorem wrote_requested (h : v ≠ c) (s : Server) (type : Int) (payload : List UInt8) :
    s.Wrote c [] (s.requested (some v) type payload) := by
  rw [requested]
  split
  · refine ⟨(Wrote.refl c s).connection_eq, Iff.rfl, ?_⟩
    rw [subscribe, Roster.find?_insert, if_neg fun heq => h (Option.some_inj.1 heq)]
  · exact Wrote.refl c s

/-! ## Sending -/

theorem wrote_send_of_ne (h : v ≠ c) (s : Server) (f : Frame) : s.Wrote c [] (s.send v f) := by
  rw [send]
  dsimp only
  split
  · exact wrote_updateConnection h s _
  · exact (wrote_updateConnection h s _).trans (wrote_drop h _)

theorem wrote_send (ho : s.Open c) (f : Frame) : s.Wrote c f.encode (s.send c f) := by
  have hwrite : (s.connection c).write f.encode =
      ({ s.connection c with written := (s.connection c).written ++ f.encode }, true) := by
    simp [Connection.write, ho.dropped_eq, ho.room_eq]
  rw [send, hwrite]
  exact ⟨by simp [connection_updateConnection], Iff.rfl, rfl⟩

theorem wrote_sendAll (ho : s.Open c) (f : Frame) {l : List (Option ConnectionRef)}
    (hl : l.Nodup) (hnone : none ∉ l) :
    s.Wrote c (if some c ∈ l then f.encode else []) (s.sendAll f l).1 := by
  induction l generalizing s with
  | nil => exact Wrote.refl c s
  | cons v l ih =>
    obtain ⟨hv, hl'⟩ := List.nodup_cons.1 hl
    have hnone' : none ∉ l := fun h => hnone (List.mem_cons_of_mem _ h)
    cases v with
    | none => exact absurd (List.mem_cons_self ..) hnone
    | some v =>
      rw [sendAll]
      by_cases hvc : v = c
      · subst hvc
        have hsend := wrote_send ho f
        have hrest := ih (hsend.isOpen ho) hl' hnone'
        rw [if_neg hv] at hrest
        rw [if_pos (List.mem_cons_self ..), ← List.append_nil f.encode]
        exact hsend.trans hrest
      · have hsend := wrote_send_of_ne hvc s f
        have hrest := hsend.trans (ih (hsend.isOpen ho) hl' hnone')
        simpa [Ne.symm hvc] using hrest

/-! ## News -/

/-- The message in which news is sent. -/
def newsFrame (n : News) : Frame := ⟨n.1.messageType, n.2.payload⟩

/-- A client has subscribed to a channel. -/
def subscribed (s : Server) (c : ConnectionRef) (channel : Channel) : Bool :=
  (s.subscribers.find? (some c)).any (·.contains channel)

/-- The news that a client is sent. -/
def newsFor (s : Server) (c : ConnectionRef) (news : List News) : List News :=
  news.filter fun n => s.subscribed c n.1

theorem wrote_broadcast (hs : s.Sound) (ho : s.Open c) (channel : Channel) (payload : List UInt8) :
    s.Wrote c (if s.subscribed c channel then (Frame.mk channel.messageType payload).encode else [])
      (s.broadcast channel payload).1 := by
  have hsub : ((s.subscribers.filter fun e => e.2.contains channel).map (·.1)).Sublist
      s.subscribers.keys := List.filter_sublist.map _
  have hmem : (some c ∈ (s.subscribers.filter fun e => e.2.contains channel).map (·.1)) ↔
      s.subscribed c channel = true :=
    Roster.mem_keys_filter hs.nodup_subscribers (fun channels => channels.contains channel) _
  have h := wrote_sendAll ho ⟨channel.messageType, payload⟩ (hs.nodup_subscribers.sublist hsub)
    fun hnone => hs.connected (hsub.subset hnone)
  simp only [hmem] at h
  exact h

/-- **A client is sent the news of its channels.** -/
theorem wrote_relay (hs : s.Sound) (ho : s.Open c) (news : List News) :
    s.Wrote c ((s.newsFor c news).flatMap fun n => (newsFrame n).encode) (s.relay news) := by
  induction news generalizing s with
  | nil => exact Wrote.refl c s
  | cons n news ih =>
    have hfirst := wrote_broadcast hs ho n.1 n.2.payload
    have hrest := ih ((s.follows_sendAll _ _).sound hs) (hfirst.isOpen ho)
    have hsame : (s.broadcast n.1 n.2.payload).1.newsFor c news = s.newsFor c news := by
      simp only [newsFor, subscribed, hfirst.find?_eq]
    have h := hfirst.trans (hsame ▸ hrest)
    rw [relay_cons, newsFor, List.filter_cons]
    by_cases hn : s.subscribed c n.1 = true
    · rw [if_pos hn] at h ⊢
      exact h
    · rw [if_neg hn] at h ⊢
      exact h

end Server

end WindowTiling
