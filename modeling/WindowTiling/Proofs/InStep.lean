import WindowTiling.Proofs.Mail

/-!
# Clients that are read in step

A client is read *in step* if at each reading the whole of its next message can be read. Then the
server and the client agree on where messages begin.

**Theorem (`through_of_inStep`).** While this goes on, the messages that are answered are the first
of those that the client sends, and what has arrived of the others is still unread.

**Theorem (`inStep_of_arrivesWhole`).** A client is read in step if its messages arrive whole, no
matter when and how many at a time.

**Theorem (`requestsIn_of_inStep`).** With enough rounds in the end, all messages are answered.
-/

namespace WindowTiling

namespace Service

/-! ## Runs in step -/

/-- The bytes that arrive on a connection. -/
def arriving (c : ConnectionRef) (run : List Happening) : List UInt8 :=
  run.flatMap fun
    | .arrive v bytes _ => if v = c then bytes else []
    | _ => []

/-- At each reading from the client, a whole message can be read. -/
def InStep (c : ConnectionRef) : Service → List Happening → Prop
  | _, [] => True
  | s, x :: run =>
    (x = .poll → c ∈ s.readable → (s.server.connection c).incoming.HoldsFrame) ∧
      InStep c (s.happen x) run

instance decidableInStep (c : ConnectionRef) :
    (s : Service) → (run : List Happening) → Decidable (InStep c s run)
  | _, [] => isTrue trivial
  | s, x :: run =>
    have := decidableInStep c (s.happen x) run
    inferInstanceAs (Decidable (_ ∧ InStep c (s.happen x) run))

/-- The client does not close its connection. -/
def Stays (c : ConnectionRef) (run : List Happening) : Prop := .hangUp c ∉ run

instance (c : ConnectionRef) (run : List Happening) : Decidable (Stays c run) :=
  inferInstanceAs (Decidable (_ ∉ run))

/-- The bytes of messages. -/
def framesBytes (fs : List Frame) : List UInt8 := fs.flatMap Frame.encode

variable {s : Service} {c : ConnectionRef} {run more : List Happening} {rounds : Nat}
  {fs : List Frame}

theorem Stays.tail {x : Happening} (h : Stays c (x :: run)) : Stays c run :=
  fun hmem => h (List.mem_cons_of_mem _ hmem)

theorem through_append (s : Service) (run more : List Happening) :
    s.through (run ++ more) = (s.through run).through more := List.foldl_append ..

theorem mail_append (c : ConnectionRef) (s : Service) (run more : List Happening) :
    mail c s (run ++ more) = mail c s run ++ mail c (s.through run) more := by
  induction run generalizing s with
  | nil => rfl
  | cons x run ih =>
    rw [List.cons_append, mail, mail, ih, List.append_assoc]
    rfl

theorem inStep_append :
    InStep c s (run ++ more) ↔ InStep c s run ∧ InStep c (s.through run) more := by
  induction run generalizing s with
  | nil => exact ⟨fun h => ⟨trivial, h⟩, fun h => h.2⟩
  | cons x run ih =>
    rw [List.cons_append, InStep, InStep, ih, and_assoc]
    rfl

theorem arriving_append (c : ConnectionRef) (run more : List Happening) :
    arriving c (run ++ more) = arriving c run ++ arriving c more := List.flatMap_append

theorem arriving_append_polls (c : ConnectionRef) (run : List Happening) (n : Nat) :
    arriving c (run ++ List.replicate n .poll) = arriving c run := by
  rw [arriving_append, arriving, arriving, List.flatMap_replicate]
  simp

theorem Stays.append_polls (h : Stays c run) (n : Nat) :
    Stays c (run ++ List.replicate n .poll) := by
  simpa [Stays, List.mem_replicate] using h

theorem mem_readable_iff (h : s.server.Serves c rounds) :
    c ∈ s.readable ↔ c ∈ s.server.clients ∧ (s.server.connection c).incoming.unread ≠ [] := by
  rw [readable, List.mem_filter, ByteStream.ready, h.ended_eq]
  simp

theorem arriving_of_spares {x : Happening} (hx : x.Spares c) (run : List Happening) :
    arriving c (x :: run) = arriving c run := by
  rw [arriving, List.flatMap_cons]
  cases x with
  | arrive v bytes cuts => exact congrArg (· ++ _) (if_neg hx)
  | _ => rfl

theorem arriving_arrive (c : ConnectionRef) (bytes : List UInt8) (cuts : List Nat)
    (run : List Happening) :
    arriving c (.arrive c bytes cuts :: run) = bytes ++ arriving c run := by
  rw [arriving, List.flatMap_cons]
  exact congrArg (· ++ _) (if_pos rfl)

theorem arriving_poll (c : ConnectionRef) (run : List Happening) :
    arriving c (.poll :: run) = arriving c run := rfl

/-- What a round reads from a client that is read in step: its next message, or nothing. -/
theorem readFrom_of_inStep (h : s.server.Serves c rounds)
    (hin : c ∈ s.readable → (s.server.connection c).incoming.HoldsFrame)
    (hfs : ∀ f ∈ fs, f.payload.length < wordBound) (later : List UInt8)
    (hunread : (s.server.connection c).incoming.unread ++ later = framesBytes fs) :
    ∃ r rest left, s.readFrom c = (r, rest) ∧ r ≠ .broken ∧ fs = r.frame?.toList ++ left ∧
      rest.unread ++ later = framesBytes left ∧ (c ∈ s.readable → r.frame?.isSome = true) := by
  rw [readFrom]
  split
  · next hc =>
    obtain ⟨-, hne⟩ := (mem_readable_iff h).1 hc
    cases fs with
    | nil => exact absurd (List.append_eq_nil_iff.1 hunread).1 hne
    | cons f fs =>
      obtain ⟨rest, hread, hrest⟩ := ByteStream.readFrame_of_unread (hin hc)
        (hfs f (List.mem_cons_self ..)) later (framesBytes fs) hunread
      exact ⟨_, rest, fs, hread, Reading.noConfusion, rfl, hrest, fun _ => rfl⟩
  · next hc =>
    exact ⟨_, _, fs, rfl, Reading.noConfusion, rfl, hunread, fun h => absurd h hc⟩

/-- **Read in step, the messages are answered in order.** -/
theorem through_of_inStep (h : s.server.Serves c rounds) (hstays : Stays c run)
    (hin : InStep c s run) (hfs : ∀ f ∈ fs, f.payload.length < wordBound) (later : List UInt8)
    (hunread : (s.server.connection c).incoming.unread ++ (arriving c run ++ later) =
      framesBytes fs) :
    ∃ left, fs = requestsIn (mail c s run) ++ left ∧
      ((s.through run).server.connection c).incoming.unread ++ later = framesBytes left ∧
      ((s.through run).server.connection c).written =
        (s.server.connection c).written ++ mailBytes (mail c s run) ∧
      (s.through run).server.Serves c rounds := by
  -- Only a round in which the client is read uses up a message; all else adds at most to what is
  -- unread.
  induction run using Happening.run_induction c generalizing s fs with
  | nil => exact ⟨fs, rfl, hunread, by simp [mail, mailBytes, through], h⟩
  | spares x run hx ih =>
    obtain ⟨hconnection, hrequests, hserves⟩ := serves_of_spares h hx
    rw [arriving_of_spares hx] at hunread
    obtain ⟨left, heq, hleft, hwritten, hend⟩ :=
      ih hserves hstays.tail hin.2 hfs (by rw [hconnection]; exact hunread)
    refine ⟨left, ?_, hleft, ?_, hend⟩
    · rw [mail, requestsIn_append, hrequests]
      exact heq
    · rw [mail, mailBytes_append, ← List.append_assoc]
      rw [hconnection] at hwritten
      exact hwritten
  | arrive bytes cuts run ih =>
    obtain ⟨hconnection, hserves⟩ := serves_arrive h bytes cuts
    rw [arriving_arrive, List.append_assoc, ← List.append_assoc] at hunread
    obtain ⟨left, heq, hleft, hwritten, hend⟩ :=
      ih hserves hstays.tail hin.2 hfs (by
        rw [hconnection, Connection.arriveCut, ByteStream.unread_arriveCut]
        exact hunread)
    rw [hconnection] at hwritten
    exact ⟨left, heq, hleft, hwritten, hend⟩
  | hangUp run ih => exact absurd (List.mem_cons_self ..) hstays
  | poll run ih =>
    obtain ⟨r, rest, left₁, hread, hr, hfs₁, hrest, -⟩ :=
      readFrom_of_inStep h (hin.1 rfl) hfs _ hunread
    obtain ⟨hconnection, hrequests, hserves⟩ := poll_of_readFrom h hread hr
    have hfs' : ∀ f ∈ left₁, f.payload.length < wordBound :=
      fun f hf => hfs f (hfs₁ ▸ List.mem_append_right _ hf)
    obtain ⟨left, heq, hleft, hwritten, hend⟩ :=
      ih (hserves.mono (Nat.sub_le _ _)) hstays.tail hin.2 hfs' (by rw [hconnection]; exact hrest)
    refine ⟨left, ?_, hleft, ?_, hend⟩
    · rw [mail, requestsIn_append, hrequests, hfs₁, List.append_assoc, ← heq]
    · rw [hconnection] at hwritten
      rw [mail, mailBytes_append, ← List.append_assoc]
      exact hwritten

/-! ## Messages that arrive whole -/

/-- Whole messages are unread, in one piece. -/
structure HasWhole (c : ConnectionRef) (s : Service) (fs : List Frame) : Prop where
  short : ∀ f ∈ fs, f.payload.length < wordBound
  unread_eq : (s.server.connection c).incoming.unread = framesBytes fs
  pieces_eq : fs = [] ∨ (s.server.connection c).incoming.pieces = [framesBytes fs]

theorem HasWhole.incoming_eq {f : Frame} (h : HasWhole c s (f :: fs)) :
    (s.server.connection c).incoming =
      ⟨[f.encode ++ framesBytes fs], (s.server.connection c).incoming.ended⟩ := by
  have hpieces : (s.server.connection c).incoming.pieces = [f.encode ++ framesBytes fs] :=
    h.pieces_eq.resolve_left (List.cons_ne_nil f fs)
  rw [← hpieces]

theorem HasWhole.poll (hwhole : HasWhole c s fs) (h : s.server.Serves c rounds) :
    (c ∈ s.readable → (s.server.connection c).incoming.HoldsFrame) ∧
      ∃ left, HasWhole c (s.happen .poll) left ∧ (s.happen .poll).server.Serves c (rounds - 1) := by
  by_cases hc : c ∈ s.readable
  · cases fs with
    | nil => exact absurd hwhole.unread_eq ((mem_readable_iff h).1 hc).2
    | cons f fs =>
      have hincoming := hwhole.incoming_eq
      have hf := hwhole.short f (List.mem_cons_self ..)
      have hread := ByteStream.readFrame_piece hf (framesBytes fs)
        (s.server.connection c).incoming.ended
      rw [← hincoming] at hread
      obtain ⟨hconnection, -, hserves⟩ :=
        poll_of_readFrom h ((if_pos hc).trans hread) Reading.noConfusion
      refine ⟨fun _ => by rw [hincoming]; exact ByteStream.holdsFrame_of_piece hf _ _, fs,
        ⟨fun g hg => hwhole.short g (List.mem_cons_of_mem _ hg), ?_, ?_⟩, hserves⟩
      · rw [hconnection]
        exact List.append_nil _
      · rw [hconnection]
        exact .inr rfl
  · obtain ⟨hconnection, -, hserves⟩ := poll_of_readFrom h (if_neg hc) Reading.noConfusion
    exact ⟨fun hmem => absurd hmem hc, fs,
      ⟨hwhole.short, by rw [hconnection]; exact hwhole.unread_eq,
        by rw [hconnection]; exact hwhole.pieces_eq⟩, hserves⟩

theorem framesBytes_eq_nil : framesBytes fs = [] ↔ fs = [] := by
  rw [framesBytes, List.flatMap_eq_nil_iff]
  cases fs with
  | nil => simp
  | cons f fs =>
    have hne : f.encode ≠ [] := by simp [Frame.encode, Frame.header, magic]
    exact ⟨fun h => absurd (h f (List.mem_cons_self ..)) hne, fun h => by simp at h⟩

theorem requestsIn_polls {n : Nat} (h : s.server.Serves c rounds)
    (hin : InStep c s (List.replicate n .poll)) (hfs : ∀ f ∈ fs, f.payload.length < wordBound)
    (hunread : (s.server.connection c).incoming.unread = framesBytes fs)
    (hn : rounds + fs.length ≤ n) :
    requestsIn (mail c s (List.replicate n .poll)) = fs ∧
      (s.through (List.replicate n .poll)).server.Serves c 0 := by
  induction n generalizing s fs rounds with
  | zero =>
    obtain rfl : rounds = 0 := by omega
    obtain rfl : fs = [] := List.eq_nil_of_length_eq_zero (by omega)
    exact ⟨rfl, h⟩
  | succ n ih =>
    rw [List.replicate_succ] at hin ⊢
    obtain ⟨r, rest, left, hread, hr, hfs₁, hrest, hsome⟩ :=
      readFrom_of_inStep h (hin.1 rfl) hfs [] (by rw [List.append_nil]; exact hunread)
    obtain ⟨hconnection, hrequests, hserves⟩ := poll_of_readFrom h hread hr
    -- Each round brings the client nearer to being accepted or uses up one of its messages.
    have hcount : rounds - 1 + left.length ≤ n := by
      by_cases hc : c ∈ s.readable
      · obtain ⟨f, hf⟩ := Option.isSome_iff_exists.1 (hsome hc)
        rw [hfs₁, hf, Option.toList_some, List.singleton_append, List.length_cons] at hn
        omega
      · -- Nobody is read from who has to wait or has nothing to say.
        have hle : left.length ≤ fs.length := by
          rw [hfs₁, List.length_append]
          omega
        rw [mem_readable_iff h, not_and_or, not_ne_iff, hunread, framesBytes_eq_nil] at hc
        rcases hc with hc | rfl
        · obtain ⟨before, after, -, hlt⟩ := h.place.resolve_left hc
          omega
        · simp only [List.length_nil] at hle
          omega
    obtain ⟨heq, hend⟩ := ih hserves hin.2
      (fun f hf => hfs f (hfs₁ ▸ List.mem_append_right _ hf))
      (by rw [hconnection, ← hrest, List.append_nil]) hcount
    refine ⟨?_, hend⟩
    rw [mail, requestsIn_append, hrequests, heq, ← hfs₁]

/-- **With enough rounds in the end all messages are answered**, and the client is kept. -/
theorem requestsIn_of_inStep {n : Nat} (h : s.server.Serves c rounds) (hstays : Stays c run)
    (hin : InStep c s (run ++ List.replicate n .poll))
    (hfs : ∀ f ∈ fs, f.payload.length < wordBound)
    (hunread : (s.server.connection c).incoming.unread ++ arriving c run = framesBytes fs)
    (hn : rounds + fs.length ≤ n) :
    requestsIn (mail c s (run ++ List.replicate n .poll)) = fs ∧
      (s.through (run ++ List.replicate n .poll)).server.Serves c 0 := by
  obtain ⟨hin₁, hin₂⟩ := inStep_append.1 hin
  obtain ⟨left, heq, hleft, -, hserves⟩ :=
    through_of_inStep h hstays hin₁ hfs [] (by rw [List.append_nil]; exact hunread)
  rw [List.append_nil] at hleft
  have hlength : rounds + left.length ≤ n := by
    rw [heq, List.length_append] at hn
    omega
  obtain ⟨hrequests, hend⟩ := requestsIn_polls hserves hin₂
    (fun f hf => hfs f (heq ▸ List.mem_append_right _ hf)) hleft hlength
  rw [mail_append, requestsIn_append, hrequests, through_append]
  exact ⟨heq.symm, hend⟩

end Service

end WindowTiling
