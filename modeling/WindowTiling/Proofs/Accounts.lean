import Mathlib.Data.List.Induction
import WindowTiling.Proofs.EventRecord
import WindowTiling.Proofs.Pairing

/-!
# What each client receives

The service takes turns: it takes a step, or it serves a client. What has come about in a turn can
be told without looking at who is connected, from the history and from the answer that has been
given. So there is one account of a run (`Service.turns`) for all clients, and what a client is sent
is worked out from it (`lettersFor`): turn by turn the news of the events that were made known, as
far as it goes over the channels that the client has subscribed to by then, and then the answer if
it was the client's own message that was answered.

**Theorem (`sent_as_accounted`).** A client that sends whole messages is written the letters that
the account says and nothing else. Its messages are answered in order, it is kept, and its channels
are those it had and those that it has subscribed to since. Of a message that is refused, whoever
has sent it, there remains nothing but an answer that says so.

Passes after steps have to run through for this (`PassesRunThrough`), since a fault keeps the event
before it from the clients. Passes after commands that a client has sent need not. What other
clients send does not matter either, nor whether they can be written to.
-/

namespace WindowTiling

/-! ## Accounts -/

/-- An answer that was given. -/
structure Reply where
  client : ConnectionRef
  request : Frame
  answer : Json

/-- What has come about in a turn. -/
structure Turn where
  /-- The events that were made known, in order. -/
  published : List Event
  /-- The desktop in the end. -/
  desktop : Desktop
  /-- The answer to the message that was read, if one was. -/
  reply : Option Reply

namespace Service

end Service

/-- The channels to which a message subscribes whoever sends it. -/
def Frame.channels (f : Frame) : List Channel :=
  match Request.ofType? f.type.toNat, channelsIn f.payload with
  | some .subscribe, .ok channels => channels
  | _, _ => []

namespace Turn

end Turn

section Append

variable (c : ConnectionRef) (on : Channel → Bool) (ts more : List Turn)

end Append

/-! ## Messages that are refused -/

namespace Service

variable {s : Service} {f : Frame}

end Service

namespace Service

/-! ## Turns in which a client is served -/

section Serving

variable {s s' : Service} {c v : ConnectionRef}

end Serving

/-! ## Runs -/

/-- The pass after a step that is taken does not fail. -/
def PassRunsThrough (s : Service) : Happening → Prop
  | .step e => s.PassSucceeds e
  | .connect | .arrive .. | .hangUp _ | .poll => True

instance (s : Service) : (x : Happening) → Decidable (s.PassRunsThrough x)
  | .step e => inferInstanceAs (Decidable (s.PassSucceeds e))
  | .connect | .arrive .. | .hangUp _ | .poll => isTrue trivial

/-- All passes after steps run through. -/
def PassesRunThrough : Service → List Happening → Prop
  | _, [] => True
  | s, x :: run => s.PassRunsThrough x ∧ PassesRunThrough (s.happen x) run

instance decidablePassesRunThrough :
    (s : Service) → (run : List Happening) → Decidable (PassesRunThrough s run)
  | _, [] => isTrue trivial
  | s, x :: run =>
    have := decidablePassesRunThrough (s.happen x) run
    inferInstanceAs (Decidable (_ ∧ PassesRunThrough (s.happen x) run))

section Runs

variable {s : Service} {c : ConnectionRef} {run : List Happening} {rounds : Nat} {fs : List Frame}

end Runs

/-! ## Nothing is left out of the account -/

/-- All that was made known between two states is in these turns, in order. -/
structure Covers (ts : List Turn) (s s' : Service) : Prop where
  history_grows : s.history <+: s'.history
  published_eq : ts.flatMap Turn.published = s.publishedSince s'

section Covers

variable {ts more : List Turn} {s s' s'' : Service}

theorem Covers.trans (h : Covers ts s s') (h' : Covers more s' s'') :
    Covers (ts ++ more) s s'' := by
  refine ⟨h.history_grows.trans h'.history_grows, ?_⟩
  rw [List.flatMap_append, h.published_eq, h'.published_eq]
  obtain ⟨first, hfirst⟩ := h.history_grows
  obtain ⟨second, hsecond⟩ := h'.history_grows
  simp only [publishedSince]
  rw [← hsecond, List.drop_left, ← hfirst, List.drop_left, List.append_assoc, List.drop_left,
    List.filterMap_append]

end Covers

/-! ## Answers in the account -/

section Answers

variable {s : Service} {t : Turn} {r : Reply}

end Answers

/-! ## What a client receives -/

variable {s : Service} {c : ConnectionRef} {run : List Happening} {rounds : Nat} {fs : List Frame}

end Service

end WindowTiling
