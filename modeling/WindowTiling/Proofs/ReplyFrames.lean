import Mathlib.Tactic.ByContra
import WindowTiling.Proofs.Streams

/-!
# Messages that a client reads

A client reads a message in two exact amounts, the header and then what the header announces. It
waits for the rest of a message, so that it does not matter to it in which pieces the bytes come.

**Theorem (`replies_read_exactly`).** From messages that were written one after the other as many
readings get these messages in order, and all bytes that follow them are left. From any bytes at all
after which the sender has closed its end, one reading gets a message, or it fails: and it fails
just if there is no whole header, or the header does not start with the magic word, or the bytes
after the header are fewer than it announces.
-/

namespace WindowTiling

/-- The length of the payload that a header at the front of the bytes announces. -/
def announcedLength (bytes : List UInt8) : Nat := readWord ((bytes.drop magic.length).take 4)

theorem Header.read?_take (bytes : List UInt8) :
    Header.read? (bytes.take headerSize) = Header.read? bytes := by
  simp only [Header.read?, headerSize, List.take_take, List.drop_take]
  rfl

theorem Header.read?_eq_none {bytes : List UInt8} (h : bytes.take magic.length ≠ magic) :
    Header.read? bytes = none := if_neg h

theorem Header.exists_read? {bytes : List UInt8} (h : bytes.take magic.length = magic) :
    ∃ type, Header.read? bytes = some ⟨announcedLength bytes, type⟩ := ⟨_, if_pos h⟩

section

variable {s : ByteStream}

theorem readReplyFrame_of_short (hended : s.ended = true) (h : s.unread.length < headerSize) :
    readReplyFrame s = .error .closed := by
  rw [readReplyFrame, receiveReply_of_lt hended h]
  rfl

theorem readReplyFrame_of_alien (hsize : headerSize ≤ s.unread.length)
    (h : s.unread.take magic.length ≠ magic) :
    ∃ bytes, readReplyFrame s = .error (.badMagic bytes) := by
  obtain ⟨rest, hread, -, -⟩ := receiveReply_of_le hsize
  refine ⟨(s.unread.take headerSize).take magic.length, ?_⟩
  rw [readReplyFrame, hread]
  simp only [bind, Except.bind, Header.read?_take, Header.read?_eq_none h]
  rfl

theorem readReplyFrame_of_cut (hended : s.ended = true) (hsize : headerSize ≤ s.unread.length)
    (hmagic : s.unread.take magic.length = magic)
    (h : (s.unread.drop headerSize).length < announcedLength s.unread) :
    readReplyFrame s = .error .closed := by
  obtain ⟨rest, hread, hunread, hended'⟩ := receiveReply_of_le hsize
  obtain ⟨type, hheader⟩ := Header.exists_read? hmagic
  have hbody : receiveReply (announcedLength s.unread) rest = .error .closed :=
    receiveReply_of_lt (hended'.trans hended) (hunread ▸ h)
  rw [readReplyFrame, hread]
  simp only [bind, Except.bind, Header.read?_take, hheader, hbody]

theorem readReplyFrame_of_whole (hsize : headerSize ≤ s.unread.length)
    (hmagic : s.unread.take magic.length = magic)
    (h : announcedLength s.unread ≤ (s.unread.drop headerSize).length) :
    ∃ f rest, readReplyFrame s = .ok (f, rest) ∧
      f.payload = (s.unread.drop headerSize).take (announcedLength s.unread) ∧
      rest.unread = (s.unread.drop headerSize).drop (announcedLength s.unread) := by
  obtain ⟨rest, hread, hunread, -⟩ := receiveReply_of_le hsize
  obtain ⟨type, hheader⟩ := Header.exists_read? hmagic
  obtain ⟨rest', hbody, hrest, -⟩ := receiveReply_of_le (s := rest) (hunread ▸ h)
  refine ⟨⟨type, rest.unread.take (announcedLength s.unread)⟩, rest', ?_, hunread ▸ rfl,
    hunread ▸ hrest⟩
  rw [readReplyFrame, hread]
  simp only [bind, Except.bind, Header.read?_take, hheader, hbody, pure, Except.pure]

end

/-- **What a client reads.** In whatever pieces the bytes come, messages written one after the other
are read in order, and what follows them is left. After any bytes that are the last ones, a reading
fails just if there is no whole header, no magic word at the front, or too little after the header;
it fails as a failure of the connection. Otherwise it gets the bytes that the header announces and
leaves those that follow. -/
theorem replies_read_exactly :
    (∀ (fs : List Frame) (more : List UInt8) (pieces : List (List UInt8)) (ended : Bool),
      (∀ f ∈ fs, f.payload.length < wordBound) →
      pieces.flatten = fs.flatMap Frame.encode ++ more →
      ∃ rest, readReplyFrames fs.length ⟨pieces, ended⟩ = .ok (fs, rest) ∧ rest.unread = more) ∧
    ∀ pieces : List (List UInt8),
      let bytes := pieces.flatten
      ((∃ e, readReplyFrame ⟨pieces, true⟩ = .error e ∧ e.isTransport = true) ↔
        bytes.length < headerSize ∨ bytes.take magic.length ≠ magic ∨
          (bytes.drop headerSize).length < announcedLength bytes) ∧
      (headerSize ≤ bytes.length → bytes.take magic.length = magic →
        announcedLength bytes ≤ (bytes.drop headerSize).length →
        ∃ f rest, readReplyFrame ⟨pieces, true⟩ = .ok (f, rest) ∧
          f.payload = (bytes.drop headerSize).take (announcedLength bytes) ∧
          rest.unread = (bytes.drop headerSize).drop (announcedLength bytes)) := by
  refine ⟨fun fs more pieces ended hfs hpieces => readReplyFrames_of_unread hfs hpieces,
    fun pieces => ?_⟩
  intro bytes
  let s : ByteStream := ⟨pieces, true⟩
  refine ⟨⟨?_, ?_⟩, readReplyFrame_of_whole (s := s)⟩
  · rintro ⟨e, he, -⟩
    by_contra hwhole
    simp only [not_or, Nat.not_lt, Classical.not_not] at hwhole
    obtain ⟨hsize, hmagic, hbody⟩ := hwhole
    obtain ⟨f, rest, hok, -⟩ := readReplyFrame_of_whole (s := s) hsize hmagic hbody
    cases he.symm.trans hok
  · intro hbroken
    rcases Nat.lt_or_ge bytes.length headerSize with hshort | hsize
    · exact ⟨.closed, readReplyFrame_of_short (s := s) rfl hshort, rfl⟩
    by_cases hmagic : bytes.take magic.length = magic
    · have hcut : (bytes.drop headerSize).length < announcedLength bytes := by
        simpa only [Nat.not_lt.2 hsize, hmagic, ne_eq, not_true, false_or] using hbroken
      exact ⟨.closed, readReplyFrame_of_cut (s := s) rfl hsize hmagic hcut, rfl⟩
    · obtain ⟨found, halien⟩ := readReplyFrame_of_alien (s := s) hsize hmagic
      exact ⟨.badMagic found, halien, rfl⟩

/-- Two messages and a byte more come in three pieces, which are cut in the first header and in the
second one; and a piece of a header is no message. -/
theorem replies_read_exactly_pieces :
    let fs : List Frame := [⟨0, [1, 2, 3]⟩, ⟨7, []⟩]
    let bytes := fs.flatMap Frame.encode ++ [9]
    let pieces := [bytes.take 5, (bytes.drop 5).take 20, bytes.drop 25]
    (∀ f ∈ fs, f.payload.length < wordBound) ∧ pieces.flatten = bytes ∧
      (∃ rest, readReplyFrames fs.length ⟨pieces, false⟩ = .ok (fs, rest) ∧ rest.unread = [9]) ∧
      ∃ e, readReplyFrame ⟨[magic, [3]], true⟩ = .error e ∧ e.isTransport = true := by
  intro fs bytes pieces
  obtain ⟨hread, hbroken⟩ := replies_read_exactly
  exact ⟨by decide, by decide, hread fs [9] pieces false (by decide) (by decide),
    (hbroken [magic, [3]]).1.2 (.inl (by decide))⟩

end WindowTiling
