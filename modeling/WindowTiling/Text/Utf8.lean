import WindowTiling.Text.Quoted

/-!
# UTF-8

Encoding of characters as one to four bytes, and decoding with the exact cause of a failure: a
byte that starts no character, a byte that cannot continue the one begun, or an end in the
middle of a character. A failure names the bytes of the character that could not be read.

Main fact: `length_tails` (reading a character consumes bytes, which is why decoding ends).
-/

namespace WindowTiling

namespace Utf8

/-- Why bytes are not UTF-8. -/
inductive Fault where
  | invalidStart
  | invalidContinuation
  | unexpectedEnd
  deriving DecidableEq, Repr

def Fault.message : Fault → String
  | .invalidStart => "invalid start byte"
  | .invalidContinuation => "invalid continuation byte"
  | .unexpectedEnd => "unexpected end of data"

/-- A decoding failure: the bytes read of the character at `position`, and the cause. -/
structure DecodeError where
  position : Nat
  bytes : List UInt8
  fault : Fault
  deriving DecidableEq, Repr

/-- One byte is shown; of several only the positions are. -/
def DecodeError.message (e : DecodeError) : String :=
  let what := match e.bytes with
    | [b] => "byte 0x" ++ Quoted.hex 2 b.toNat ++ s!" in position {e.position}"
    | bs => s!"bytes in position {e.position}-{e.position + bs.length - 1}"
  "'utf-8' codec can't decode " ++ what ++ ": " ++ e.fault.message

/-! ## Encoding -/

/-- The bytes of a character. -/
def encodeChar (c : Char) : List UInt8 :=
  let n := c.toNat
  let tail (unit : Nat) : UInt8 := UInt8.ofNat (0x80 + n / unit % 64)
  if n < 0x80 then [UInt8.ofNat n]
  else if n < 0x800 then [UInt8.ofNat (0xC0 + n / 64), tail 1]
  else if n < 0x10000 then [UInt8.ofNat (0xE0 + n / 0x1000), tail 64, tail 1]
  else [UInt8.ofNat (0xF0 + n / 0x40000), tail 0x1000, tail 64, tail 1]

def encode (cs : List Char) : List UInt8 := cs.flatMap encodeChar

/-- An encoding failure: the surrogates in a row that start at `position`. -/
structure EncodeError where
  position : Nat
  surrogates : Text
  deriving DecidableEq, Repr

def EncodeError.message (e : EncodeError) : String :=
  let what := match e.surrogates with
    | [c] => "character '\\u" ++ Quoted.hex 4 c.number ++ s!"' in position {e.position}"
    | cs => s!"characters in position {e.position}-{e.position + cs.length - 1}"
  "'utf-8' codec can't encode " ++ what ++ ": surrogates not allowed"

/-- Encode text, which must not hold surrogates. -/
def encodeText (t : Text) : Except EncodeError (List UInt8) :=
  match t.toChars? with
  | some cs => .ok (encode cs)
  | none =>
    let good := t.takeWhile fun c => !c.isSurrogate
    .error ⟨good.length, (t.drop good.length).takeWhile CodePoint.isSurrogate⟩

/-! ## Decoding -/

/-- What a lead byte announces: the number of bytes that follow, the range of the first of them,
and the bits of the lead itself. None for a byte that starts no character. -/
def lead? (b : UInt8) : Option (Nat × UInt8 × UInt8 × Nat) :=
  let n := b.toNat
  if b < 0x80 then some (0, 0x80, 0xBF, n)
  else if b < 0xC2 then none
  else if b < 0xE0 then some (1, 0x80, 0xBF, n - 0xC0)
  else if b < 0xF0 then
    some (2, if b = 0xE0 then 0xA0 else 0x80, if b = 0xED then 0x9F else 0xBF, n - 0xE0)
  else if b < 0xF5 then
    some (3, if b = 0xF0 then 0x90 else 0x80, if b = 0xF4 then 0x8F else 0xBF, n - 0xF0)
  else none

/-- Read `count` following bytes, the first of them in the given range, onto the bits read so
far. A failure tells how many of them were good. -/
def tails (lo hi : UInt8) (bits good : Nat) : Nat → List UInt8 →
    Except (Nat × Fault) (Nat × List UInt8)
  | 0, bs => .ok (bits, bs)
  | _ + 1, [] => .error (good, .unexpectedEnd)
  | count + 1, b :: bs =>
    if lo ≤ b ∧ b ≤ hi then tails 0x80 0xBF (bits * 64 + (b.toNat - 0x80)) (good + 1) count bs
    else .error (good, .invalidContinuation)

theorem length_tails {lo hi : UInt8} {bits good count : Nat} {bs : List UInt8} {n : Nat}
    {rest : List UInt8} (h : tails lo hi bits good count bs = .ok (n, rest)) :
    rest.length ≤ bs.length := by
  induction count generalizing lo hi bits good bs with
  | zero =>
    simp only [tails, Except.ok.injEq, Prod.mk.injEq] at h
    exact Nat.le_of_eq (by rw [h.2])
  | succ count ih =>
    cases bs with
    | nil => simp [tails] at h
    | cons b bs =>
      simp only [tails] at h
      split at h
      · have := ih h
        simp only [List.length_cons]
        omega
      · simp at h

/-- Decode the bytes from a position on. -/
def decodeFrom (position : Nat) (bs : List UInt8) : Except DecodeError (List Char) :=
  match bs with
  | [] => .ok []
  | b :: rest =>
    match lead? b with
    | none => .error ⟨position, [b], .invalidStart⟩
    | some (count, lo, hi, bits) =>
      match h : tails lo hi bits 0 count rest with
      | .error (good, fault) => .error ⟨position, (b :: rest).take (good + 1), fault⟩
      | .ok (n, after) =>
        (decodeFrom (position + 1 + count) after).map (Char.ofNat n :: ·)
termination_by bs.length
decreasing_by
  have := length_tails h
  simp only [List.length_cons]
  omega

/-- Decode a byte sequence. -/
def decode (bs : List UInt8) : Except DecodeError (List Char) := decodeFrom 0 bs

end Utf8

end WindowTiling
