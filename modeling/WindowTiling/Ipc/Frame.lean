/-!
# Frames

Messages between the server and its clients: a fixed magic word, the length of the payload and
the type of the message as little-endian 32-bit numbers, then the payload.

Main facts: `readWord_word` (a number survives the round trip) and `Header.read?_header` (so does
a header).
-/

namespace WindowTiling

/-- A message. -/
structure Frame where
  type : UInt32
  payload : List UInt8
  deriving DecidableEq, Repr, Inhabited

/-! ## Numbers -/

/-- Numbers from here on do not fit into a word. -/
def wordBound : Nat := 0x100000000

/-- A number as four bytes, the lowest first. -/
def word (n : Nat) : List UInt8 :=
  [UInt8.ofNat n, UInt8.ofNat (n / 0x100), UInt8.ofNat (n / 0x10000), UInt8.ofNat (n / 0x1000000)]

/-- The number in a list of bytes, the lowest first. -/
def readWord : List UInt8 → Nat
  | [] => 0
  | b :: bs => b.toNat + 256 * readWord bs

theorem readWord_word {n : Nat} (h : n < wordBound) : readWord (word n) = n := by
  simp only [wordBound] at h
  simp only [word, readWord, UInt8.toNat_ofNat']
  omega

/-! ## Headers -/

/-- What every message starts with. -/
def magic : List UInt8 := [0x69, 0x33, 0x2d, 0x69, 0x70, 0x63]

/-- The number of bytes before the payload. -/
def headerSize : Nat := 14

/-- What a header says of its message. -/
structure Header where
  length : Nat
  type : UInt32
  deriving DecidableEq, Repr

namespace Header

/-- Read a header. None if the magic word is wrong. -/
def read? (bytes : List UInt8) : Option Header :=
  if bytes.take 6 = magic then
    some ⟨readWord ((bytes.drop 6).take 4), UInt32.ofNat (readWord ((bytes.drop 10).take 4))⟩
  else none

end Header

namespace Frame

/-- The header of a message. -/
def header (f : Frame) : List UInt8 := magic ++ word f.payload.length ++ word f.type.toNat

/-- The bytes of a message. Payloads of `wordBound` bytes or more are outside the model: no message
has one, as its length does not fit into the header, but here the length in the header wraps. -/
def encode (f : Frame) : List UInt8 := f.header ++ f.payload

@[simp] theorem length_header (f : Frame) : f.header.length = headerSize := rfl

end Frame

theorem Header.read?_header {f : Frame} (h : f.payload.length < wordBound) :
    Header.read? f.header = some ⟨f.payload.length, f.type⟩ := by
  have hm : f.header.take 6 = magic := rfl
  have hl : (f.header.drop 6).take 4 = word f.payload.length := rfl
  have ht : (f.header.drop 10).take 4 = word f.type.toNat := rfl
  rw [Header.read?, if_pos hm, hl, ht, readWord_word h, readWord_word f.type.toNat_lt]
  simp

/-! ## Types outside the range -/

/-- Why a number is not the type of a message. -/
inductive TypeFault where
  | tooLarge
  | outOfRange
  deriving DecidableEq, Repr

def TypeFault.message : TypeFault → String
  | tooLarge => "'I' format requires 0 <= number <= 4294967295"
  | outOfRange => "argument out of range"

/-- The message type with a number. A number that does not even fit into 64 bits is told apart. -/
def messageType (n : Int) : Except TypeFault UInt32 :=
  if n < 0 ∨ 0x10000000000000000 ≤ n then .error .outOfRange
  else if wordBound ≤ n then .error .tooLarge
  else .ok (UInt32.ofNat n.toNat)

end WindowTiling
