import WindowTiling.Text.Utf8

/-!
# Text for bytes

The names of files and the variables of an environment are bytes. Text stands for them as their
UTF-8 decoding; each byte that is part of no character has a surrogate of its own, U+DC80 for the
byte 0x80 and so on. The other surrogates stand for nothing, and text that holds one stands for no
bytes.

Main fact: `encode_ofChars` (characters stand for their UTF-8 encoding).
-/

namespace WindowTiling

namespace RawBytes

/-- Bytes from here on can have surrogates of their own. -/
def firstByte : Nat := 0x80

/-- The place of the surrogate of the first such byte. -/
def firstPlace : Nat := 0x480

/-- The surrogate that stands for a byte. -/
def escape (b : UInt8) : CodePoint := .surrogateAt (firstPlace + (b.toNat - firstByte))

/-- The bytes that a code point stands for. -/
def bytesOf? : CodePoint → Option (List UInt8)
  | .char c => some (Utf8.encodeChar c)
  | .surrogate place =>
    if firstPlace ≤ place.val ∧ place.val < firstPlace + firstByte then
      some [UInt8.ofNat (firstByte + (place.val - firstPlace))]
    else none

/-- The bytes that a text stands for. -/
def encode (t : Text) : Except Utf8.EncodeError (List UInt8) :=
  match t.mapM bytesOf? with
  | some bytes => .ok bytes.flatten
  | none =>
    let good := t.takeWhile fun c => (bytesOf? c).isSome
    .error ⟨good.length, (t.drop good.length).takeWhile CodePoint.isSurrogate⟩

/-- Characters stand for their UTF-8 encoding. -/
theorem encode_ofChars (cs : List Char) : encode (Text.ofChars cs) = .ok (Utf8.encode cs) := by
  have h : (Text.ofChars cs).mapM bytesOf? = some (cs.map Utf8.encodeChar) := by
    induction cs with
    | nil => rfl
    | cons c cs ih =>
      simp only [Text.ofChars] at ih
      simp [Text.ofChars, ih, bytesOf?]
  rw [encode, h]
  rfl

/-- The text that stands for bytes. -/
def decode (bytes : List UInt8) : Text :=
  match bytes with
  | [] => []
  | b :: rest =>
    match Utf8.lead? b with
    | none => escape b :: decode rest
    | some (count, lo, hi, bits) =>
      match _h : Utf8.tails lo hi bits 0 count rest with
      | .error (good, _) => ((b :: rest).take (good + 1)).map escape ++ decode (rest.drop good)
      | .ok (n, after) => .char (Char.ofNat n) :: decode after
termination_by bytes.length
decreasing_by
  · simp
  · simp only [List.length_cons, List.length_drop]
    omega
  · have := Utf8.length_tails _h
    simp only [List.length_cons]
    omega

end RawBytes

end WindowTiling
