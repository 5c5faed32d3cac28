import WindowTiling.Number.Binary64

/-!
# Shortest decimal text

A floating-point value is written with the fewest decimal digits that read back to it, and of
those the nearest to it. The search tries 1, 2, … 17 digits; on each grid only the two
neighbours of the value can be nearest, so only they are tried.
-/

namespace WindowTiling

namespace Binary64

/-! ## Digits -/

/-- The least `p` with `n / d < 10 ^ p`, for positive `n` and `d`. -/
def decimalPoint (n d : Nat) : Int :=
  if d ≤ n then (Nat.toDigits 10 (n / d)).length
  else
    -- `d / n` has `k` digits before the point: it is at least `10 ^ (k - 1)` and below `10 ^ k`.
    let k := (Nat.toDigits 10 (d / n)).length
    if d = n * Nat.pow 10 (k - 1) then 2 - (k : Int) else 1 - k

/-- The neighbours of `n / d` on the grid of multiples of `10 ^ k`, nearer one first; of two
equally near ones the even one comes first. -/
def neighbours (n d : Nat) (k : Int) : List Nat :=
  let (a, b) := if 0 ≤ k then (n, d * Nat.pow 10 k.toNat) else (n * Nat.pow 10 (-k).toNat, d)
  let q := a / b
  if roundHalfEven a b = q then [q, q + 1] else [q + 1, q]

/-- Drop trailing zeros of a positive numeral into the exponent. -/
def trimZeros : Nat → Nat → Int → Nat × Int
  | 0, digits, k => (digits, k)
  | fuel + 1, digits, k =>
    if digits % 10 = 0 ∧ digits ≠ 0 then trimZeros fuel (digits / 10) (k + 1) else (digits, k)

/-- The fewest digits `c` and the exponent `k` such that `c * 10 ^ k` reads back as
`m * 2 ^ e`, for a positive mantissa. -/
def shortest (m : Nat) (e : Int) : Nat × Int :=
  let (n, d) := magnitude m e
  let p := decimalPoint n d
  let candidates := (List.range 17).flatMap fun (i : Nat) =>
    let k := p - (i + 1)
    (neighbours n d k).map fun c => (c, k)
  match candidates.find? fun (c, k) => ofDecimal false c k = finite false m e with
  | some (c, k) => trimZeros 18 c k
  | none => (m, 0)

/-! ## Text -/

/-- Positional from `0.0001` up to below `10 ^ 16`, with at least one digit after the point;
otherwise one digit before the point and an exponent of at least two digits. -/
def writeDigits (digits : Nat) (k : Int) : String :=
  let cs := Nat.toDigits 10 digits
  let point : Int := cs.length + k
  if -4 < point ∧ point ≤ 16 then
    if point ≤ 0 then "0." ++ String.ofList (List.replicate (-point).toNat '0' ++ cs)
    else
      let whole := cs.take point.toNat ++ List.replicate (point.toNat - cs.length) '0'
      let rest := cs.drop point.toNat
      String.ofList whole ++ "." ++ (if rest.isEmpty then "0" else String.ofList rest)
  else
    let exponent := point - 1
    let size := Nat.repr exponent.natAbs
    let lead := String.ofList (cs.take 1)
    let rest := cs.drop 1
    lead ++ (if rest.isEmpty then "" else "." ++ String.ofList rest) ++
      (if exponent < 0 then "e-" else "e+") ++ (if size.length < 2 then "0" ++ size else size)

/-- The text of a value; `infinity` and `undefined` are written as the two given words. -/
def text (infinityWord undefinedWord : String) : Binary64 → String
  | finite negative m e =>
    (if negative then "-" else "") ++
      (if m = 0 then "0.0" else let (c, k) := shortest m e; writeDigits c k)
  | infinite negative => (if negative then "-" else "") ++ infinityWord
  | undefined => undefinedWord

end Binary64

end WindowTiling
