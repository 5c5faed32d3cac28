/-!
# Binary floating-point values

Values with 53 significant binary digits, held exactly as a mantissa and a power of two, and the
correctly rounded quotient of two natural numbers. Everything is natural-number arithmetic, so
the values can be computed with and reasoned about like any other data.
-/

namespace WindowTiling

/-! ## Rounding to an integer -/

/-- The integer nearest to `a / b`; a half goes to the even neighbour. -/
def roundHalfEven (a b : Nat) : Nat :=
  let q := a / b
  let r := a % b
  if 2 * r < b then q else if b < 2 * r then q + 1 else q + q % 2

/-! ## Values -/

/-- A floating-point value. A finite one stands for `± mantissa * 2 ^ exponent`, with the
mantissa below `2 ^ 53` and the exponent at least `-1074`; the mantissa has all 53 digits
unless the exponent is the least one. -/
inductive Binary64 where
  | finite (negative : Bool) (mantissa : Nat) (exponent : Int)
  | infinite (negative : Bool)
  | undefined
  deriving DecidableEq, Repr

namespace Binary64

/-- `n / d` divided by `2 ^ k`, as a pair of natural numbers. -/
def scale (n d : Nat) (k : Int) : Nat × Nat :=
  if 0 ≤ k then (n, d * Nat.pow 2 k.toNat) else (n * Nat.pow 2 (-k).toNat, d)

/-- The power of two that leaves 53 digits before the point of `n / d`, or the least one. -/
def quotientExponent (n d : Nat) : Int :=
  let k : Int := (Nat.log2 n : Int) - Nat.log2 d - 52
  let (a, b) := scale n d k
  max (if a / b < 0x10000000000000 then k - 1 else k) (-1074)

/-- The mantissa and exponent nearest to `n / d`, ties to the even mantissa. None when the
quotient rounds to `2 ^ 1024` or more. -/
def roundQuotient (n d : Nat) : Option (Nat × Int) :=
  let e := quotientExponent n d
  let (a, b) := scale n d e
  let m := roundHalfEven a b
  let (m, e) := if m = 0x20000000000000 then (0x10000000000000, e + 1) else (m, e)
  if 971 < e then none else some (m, e)

/-- The value nearest to `± n / d`; an overflowing quotient is infinite. -/
def ofQuotient (negative : Bool) (n d : Nat) : Binary64 :=
  match roundQuotient n d with
  | some (m, e) => finite negative m e
  | none => infinite negative

/-- The value of a decimal literal `± digits * 10 ^ exponent`. Exponents far outside the range of
the finite values are answered without computing the power. -/
def ofDecimal (negative : Bool) (digits : Nat) (exponent : Int) : Binary64 :=
  let size : Int := (Nat.toDigits 10 digits).length + exponent
  if digits = 0 ∨ size < -330 then finite negative 0 (-1074)
  else if 310 < size then infinite negative
  else if 0 ≤ exponent then ofQuotient negative (digits * Nat.pow 10 exponent.toNat) 1
  else ofQuotient negative digits (Nat.pow 10 (-exponent).toNat)

/-- The fraction `mantissa * 2 ^ exponent`. -/
def magnitude (mantissa : Nat) (exponent : Int) : Nat × Nat :=
  if 0 ≤ exponent then (mantissa * Nat.pow 2 exponent.toNat, 1)
  else (mantissa, Nat.pow 2 (-exponent).toNat)

/-- The rational number a finite value stands for. -/
def toRat? : Binary64 → Option Rat
  | finite negative m e =>
    let (n, d) := magnitude m e
    some (mkRat (if negative then -(n : Int) else n) d)
  | _ => none

end Binary64

/-- The quotient `a / b` rounded to a floating-point value, as a rational number; none when it is
too large for one. The divisor is a positive number wherever this is used. -/
def roundedRatio (a b : Int) : Option Rat :=
  (Binary64.roundQuotient a.natAbs b.natAbs).map fun (m, e) =>
    let (n, d) := Binary64.magnitude m e
    mkRat (if (a < 0) ≠ (b < 0) then -(n : Int) else n) d

end WindowTiling
