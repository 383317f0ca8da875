import SqlStatement.Binary64.Basic

/-!
# Rounding to binary64

Every conversion into `Binary64` rounds one exact quotient of natural numbers to the nearest
number, a tie going to the even significand (`Binary64.roundQuotient`). From it come

* `Binary64.ofInt`, an integer;
* `Binary64.ofDecimal`, a decimal numeral `digits * 10 ^ exponent`;
* `Binary64.ofBinary32`, a 32-bit number, which is exact.
-/

namespace SqlStatement

structure Binary32 where
  bits : UInt32
  deriving DecidableEq, Inhabited

namespace Binary64

/-- The quotient rounded to the nearest integer, a tie going to the even one. -/
def divideToEven (num den : Nat) : Nat :=
  let quotient := num / den
  let twice := 2 * (num % den)
  if twice < den ∨ (twice = den ∧ quotient % 2 = 0) then quotient else quotient + 1

/-- The exponent `e` with `2 ^ e ≤ num / den < 2 ^ (e + 1)`, for positive `num` and `den`. -/
def binaryExponent (num den : Nat) : Int :=
  let estimate : Int := (num.log2 : Int) - den.log2
  let reached :=
    if 0 ≤ estimate then den * Nat.pow 2 estimate.toNat ≤ num
    else den ≤ num * Nat.pow 2 (-estimate).toNat
  if reached then estimate else estimate - 1

/--
The magnitude pattern nearest to `num / den`. A significand counts units of `2 ^ unit`; the
pattern of a significand is its exponent field times `2 ^ 52` plus the significand less its
leading bit, and one sum covers the subnormal numbers, the normal ones and the carry into the
next exponent. What lies beyond the largest finite number is infinite.
-/
def roundQuotient (num den : Nat) : Nat :=
  if num = 0 then 0 else
    let unit := max (binaryExponent num den - 52) (-1074)
    let significand := divideToEven (num * Nat.pow 2 (-unit).toNat) (den * Nat.pow 2 unit.toNat)
    min ((unit + 1074).toNat * fractionSize + significand) infinityBits

def ofInt (n : Int) : Binary64 := ofMagnitude (decide (n < 0)) (roundQuotient n.natAbs 1)

/-- More decimal places than this, before or after the point, leave the range of the numbers. -/
def decimalRange : Int := 400

/-- The number nearest to `± digits * 10 ^ exponent`. -/
def ofDecimal (negative : Bool) (digits : Nat) (exponent : Int) : Binary64 :=
  let length : Int := (Nat.toDigits 10 digits).length
  ofMagnitude negative <|
    if digits = 0 ∨ length + exponent < -decimalRange then 0
    else if decimalRange < length + exponent then infinityBits
    else roundQuotient (digits * Nat.pow 10 exponent.toNat) (Nat.pow 10 (-exponent).toNat)

/-- The same number in 64 bits; every NaN becomes `nan`. -/
def ofBinary32 (x : Binary32) : Binary64 :=
  let word := x.bits.toNat
  let exponentField := word / 0x800000 % 0x100
  let fraction := word % 0x800000
  let negative := decide (0x80000000 ≤ word)
  if exponentField = 255 then
    if fraction = 0 then ofMagnitude negative infinityBits else nan
  else
    let significand :=
      if exponentField = 0 then fraction
      else (0x800000 + fraction) * Nat.pow 2 (exponentField - 1)
    ofMagnitude negative (roundQuotient significand (Nat.pow 2 149))

end Binary64

end SqlStatement
