import SqlStatement.Binary64.Rounding
import SqlStatement.Marker.Scan

/-!
# The values of numerals

The engine does not read every numeral as the number nearest to it. It keeps the leading digits as
an integer of 64 bits, moves what it can of the power of ten into this integer, and multiplies by
the rest of the power in numbers with 64 binary digits, rounding after each factor. The result is
then rounded to `Binary64`, and what exceeds the largest finite number is infinite, without a
rounding. `Numeral.toBinary64` follows these steps; where no power is left, the result is the
nearest number.
-/

namespace SqlStatement

/-- The number `significand * 2 ^ exponent`, with a significand of at most 64 binary digits. -/
structure Extended where
  significand : Nat
  exponent : Int
  deriving DecidableEq

namespace Extended

/-- The number nearest to a quotient, a tie going to the even significand. -/
def ofQuotient (num den : Nat) : Extended :=
  if num = 0 then ⟨0, 0⟩
  else
    let unit := Binary64.binaryExponent num den - 63
    ⟨Binary64.divideToEven (num * Nat.pow 2 (-unit).toNat) (den * Nat.pow 2 unit.toNat), unit⟩

def mul (x y : Extended) : Extended :=
  let product := ofQuotient (x.significand * y.significand) 1
  ⟨product.significand, product.exponent + x.exponent + y.exponent⟩

def mulTimes (x factor : Extended) : Nat → Extended
  | 0 => x
  | count + 1 => (x.mul factor).mulTimes factor count

/-- Multiplies by `10 ^ power`, a hundred, ten and one at a time. -/
def scaleUp (x : Extended) (power : Nat) : Extended :=
  let hundreds := x.mulTimes (ofQuotient (Nat.pow 10 100) 1) (power / 100)
  let tens := hundreds.mulTimes (ofQuotient (Nat.pow 10 10) 1) (power % 100 / 10)
  tens.mulTimes (ofQuotient 10 1) (power % 10)

/-- Multiplies by `10 ^ -power`, a hundred, ten and one at a time. -/
def scaleDown (x : Extended) (power : Nat) : Extended :=
  let hundreds := x.mulTimes (ofQuotient 1 (Nat.pow 10 100)) (power / 100)
  let tens := hundreds.mulTimes (ofQuotient 1 (Nat.pow 10 10)) (power % 100 / 10)
  tens.mulTimes (ofQuotient 1 10) (power % 10)

def largestFinite : Nat := 0x1fffffffffffff * Nat.pow 2 971

def magnitude (x : Extended) : Nat :=
  let num := x.significand * Nat.pow 2 x.exponent.toNat
  let den := Nat.pow 2 (-x.exponent).toNat
  if largestFinite * den < num then Binary64.infinityBits else Binary64.roundQuotient num den

end Extended

/-- A decimal numeral: digits, digits after a point, and a power of ten. -/
structure Numeral where
  whole : List Char
  places : List Char := []
  exponent : Int := 0
  deriving DecidableEq

namespace Numeral

def ofNat (n : Nat) : Numeral := { whole := Nat.toDigits 10 n }

/-- An integer below this takes another digit. -/
def digitRoom : Nat := 0x1999999999999998

/-- An integer below this can be multiplied by ten. -/
def tenfoldRoom : Nat := 0x1999999999999999

/-- Takes a digit before the point: the integer so far, and the digits left out. -/
def takeWhole : Nat × Nat → Char → Nat × Nat
  | (n, skipped), c =>
    if n < digitRoom then (10 * n + digitValue c, skipped) else (n, skipped + 1)

/-- Takes a digit after the point: the integer so far, and the digits taken. -/
def takePlace : Nat × Nat → Char → Nat × Nat
  | (n, taken), c => if n < digitRoom then (10 * n + digitValue c, taken + 1) else (n, taken)

/-- Multiplies by ten while there is room, and returns what is left of the power. -/
def absorb : Nat → Nat → Nat × Nat
  | n, 0 => (n, 0)
  | n, power + 1 => if n < tenfoldRoom then absorb (10 * n) power else (n, power + 1)

/-- Takes trailing zeros off, and returns what is left of the power. -/
def reduce : Nat → Nat → Nat × Nat
  | n, 0 => (n, 0)
  | n, power + 1 => if n % 10 = 0 then reduce (n / 10) power else (n, power + 1)

def magnitude (x : Numeral) : Nat :=
  let (whole, skipped) := x.whole.foldl takeWhole (0, 0)
  let (n, taken) := x.places.foldl takePlace (whole, 0)
  let exponent : Int := x.exponent + skipped - taken
  if n = 0 then 0
  else if 0 ≤ exponent then
    let (n, power) := absorb n exponent.toNat
    if power = 0 then Binary64.roundQuotient n 1
    else ((Extended.ofQuotient n 1).scaleUp power).magnitude
  else
    let (n, power) := reduce n (-exponent).toNat
    if power = 0 then Binary64.roundQuotient n 1
    else ((Extended.ofQuotient n 1).scaleDown power).magnitude

def toBinary64 (x : Numeral) (negative : Bool) : Binary64 :=
  Binary64.ofMagnitude negative x.magnitude

end Numeral

end SqlStatement
