import SqlStatement.Binary64.Basic

/-!
# The fewest digits that read back

`Binary64.shortest` gives a finite non-zero number as `digits * 10 ^ exponent` with the fewest
digits among the decimals that round to the number. It searches the grids of one digit, of two
digits, and so on: on each grid it tests the two neighbours of the number, exactly, in natural
numbers. The first grid with a hit wins, of two hits the nearer, and a tie goes to the even
last digit.
-/

namespace SqlStatement

/-- The number `digits * 10 ^ exponent`. -/
structure Decimal where
  digits : Nat
  exponent : Int
  deriving DecidableEq, Repr

namespace Decimal

/-- Moves the trailing zeros of the digits into the exponent. -/
def normalize (digits : Nat) (exponent : Int) : Decimal :=
  if _h : digits ≠ 0 ∧ digits % 10 = 0 then normalize (digits / 10) (exponent + 1)
  else ⟨digits, exponent⟩
termination_by digits
decreasing_by omega

end Decimal

namespace Binary64

def significand (x : Binary64) : Nat :=
  if x.exponentField = 0 then x.fraction else fractionSize + x.fraction

/-- A finite number is its significand times two to this power. -/
def scale (x : Binary64) : Int :=
  if x.exponentField = 0 then -1074 else (x.exponentField : Int) - 1075

/-- At a power of two the number below is half as far away as the number above. -/
def narrowBelow (x : Binary64) : Bool := x.fraction == 0 && decide (1 < x.exponentField)

/--
The reals that round to a number, in quarters of its unit: from `lower` to `upper`, both ends
included if `closed`. A quarter is `unitNum / unitDen`, and the number itself is `value` quarters.
-/
structure RoundingInterval where
  lower : Nat
  value : Nat
  upper : Nat
  closed : Bool
  unitNum : Nat
  unitDen : Nat

def roundingInterval (x : Binary64) : RoundingInterval where
  lower := 4 * x.significand - if x.narrowBelow then 1 else 2
  value := 4 * x.significand
  upper := 4 * x.significand + 2
  closed := x.significand % 2 == 0
  unitNum := Nat.pow 2 (x.scale - 2).toNat
  unitDen := Nat.pow 2 (2 - x.scale).toNat

namespace RoundingInterval

/-- Compares `digits * 10 ^ exponent` with a number of quarters. -/
def compareWith (i : RoundingInterval) (digits : Nat) (exponent : Int) (quarters : Nat) :
    Ordering :=
  compare (digits * Nat.pow 10 exponent.toNat * i.unitDen)
    (quarters * i.unitNum * Nat.pow 10 (-exponent).toNat)

def contains (i : RoundingInterval) (digits : Nat) (exponent : Int) : Bool :=
  let below := i.compareWith digits exponent i.lower
  let above := i.compareWith digits exponent i.upper
  (below == .gt || (i.closed && below == .eq)) && (above == .lt || (i.closed && above == .eq))

/-- The largest multiple of `10 ^ exponent` that is not above the number. -/
def floorOn (i : RoundingInterval) (exponent : Int) : Nat :=
  (i.value * i.unitNum * Nat.pow 10 (-exponent).toNat) / (i.unitDen * Nat.pow 10 exponent.toNat)

def leadingExponent (i : RoundingInterval) : Int :=
  let num := i.value * i.unitNum
  if i.unitDen ≤ num then (Nat.toDigits 10 (num / i.unitDen)).length - 1
  else -(Nat.toDigits 10 ((i.unitDen + num - 1) / num - 1)).length

/-- The neighbour on the grid of `10 ^ exponent` that rounds to the number, the nearer of two. -/
def onGrid (i : RoundingInterval) (exponent : Int) : Option Decimal :=
  let low := i.floorOn exponent
  match i.contains low exponent, i.contains (low + 1) exponent with
  | false, false => none
  | true, false => some ⟨low, exponent⟩
  | false, true => some ⟨low + 1, exponent⟩
  | true, true =>
    match i.compareWith (2 * low + 1) exponent (2 * i.value) with
    | .gt => some ⟨low, exponent⟩
    | .lt => some ⟨low + 1, exponent⟩
    | .eq => some ⟨if low % 2 = 0 then low else low + 1, exponent⟩

/-- The number itself, with as many digits as it takes. -/
def exactly (i : RoundingInterval) : Decimal :=
  if i.unitDen = 1 then ⟨i.value * i.unitNum, 0⟩
  else ⟨i.value * Nat.pow 5 i.unitDen.log2, -(i.unitDen.log2 : Int)⟩

end RoundingInterval

def maxDigits : Nat := 17

/-- The fewest digits that read back as the magnitude of `x`, for a finite `x` other than zero. -/
def shortest (x : Binary64) : Decimal :=
  let interval := x.roundingInterval
  let top := interval.leadingExponent
  let found := (List.range maxDigits).findSome? fun (dropped : Nat) =>
    interval.onGrid (top - dropped)
  let decimal := found.getD interval.exactly
  Decimal.normalize decimal.digits decimal.exponent

end Binary64

end SqlStatement
