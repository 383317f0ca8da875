/-!
# Binary64 numbers

A 64-bit floating-point number is its bit pattern. This module holds

* the three fields of a pattern and the classes they decide (`Binary64.isNaN`,
  `Binary64.isFinite`, `Binary64.isZero`);
* comparison as numbers, `Binary64.sameNumber`, which is not equality of patterns: a NaN is
  not the same number as itself, and the two zeros are the same number;
* `FiniteBinary64`, the numbers that are neither infinite nor NaN.

Equality `=` on `Binary64` is equality of bit patterns.
-/

namespace SqlStatement

/-- A 64-bit floating-point number, given by its bits. -/
structure Binary64 where
  bits : UInt64
  deriving DecidableEq, Inhabited

namespace Binary64

/-! ## Fields -/

/-- The weight of the sign bit, `2 ^ 63`. -/
def signWeight : Nat := 0x8000000000000000

/-- There are `2 ^ 52` fractions to an exponent. -/
def fractionSize : Nat := 0x10000000000000

/-- There are `2 ^ 11` exponents. -/
def exponentSize : Nat := 0x800

def isNegative (x : Binary64) : Bool := decide (signWeight ≤ x.bits.toNat)

def exponentField (x : Binary64) : Nat := x.bits.toNat / fractionSize % exponentSize

def fraction (x : Binary64) : Nat := x.bits.toNat % fractionSize

/-- The pattern without its sign bit. -/
def magnitudeBits (x : Binary64) : Nat := x.bits.toNat % signWeight

/-! ## Classes -/

/-- The exponent field of the infinities and the NaNs. -/
def specialExponent : Nat := 2047

def isFinite (x : Binary64) : Bool := x.exponentField != specialExponent

def isNaN (x : Binary64) : Bool := x.exponentField == specialExponent && x.fraction != 0

def isZero (x : Binary64) : Bool := x.magnitudeBits == 0

/-- The quiet NaN with an otherwise empty fraction. -/
def nan : Binary64 := ⟨0x7ff8000000000000⟩

/-- The pattern of a sign and of a pattern without one. -/
def ofMagnitude (negative : Bool) (magnitude : Nat) : Binary64 :=
  ⟨UInt64.ofNat (magnitude + if negative then signWeight else 0)⟩

def infinityBits : Nat := specialExponent * fractionSize

/-! ## Comparison as numbers -/

/-- Two numbers are the same if neither is a NaN and they have the same bits, or both are zero. -/
def sameNumber (x y : Binary64) : Bool :=
  !x.isNaN && !y.isNaN && (x == y || (x.isZero && y.isZero))

end Binary64

def FiniteBinary64 : Type := { x : Binary64 // x.isFinite = true }

namespace FiniteBinary64

instance : DecidableEq FiniteBinary64 := inferInstanceAs (DecidableEq (Subtype _))

def ofBinary64? (x : Binary64) : Option FiniteBinary64 :=
  if h : x.isFinite = true then some ⟨x, h⟩ else none

theorem ofBinary64?_eq_none_iff (x : Binary64) : ofBinary64? x = none ↔ x.isFinite = false := by
  unfold ofBinary64?; split <;> simp_all

end FiniteBinary64

end SqlStatement
