import SqlStatement.Json.Basic
import SqlStatement.Binary64.Rounding

/-!
# Integers as binary64 numbers

An integer of 64 bits is far below the largest finite number, so rounding it never ends in an
infinity (`isFinite_ofInt`).
-/

namespace SqlStatement.Binary64

theorem divideToEven_le (num den : Nat) : divideToEven num den ≤ num / den + 1 := by
  unfold divideToEven
  simp only
  split <;> omega

/-- The exponent of a positive integer is its binary logarithm. -/
theorem binaryExponent_one {n : Nat} (hn : n ≠ 0) : binaryExponent n 1 = n.log2 := by
  have hone : Nat.log2 1 = 0 := by decide
  have hle : ¬n < 2 ^ n.log2 := Nat.not_lt.mpr (Nat.log2_self_le hn)
  simp [binaryExponent, hone, hle]

/-- A significand has at most 53 binary digits, or is the least number with 54. -/
theorem significand_le (n : Nat) :
    divideToEven (n * Nat.pow 2 (52 - n.log2)) (1 * Nat.pow 2 (n.log2 - 52)) ≤
      2 * fractionSize := by
  have hlt : n * Nat.pow 2 (52 - n.log2) < 2 ^ 53 * (1 * Nat.pow 2 (n.log2 - 52)) := by
    have hn : n < 2 ^ (n.log2 + 1) := Nat.lt_log2_self
    calc n * 2 ^ (52 - n.log2)
        < 2 ^ (n.log2 + 1) * 2 ^ (52 - n.log2) :=
          Nat.mul_lt_mul_of_pos_right hn (Nat.two_pow_pos _)
      _ = 2 ^ 53 * 2 ^ (n.log2 - 52) := by
          rw [← Nat.pow_add, ← Nat.pow_add]
          congr 1
          omega
      _ = 2 ^ 53 * (1 * Nat.pow 2 (n.log2 - 52)) := by rw [Nat.one_mul]; rfl
  have hquotient := (Nat.div_lt_iff_lt_mul
    (by rw [Nat.one_mul]; exact Nat.two_pow_pos _)).mpr hlt
  exact Nat.le_trans (divideToEven_le _ _) hquotient

/-- The pattern of an integer up to `2 ^ 64` is below that of the infinities. -/
theorem roundQuotient_one_lt {n : Nat} (h : n ≤ 0x10000000000000000) :
    roundQuotient n 1 < infinityBits := by
  unfold roundQuotient
  split
  · decide
  · next hn =>
    have hlog : n.log2 < 65 := (Nat.log2_lt hn).mpr (by omega)
    have hunit : max ((n.log2 : Int) - 52) (-1074) = n.log2 - 52 := by omega
    have hdown : (-((n.log2 : Int) - 52)).toNat = 52 - n.log2 := by omega
    have hup : ((n.log2 : Int) - 52).toNat = n.log2 - 52 := by omega
    have hfield : ((n.log2 : Int) - 52 + 1074).toNat ≤ 1086 := by omega
    have hsignificand := significand_le n
    simp only [binaryExponent_one hn, hunit, hdown, hup]
    simp only [infinityBits, specialExponent, fractionSize] at hsignificand ⊢
    omega

theorem isFinite_ofMagnitude (negative : Bool) {magnitude : Nat}
    (h : magnitude < infinityBits) : (ofMagnitude negative magnitude).isFinite = true := by
  simp only [infinityBits, specialExponent, fractionSize] at h
  simp only [isFinite, exponentField, ofMagnitude, specialExponent, fractionSize, exponentSize,
    signWeight, UInt64.toNat_ofNat', bne_iff_ne, ne_eq]
  cases negative <;> simp only [Bool.false_eq_true, if_false, if_true] <;> omega

/-- Every integer that a JSON number holds is a finite number. -/
theorem isFinite_ofInt (n : Json.Integer) : (ofInt n.val).isFinite = true := by
  have hlower := n.lower
  have hupper := n.upper
  exact isFinite_ofMagnitude _ (roundQuotient_one_lt (by omega))

end SqlStatement.Binary64
