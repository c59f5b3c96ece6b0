import Mathlib.Data.Int.ModEq
import Mathlib.Data.Rat.Floor
import ScalarExpr.Operation.Basic
import ScalarExpr.Regex.Dialect
/-!
# Shifts

A word is shifted by a count that is a word as well. It is narrowed to 32 bits, and no bit is
left from 64 places on. Both steps agree with arithmetic: a word shifted to the left is the
word that is congruent to its product with the power of two, however large the count is, and
a word shifted to the right is the quotient by that power, rounded down. Negative counts
leave what the largest ones leave.

## Main statements

- `toInt_shiftLeft_modEq`: shifts to the left are products
- `toInt_shiftRight`: shifts to the right are quotients
- `Operator.applyBinary_shift`: the shifts of any two operands
-/

namespace ScalarExpr

variable {word count : Int64} {n : Nat}

-- ════════════════════════════════════════════════════════════════════════
-- Counts
-- ════════════════════════════════════════════════════════════════════════

theorem narrow?_eq_some (h : 0 ≤ count.toInt) (hsize : count.toInt < UInt32.size) :
    (narrow? count).map UInt32.toNat = some count.toInt.toNat := by
  have hlt : count.toInt.toNat < UInt32.size := by omega
  rw [narrow?, if_pos ⟨h, hsize⟩, Option.map_some, UInt32.toNat_ofNat_of_lt' hlt]

/-- Narrowing keeps every count below the number of bits. -/
theorem places?_eq_some (h : 0 ≤ count.toInt) (hbits : count.toInt < 64) :
    places? count = some count.toInt.toNat := by
  have hsize : count.toInt < UInt32.size := Int.lt_trans hbits (by decide)
  rw [places?, narrow?_eq_some h hsize]
  exact Option.filter_some_pos (decide_eq_true (by omega))

theorem places?_eq_none (h : count.toInt < 0 ∨ 64 ≤ count.toInt) : places? count = none := by
  by_cases hnarrow : 0 ≤ count.toInt ∧ count.toInt < UInt32.size
  · rw [places?, narrow?_eq_some hnarrow.1 hnarrow.2]
    exact Option.filter_some_neg (decide_eq_false (by omega))
  · rw [places?, narrow?, if_neg hnarrow]
    rfl

-- ════════════════════════════════════════════════════════════════════════
-- Words
-- ════════════════════════════════════════════════════════════════════════

theorem toBitVec_smod_ofNat (h : n < 64) :
    (Int64.ofNat n).toBitVec.smod 64 = BitVec.ofNat 64 n := by
  have hn : (BitVec.ofNat 64 n).toInt = n := by
    rw [BitVec.toInt_eq_toNat_of_lt] <;> simp <;> omega
  have hbits : (64 : BitVec 64).toInt = 64 := by decide
  apply BitVec.eq_of_toInt_eq
  change ((BitVec.ofNat 64 n).smod 64).toInt = _
  rw [BitVec.toInt_smod, hn, hbits]
  exact Int.fmod_eq_of_lt (by omega) (by omega)

theorem toNat_ofNat_of_lt (h : n < 64) : (BitVec.ofNat 64 n).toNat = n := by
  rw [BitVec.toNat_ofNat, Nat.mod_eq_of_lt (by omega)]

theorem toInt_shiftLeft_ofNat (h : n < 64) :
    (word <<< Int64.ofNat n).toInt = (word.toInt * 2 ^ n).bmod (2 ^ 64) := by
  rw [← Int64.toInt_toBitVec, ← Int64.toInt_toBitVec, Int64.toBitVec_shiftLeft,
    toBitVec_smod_ofNat h, BitVec.shiftLeft_eq', toNat_ofNat_of_lt h, BitVec.toInt_shiftLeft,
    BitVec.toInt_eq_toNat_bmod, Int.bmod_mul_bmod, Nat.shiftLeft_eq, Nat.cast_mul, Nat.cast_pow]
  rfl

theorem toInt_shiftRight_ofNat (h : n < 64) :
    (word >>> Int64.ofNat n).toInt = word.toInt / 2 ^ n := by
  rw [← Int64.toInt_toBitVec, ← Int64.toInt_toBitVec, Int64.toBitVec_shiftRight,
    toBitVec_smod_ofNat h, BitVec.toInt_sshiftRight', toNat_ofNat_of_lt h,
    Int.shiftRight_eq_div_pow, Nat.cast_pow]
  rfl

theorem toInt_sign (word : Int64) :
    (if word < 0 then -1 else 0 : Int64).toInt = if word.toInt < 0 then -1 else 0 := by
  have hsign : word < 0 ↔ word.toInt < 0 := Int64.lt_iff_toInt_lt
  by_cases hneg : word < 0
  · rw [if_pos hneg, if_pos (hsign.1 hneg)]
    rfl
  · rw [if_neg hneg, if_neg (mt hsign.2 hneg)]
    rfl

theorem two_pow_le_of_bits_le (h : 64 ≤ n) : (2 : ℤ) ^ 64 ≤ 2 ^ n :=
  pow_le_pow_right₀ (by decide) h

/-- A word shifted to the left is congruent to a product, however large the count is. -/
theorem toInt_shiftLeft_modEq (word : Int64) (h : 0 ≤ count.toInt) :
    (shiftLeft word count).toInt ≡ word.toInt * 2 ^ count.toInt.toNat [ZMOD 2 ^ 64] := by
  rw [shiftLeft]
  by_cases hbits : count.toInt < 64
  · rw [places?_eq_some h hbits, Option.map_some, Option.getD_some,
      toInt_shiftLeft_ofNat (by omega)]
    exact Int.bmod_emod
  · -- the modulus divides the product, and no bit is left
    rw [places?_eq_none (by omega)]
    have hdvd : (2 : ℤ) ^ 64 ∣ word.toInt * 2 ^ count.toInt.toNat :=
      dvd_mul_of_dvd_right (pow_dvd_pow 2 (by omega)) _
    exact (Int.modEq_zero_iff_dvd.2 hdvd).symm

/-- A word shifted to the right is a quotient rounded down, however large the count is. -/
theorem toInt_shiftRight (word : Int64) (h : 0 ≤ count.toInt) :
    (shiftRight word count).toInt = word.toInt / 2 ^ count.toInt.toNat := by
  rw [shiftRight]
  by_cases hbits : count.toInt < 64
  · rw [places?_eq_some h hbits, Option.map_some, Option.getD_some,
      toInt_shiftRight_ofNat (by omega)]
  · -- the divisor is larger than any word
    rw [places?_eq_none (by omega), Option.map_none, Option.getD_none, toInt_sign]
    have hpow := two_pow_le_of_bits_le (n := count.toInt.toNat) (by omega)
    have hlow := word.le_toInt
    have hhigh := word.toInt_lt
    by_cases hneg : word.toInt < 0
    · rw [if_pos hneg, Int.ediv_eq_neg_one_of_neg_of_le hneg (by omega)]
    · rw [if_neg hneg, Int.ediv_eq_zero_of_lt (not_lt.1 hneg) (by omega)]

theorem shiftLeft_of_neg (word : Int64) (h : count.toInt < 0) : shiftLeft word count = 0 := by
  rw [shiftLeft, places?_eq_none (.inl h)]
  rfl

theorem toInt_shiftRight_of_neg (word : Int64) (h : count.toInt < 0) :
    (shiftRight word count).toInt = if word.toInt < 0 then -1 else 0 := by
  rw [shiftRight, places?_eq_none (.inl h)]
  exact toInt_sign word

theorem floor_div_two_pow (m : ℤ) (n : Nat) : ⌊(m : ℚ) / 2 ^ n⌋ = m / 2 ^ n := by
  have h := Rat.floor_intCast_div_natCast m (2 ^ n)
  rwa [Nat.cast_pow, Nat.cast_pow] at h

-- ════════════════════════════════════════════════════════════════════════
-- Operands
-- ════════════════════════════════════════════════════════════════════════

/-- Shifts of any two operands. If the count is not negative, a shift to the left comes to the
    word that is congruent to the product with the power of two, and one to the right to the
    quotient, rounded down, each as the nearest number. If it is negative, no bit is left but
    the sign of a word that is shifted to the right. -/
theorem Operator.applyBinary_shift [Regex.Engine] (left right : Operand) :
    let word := left.toInteger
    let count := right.toInteger
    (0 ≤ count.toInt →
      (∃ n : Int64, n.toInt ≡ word.toInt * 2 ^ count.toInt.toNat [ZMOD 2 ^ 64] ∧
        applyBinary (.bitwise .shiftLeft) left right = .ok (.ofInt n.toInt)) ∧
      applyBinary (.bitwise .shiftRight) left right =
        .ok (.ofInt ⌊(word.toInt : ℚ) / 2 ^ count.toInt.toNat⌋)) ∧
    (count.toInt < 0 →
      applyBinary (.bitwise .shiftLeft) left right = .ok (.ofInt 0) ∧
      applyBinary (.bitwise .shiftRight) left right =
        .ok (.ofInt (if word.toInt < 0 then -1 else 0))) := by
  intro word count
  have hleft : applyBinary (.bitwise .shiftLeft) left right =
      .ok (.ofInt (shiftLeft word count).toInt) := rfl
  have hright : applyBinary (.bitwise .shiftRight) left right =
      .ok (.ofInt (shiftRight word count).toInt) := rfl
  refine ⟨fun h => ⟨⟨shiftLeft word count, toInt_shiftLeft_modEq word h, hleft⟩, ?_⟩,
    fun h => ⟨?_, ?_⟩⟩
  · rw [hright, toInt_shiftRight word h, floor_div_two_pow]
  · rw [hleft, shiftLeft_of_neg word h]
    rfl
  · rw [hright, toInt_shiftRight_of_neg word h]

/-- From 65 places on, a negative word leaves its sign when it is shifted to the right. A
    count taken modulo 64, or modulo a power of two, would leave more of it. -/
theorem Operator.applyBinary_shift_past_bits :
    let left := Operand.ofInt (-5)
    let right := Operand.string "0x41"
    0 ≤ right.toInteger.toInt ∧
      applyBinary (.bitwise .shiftRight) left right = .ok (.ofInt (-1)) ∧
      (Operand.ofInt (-1)).toInteger.toInt < 0 ∧
      applyBinary (.bitwise .shiftLeft) left (.ofInt (-1)) = .ok (.ofInt 0) := by
  intro left right
  have hleft : left.toInteger.toInt = -5 := by decide +kernel
  have hright : right.toInteger.toInt = 65 := by decide +kernel
  have hneg : (Operand.ofInt (-1)).toInteger.toInt < 0 := by decide +kernel
  have hcount : 0 ≤ right.toInteger.toInt := by omega
  obtain ⟨-, hshift⟩ := (applyBinary_shift left right).1 hcount
  rw [hleft, hright, floor_div_two_pow] at hshift
  exact ⟨hcount, hshift, hneg, ((applyBinary_shift left (.ofInt (-1))).2 hneg).1⟩

end ScalarExpr
