import Mathlib.Data.Int.ModEq

/-!
# Narrowing a signed word to an unsigned one

A conversion from a signed integer type to a narrower unsigned one keeps the low bits.
Read as integers the two values agree modulo the narrower width, and they are equal
exactly when the wide value lies in the range of the narrow type.
-/

namespace RtcClient.Lib

variable {n m : Nat}

/-- Narrowing is reduction modulo the narrower width. -/
theorem toNat_setWidth_eq_toInt_emod (x : BitVec n) (h : m ≤ n) :
    ((x.setWidth m).toNat : Int) = x.toInt % 2 ^ m := by
  have hdvd : (2 ^ m : Int) ∣ 2 ^ n := pow_dvd_pow 2 h
  rw [BitVec.toNat_setWidth, BitVec.toInt_eq_toNat_cond]
  split
  · push_cast
    rfl
  · push_cast
    rw [Int.sub_emod, Int.emod_eq_zero_of_dvd hdvd, sub_zero, Int.emod_emod]

/-- A value survives narrowing exactly when the narrow type has it. -/
theorem toNat_setWidth_eq_toInt_iff (x : BitVec n) (h : m ≤ n) :
    ((x.setWidth m).toNat : Int) = x.toInt ↔ 0 ≤ x.toInt ∧ x.toInt < 2 ^ m := by
  have hpos : (0 : Int) < 2 ^ m := Int.pow_pos (by decide)
  rw [toNat_setWidth_eq_toInt_emod x h]
  constructor
  · intro heq
    rw [← heq]
    exact ⟨Int.emod_nonneg _ hpos.ne', Int.emod_lt_of_pos _ hpos⟩
  · rintro ⟨h₀, h₁⟩
    exact Int.emod_eq_of_lt h₀ h₁

end RtcClient.Lib
