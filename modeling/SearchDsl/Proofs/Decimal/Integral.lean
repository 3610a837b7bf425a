import SearchDsl.Loose
import Mathlib
/-!
The integer a double is read as. A double's fields stand for the number sign × mantissa ×
2^exponent; a double is read as an integer exactly when that number is an integer in
[-2^63, 2^63], and it is read as that integer, except at the top: 2^63 itself, the double that the
greatest 64-bit integer rounds to, is read as that greatest integer, 2^63 - 1.
-/
set_option autoImplicit false

namespace SearchDsl.Decimal.Binary

/-- The number a double's fields stand for. -/
def value (b : Binary) : ℚ := (if b.neg then -(b.mant : ℚ) else b.mant) * 2 ^ b.exp

/-- The magnitude of a double's fields when it is a whole number, as the reading computes it. -/
def magnitude? (b : Binary) : Option Nat :=
  if 0 ≤ b.exp then some (b.mant * Nat.pow 2 b.exp.toNat)
  else if b.mant % Nat.pow 2 (-b.exp).toNat = 0 then some (b.mant / Nat.pow 2 (-b.exp).toNat)
  else none

theorem value_eq (b : Binary) :
    b.value = if b.neg then -((b.mant : ℚ) * 2 ^ b.exp) else (b.mant : ℚ) * 2 ^ b.exp := by
  unfold value
  split <;> ring

theorem magnitude?_eq_some_iff (b : Binary) (m : Nat) :
    b.magnitude? = some m ↔ (b.mant : ℚ) * 2 ^ b.exp = m := by
  unfold magnitude?
  split_ifs with h0 hdiv
  · -- a non-negative exponent scales the mantissa up
    obtain ⟨k, hk⟩ := Int.eq_ofNat_of_zero_le h0
    rw [hk, Int.toNat_natCast, zpow_natCast, Option.some.injEq, Nat.pow_eq, ← Nat.cast_inj (R := ℚ)]
    push_cast
    exact Iff.rfl
  · -- a negative exponent divides it by a power of two that divides it
    obtain ⟨k, hk⟩ := Int.exists_eq_neg_ofNat (le_of_lt (not_le.mp h0))
    rw [hk, neg_neg, Int.toNat_natCast] at hdiv ⊢
    rw [Nat.pow_eq] at hdiv ⊢
    have hdvd : 2 ^ k ∣ b.mant := Nat.dvd_of_mod_eq_zero hdiv
    rw [Option.some.injEq, ← Nat.cast_inj (R := ℚ), Nat.cast_div hdvd (by positivity), zpow_neg,
      zpow_natCast, div_eq_mul_inv]
    push_cast
    exact Iff.rfl
  · -- a power of two that does not divide the mantissa leaves a fraction
    obtain ⟨k, hk⟩ := Int.exists_eq_neg_ofNat (le_of_lt (not_le.mp h0))
    rw [hk, neg_neg, Int.toNat_natCast, Nat.pow_eq] at hdiv
    rw [hk, zpow_neg, zpow_natCast]
    refine ⟨(fun h => by cases h), fun h => absurd ?_ hdiv⟩
    have hmant : (b.mant : ℚ) = m * 2 ^ k := by
      field_simp at h
      linarith
    have hmant : b.mant = m * 2 ^ k := by exact_mod_cast hmant
    rw [hmant, Nat.mul_mod_left]

theorem floatToI64?_eq (f : Float) :
    Loose.floatToI64? f = (ofFloat? f).bind fun b => b.magnitude?.bind fun m =>
      let v : Int := if b.neg then -(m : Int) else m
      if v < -(Nat.pow 2 63 : Int) ∨ v > Nat.pow 2 63 then none
      else some (min v (Nat.pow 2 63 - 1)) := by
  unfold Loose.floatToI64?
  cases ofFloat? f <;> rfl

theorem value_eq_int_iff (b : Binary) (k : Int) :
    b.value = k ↔ ∃ m, b.magnitude? = some m ∧ (if b.neg then -(m : Int) else m) = k := by
  rw [value_eq]
  constructor
  · intro h
    refine ⟨k.natAbs, (magnitude?_eq_some_iff b _).mpr ?_, ?_⟩
    · have hpos : (0 : ℚ) ≤ (b.mant : ℚ) * 2 ^ b.exp := by positivity
      split at h
      · have hk : k ≤ 0 := by exact_mod_cast (show (k : ℚ) ≤ 0 by linarith)
        rw [Nat.cast_natAbs, Int.cast_abs, abs_of_nonpos (by exact_mod_cast hk), ← h, neg_neg]
      · have hk : 0 ≤ k := by exact_mod_cast (show (0 : ℚ) ≤ k by linarith)
        rw [Nat.cast_natAbs, Int.cast_abs, abs_of_nonneg (by exact_mod_cast hk), h]
    · have hpos : (0 : ℚ) ≤ (b.mant : ℚ) * 2 ^ b.exp := by positivity
      split at h
      · rename_i hneg
        have hk : k ≤ 0 := by exact_mod_cast (show (k : ℚ) ≤ 0 by linarith)
        rw [if_pos hneg]
        omega
      · rename_i hneg
        have hk : 0 ≤ k := by exact_mod_cast (show (0 : ℚ) ≤ k by linarith)
        rw [if_neg hneg]
        omega
  · rintro ⟨m, hm, rfl⟩
    rw [(magnitude?_eq_some_iff b m).mp hm]
    split <;> push_cast <;> rfl

end SearchDsl.Decimal.Binary

namespace SearchDsl.Loose

open Decimal

/-- A double is read as an integer exactly when its fields stand for an integer in
[-2^63, 2^63], and then as that integer, capped at the greatest 64-bit integer: only 2^63 is read
as a number it does not stand for. -/
theorem floatToI64?_eq_some_iff (f : Float) (n : Int) :
    floatToI64? f = some n ↔ ∃ b, ∃ k : Int, Binary.ofFloat? f = some b ∧ b.value = k ∧
      -2 ^ 63 ≤ k ∧ k ≤ 2 ^ 63 ∧ n = min k (2 ^ 63 - 1) := by
  rw [Binary.floatToI64?_eq]
  cases hb : Binary.ofFloat? f with
  | none => simp
  | some b =>
    simp only [Option.bind_some, Option.some.injEq, exists_and_left, exists_eq_left',
      Binary.value_eq_int_iff, Option.bind_eq_some_iff]
    have h63 : ((Nat.pow 2 63 : Nat) : Int) = 9223372036854775808 := rfl
    have h2 : (2 : Int) ^ 63 = 9223372036854775808 := by norm_num
    simp only [h63, h2]
    constructor
    · rintro ⟨m, hm, hv⟩
      refine ⟨_, ⟨m, hm, rfl⟩, ?_⟩
      generalize (if b.neg = true then -(m : Int) else m) = v at hv ⊢
      -- a value out of bounds reads as nothing, which `split_ifs` discards
      split_ifs at hv with hout
      cases hv
      exact ⟨by omega, by omega, rfl⟩
    · rintro ⟨k, ⟨m, hm, hmk⟩, hlo, hhi, rfl⟩
      refine ⟨m, hm, ?_⟩
      rw [hmk, if_neg (by omega)]

/-- Below the top, reading a double as an integer loses nothing: the integer is the number the
double stands for. -/
theorem floatToI64?_exact {f : Float} {n : Int} (h : floatToI64? f = some n) (hn : n < 2 ^ 63 - 1) :
    ∃ b, Binary.ofFloat? f = some b ∧ b.value = n := by
  obtain ⟨b, k, hb, hk, -, -, rfl⟩ := (floatToI64?_eq_some_iff f n).mp h
  refine ⟨b, hb, ?_⟩
  rw [hk, min_eq_left (by omega)]

end SearchDsl.Loose
