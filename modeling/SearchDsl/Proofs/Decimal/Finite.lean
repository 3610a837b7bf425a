import SearchDsl.Loose
import Mathlib
/-!
Finiteness of the doubles the decimal reader builds. A double is finite exactly when its
exponent field is not all ones; `floatOfFields` writes that field from its arguments, so a
bound on them is a bound on the result. Every integer of 64 bits rounds to a finite double,
which is what lets a re-read integer parameter pass the finiteness check of a float.
-/
set_option autoImplicit false

open Float.Model Float.Model.UnpackedFloat

namespace SearchDsl.Decimal

theorem isFinite_unpack (b : BitVec 64) :
    (UnpackedFloat.unpack Format.binary64 b).isFinite =
      (@unpackExponent Format.binary64 b != -1#11) := by
  unfold UnpackedFloat.unpack
  dsimp only
  split_ifs <;> simp_all [UnpackedFloat.isFinite]

theorem toNat_unpackExponent (x : Nat) :
    (@unpackExponent Format.binary64 (BitVec.ofNat 64 x)).toNat = x / 2 ^ 52 % 2048 := by
  simp [unpackExponent, BitVec.toNat_ofNat, Nat.shiftRight_eq_div_pow, Format.numBits]
  omega

theorem unpackExponent_pack_unpack (b : BitVec 64) :
    @unpackExponent Format.binary64
        (UnpackedFloat.pack Format.binary64 (UnpackedFloat.unpack Format.binary64 b)) = -1#11 ↔
      @unpackExponent Format.binary64 b = -1#11 := by
  unfold UnpackedFloat.unpack
  dsimp only
  split_ifs with hinf hnan hzero hsub
  · simp [UnpackedFloat.pack, packedInfinity, hinf]
  · simp [UnpackedFloat.pack, packedNaN, hinf]
  · simp [UnpackedFloat.pack, packedZero, hzero]
  · -- a subnormal keeps the exponent field zero
    have hbias : Format.binary64.exponentBias = 1023 := rfl
    unfold UnpackedFloat.pack
    simp only [hzero, hbias]
    split_ifs with h5
    · simp at h5
    · simp
    · simp
  · -- a normal number keeps its exponent field, which is not all ones
    have hbias : Format.binary64.exponentBias = 1023 := rfl
    have hbits : (2 : Nat) ^ Format.binary64.exponentBits = 2048 := rfl
    have hE : (@unpackExponent Format.binary64 b).toNat ≠ 2047 := fun h =>
      hinf (by simpa [BitVec.neg_one_eq_allOnes, BitVec.toNat_allOnes, ← BitVec.toNat_inj] using h)
    have hlt := (@unpackExponent Format.binary64 b).isLt
    unfold UnpackedFloat.pack
    simp only [hbias, hinf, iff_false, hbits]
    split_ifs
    · omega
    · intro heq
      have := congrArg BitVec.toNat heq
      simp [BitVec.neg_one_eq_allOnes] at this
      omega
    · simp

theorem isFinite_ofBits (u : UInt64) :
    (Float.ofBits u).isFinite = true ↔ @unpackExponent Format.binary64 u.toBitVec ≠ -1#11 := by
  simp only [Float.isFinite, Float.ofBits, Float.Model.isFinite, Float.Model.ofBits,
    Float.Model.pack, Float.Model.unpack, UInt64.toBitVec_ofBitVec]
  rw [isFinite_unpack, bne_iff_ne]
  exact not_congr (unpackExponent_pack_unpack u.toBitVec)

theorem isFinite_floatOfFields {neg : Bool} {biased frac : Nat}
    (h : biased + frac / 2 ^ 52 < 2047) : (floatOfFields neg biased frac).isFinite = true := by
  rw [floatOfFields, isFinite_ofBits, UInt64.toBitVec_ofNat']
  intro heq
  have := congrArg BitVec.toNat heq
  rw [toNat_unpackExponent] at this
  simp [BitVec.neg_one_eq_allOnes] at this
  cases neg <;> simp at this <;> omega

theorem roundQuotient_le (num den : Nat) (t : Int) :
    roundQuotient num den t ≤ num * Nat.pow 2 t.toNat / (den * Nat.pow 2 (-t).toNat) + 1 := by
  unfold roundQuotient
  dsimp only
  split <;> omega

theorem scaled_lt {num : Nat} {t : Int} (hnum : num < 2 ^ (num.log2 + 1))
    (ht : t ≤ 53 - num.log2) : num * Nat.pow 2 t.toNat / (1 * Nat.pow 2 (-t).toNat) < 2 ^ 54 := by
  simp only [Nat.pow_eq, Nat.one_mul]
  by_cases h : 0 ≤ t
  · have hn : (-t).toNat = 0 := by omega
    rw [hn, Nat.pow_zero, Nat.div_one]
    calc num * 2 ^ t.toNat < 2 ^ (num.log2 + 1) * 2 ^ t.toNat :=
          Nat.mul_lt_mul_of_pos_right hnum (Nat.two_pow_pos _)
      _ = 2 ^ (num.log2 + 1 + t.toNat) := (Nat.pow_add _ _ _).symm
      _ ≤ 2 ^ 54 := Nat.pow_le_pow_right (by omega) (by omega)
  · have hn : t.toNat = 0 := by omega
    rw [hn, Nat.pow_zero, Nat.mul_one, Nat.div_lt_iff_lt_mul (Nat.two_pow_pos _)]
    calc num < 2 ^ (num.log2 + 1) := hnum
      _ ≤ 2 ^ (54 + (-t).toNat) := Nat.pow_le_pow_right (by omega) (by omega)
      _ = 2 ^ 54 * 2 ^ (-t).toNat := Nat.pow_add _ _ _

/-- The nearest double of a positive integer of at most 64 bits is finite. -/
theorem nearestOfRatio_one_isFinite {neg : Bool} {num : Nat} (h0 : 0 < num) (h : num < 2 ^ 64) :
    (nearestOfRatio neg num 1).isFinite = true := by
  have hL : num.log2 < 64 := (Nat.log2_lt (Nat.pos_iff_ne_zero.mp h0)).2 h
  have hnum : num < 2 ^ (num.log2 + 1) := Nat.lt_log2_self
  have h1 : Nat.log2 1 = 0 := by decide
  have hq : ∀ t : Int, t ≤ 53 - num.log2 → roundQuotient num 1 t ≤ 2 ^ 54 := fun t ht =>
    Nat.le_of_lt_succ (Nat.lt_of_le_of_lt (roundQuotient_le num 1 t)
      (Nat.succ_lt_succ (scaled_lt hnum ht)))
  unfold nearestOfRatio
  -- the scale is `t0` or `t0 + 1`, both far from the ends of the exponent range, and the
  -- significand is bounded at either; every branch but the normal one is then impossible
  generalize ht0 : (52 : Int) - ((num.log2 : Int) - ((Nat.log2 1 : Nat) : Int)) = t0
  have hqa := hq t0 (by omega)
  have hqb := hq (t0 + 1) (by omega)
  clear hq hnum h
  simp only [Nat.pow_eq] at hqa hqb ⊢
  split_ifs <;> first
    | omega
    | exact isFinite_floatOfFields (by dsimp only; omega)

theorem decLen_le_of_lt_pow {n k : Nat} (h : n < 10 ^ (k + 1)) : decLen n ≤ k + 1 := by
  induction k generalizing n with
  | zero =>
    have hone : decLen n = 1 := by rw [decLen, if_pos (by simpa using h)]
    omega
  | succ k ih =>
    rw [decLen]
    split
    · omega
    · have : n / 10 < 10 ^ (k + 1) := by
        rw [Nat.div_lt_iff_lt_mul (by decide), ← Nat.pow_succ]
        exact h
      have := ih this
      omega

theorem toFloat_isFinite {neg : Bool} {n : Nat} (h : n < 2 ^ 64) :
    (toFloat neg n 0).isFinite = true := by
  unfold toFloat
  split
  · exact isFinite_floatOfFields (by decide)
  · rename_i h0
    have hlen : decLen n ≤ 20 := decLen_le_of_lt_pow (by omega)
    simp only [Int.zero_add]
    rw [if_neg (by omega), if_neg (by omega)]
    simpa using (nearestOfRatio_one_isFinite (Nat.pos_of_ne_zero h0) h : (nearestOfRatio neg n 1).isFinite = true)

end SearchDsl.Decimal

namespace SearchDsl.Loose

/-- An integer of 64 signed bits has a finite double. -/
theorem intToFloat_isFinite {i : Int} (h : fitsI64 i = true) : (intToFloat i).isFinite = true := by
  simp only [fitsI64, Bool.and_eq_true, decide_eq_true_eq] at h
  exact Decimal.toFloat_isFinite (by simp only [Nat.pow_eq] at h; omega)

end SearchDsl.Loose
