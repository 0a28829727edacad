import Mathlib
import PhoneticSearch.Proofs.Binary64.Rounding

/-!
# Packed and unpacked numbers

`Float` computes on unpacked numbers: a sign, a mantissa and an exponent. Here both forms are
brought down to codes.

* `unpack_infinity`, `unpack_zero`, `unpack_finite`: what a code from zero to infinity stands for.
* `le_infinity_of_nonneg`: all other bits but those of the negative zero are below zero or no number.
* `toNat_pack_round`: a rounded positive number is packed to the code that `round` gives, or to
  infinity if that is less.

The definitions of packing are those of `Float`; what Batteries proves about them comes only with the
whole of Mathlib.
-/

namespace PhoneticSearch
namespace Binary64

open Float.Model Float.Model.UnpackedFloat

def infinity : Nat := 2047 * 2 ^ 52

/-! ## The fields of a packed number -/

theorem toNat_packComponents (s : Sign) (e : BitVec 11) (m : BitVec 52) :
    (packComponents Format.binary64 s e m).toNat =
      s.toBitVec.toNat * 2 ^ 63 + e.toNat * 2 ^ 52 + m.toNat := by
  have he := e.isLt
  have hm := m.isLt
  simp only [packComponents, BitVec.toNat_append]
  rw [← Nat.shiftLeft_add_eq_or_of_lt hm, ← Nat.shiftLeft_add_eq_or_of_lt he]
  simp only [Nat.shiftLeft_eq]
  omega

theorem toNat_unpackMantissa (b : BitVec 64) :
    (@unpackMantissa Format.binary64 b).toNat = b.toNat % 2 ^ 52 := by
  simp [unpackMantissa]

theorem toNat_unpackExponent (b : BitVec 64) :
    (@unpackExponent Format.binary64 b).toNat = b.toNat / 2 ^ 52 % 2 ^ 11 := by
  simp [unpackExponent, Nat.shiftRight_eq_div_pow]

theorem toNat_unpackSign (b : BitVec 64) :
    (@unpackSign Format.binary64 b).toNat = b.toNat / 2 ^ 63 % 2 := by
  simp [unpackSign, Nat.shiftRight_eq_div_pow]

theorem unpackMantissa_eq_zero_iff (b : BitVec 64) :
    @unpackMantissa Format.binary64 b = 0#_ ↔ b.toNat % 2 ^ 52 = 0 := by
  rw [← BitVec.toNat_inj, toNat_unpackMantissa]
  rfl

theorem unpackExponent_eq_ones_iff (b : BitVec 64) :
    @unpackExponent Format.binary64 b = -1#_ ↔ b.toNat / 2 ^ 52 % 2 ^ 11 = 2047 := by
  rw [← BitVec.toNat_inj, toNat_unpackExponent]
  rfl

theorem unpackExponent_eq_zero_iff (b : BitVec 64) :
    @unpackExponent Format.binary64 b = 0#_ ↔ b.toNat / 2 ^ 52 % 2 ^ 11 = 0 := by
  rw [← BitVec.toNat_inj, toNat_unpackExponent]
  rfl

theorem unpackSign_eq_positive {b : BitVec 64} (h : b.toNat < 2 ^ 63) :
    Sign.ofBitVec (@unpackSign Format.binary64 b) = .positive := by
  have : @unpackSign Format.binary64 b = 0#1 := by
    rw [← BitVec.toNat_inj, toNat_unpackSign, Nat.div_eq_of_lt h]
    rfl
  rw [this]
  rfl

theorem unpackSign_eq_negative {b : BitVec 64} (h : 2 ^ 63 ≤ b.toNat) :
    Sign.ofBitVec (@unpackSign Format.binary64 b) = .negative := by
  have hb : b.toNat < 2 ^ 64 := b.isLt
  have : @unpackSign Format.binary64 b = 1#1 := by
    rw [← BitVec.toNat_inj, toNat_unpackSign, show b.toNat / 2 ^ 63 = 1 by omega]
    rfl
  rw [this]
  rfl

/-! ## Unpacking -/

theorem unpack_infinity {b : BitVec 64} (h : b.toNat = infinity) :
    UnpackedFloat.unpack Format.binary64 b = .infinity .positive := by
  unfold infinity at h
  have he := (unpackExponent_eq_ones_iff b).mpr (by omega)
  have hm := (unpackMantissa_eq_zero_iff b).mpr (by omega)
  have hs := unpackSign_eq_positive (b := b) (by omega)
  simp [UnpackedFloat.unpack, he, hm, hs]

theorem unpack_zero {b : BitVec 64} (h : b.toNat = 0) :
    UnpackedFloat.unpack Format.binary64 b = .zero .positive := by
  have he := (unpackExponent_eq_zero_iff b).mpr (by omega)
  have hm := (unpackMantissa_eq_zero_iff b).mpr (by omega)
  have hs := unpackSign_eq_positive (b := b) (by omega)
  simp [UnpackedFloat.unpack, he, hm, hs]

theorem unpack_finite {b : BitVec 64} {m k : Nat} (hm : 0 < m) (h : Canonical m k)
    (hb : b.toNat = k * 2 ^ 52 + m) (hlt : b.toNat < infinity) :
    UnpackedFloat.unpack Format.binary64 b = .finite .positive m (k - 1074) hm := by
  obtain ⟨hm53, hn⟩ := h
  unfold infinity at hlt
  have he := mt (unpackExponent_eq_ones_iff b).mp (by omega)
  have hs := unpackSign_eq_positive (b := b) (by omega)
  have hbias : ((Format.binary64.exponentBias : Nat) : Int) +
      Format.binary64.mantissaBitsWithoutImplicit = 1075 := rfl
  rcases Nat.lt_or_ge m (2 ^ 52) with hsub | hnorm
  · obtain rfl : k = 0 := hn.resolve_left (by omega)
    have hz := (unpackExponent_eq_zero_iff b).mpr (by omega)
    have hm0 := mt (unpackMantissa_eq_zero_iff b).mp (by omega)
    have hmant : b.toNat % 2 ^ 52 = m := by omega
    simp only [UnpackedFloat.unpack, hz, hm0, hs, toNat_unpackMantissa, hmant, hbias]
    simp
  · have hz := mt (unpackExponent_eq_zero_iff b).mp (by omega)
    have hmant : (1#1 ++ @unpackMantissa Format.binary64 b).toNat = m := by
      rw [BitVec.toNat_append, ← Nat.shiftLeft_add_eq_or_of_lt (BitVec.isLt _),
        toNat_unpackMantissa, Nat.shiftLeft_eq]
      simp only [BitVec.toNat_ofNat]
      omega
    simp only [UnpackedFloat.unpack, he, hz, hs, hmant, toNat_unpackExponent, hbias]
    simp
    omega

theorem unpack_negativeZero {b : BitVec 64} (h : b.toNat = 2 ^ 63) :
    UnpackedFloat.unpack Format.binary64 b = .zero .negative := by
  have he := (unpackExponent_eq_zero_iff b).mpr (by omega)
  have hm := (unpackMantissa_eq_zero_iff b).mpr (by omega)
  have hs := unpackSign_eq_negative (b := b) (by omega)
  simp [UnpackedFloat.unpack, he, hm, hs]

theorem le_infinity_of_nonneg {b : BitVec 64}
    (h : (UnpackedFloat.zero .positive).le (UnpackedFloat.unpack Format.binary64 b) = true) :
    b.toNat ≤ infinity ∨ b.toNat = 2 ^ 63 := by
  have he1 := unpackExponent_eq_ones_iff b
  have he0 := unpackExponent_eq_zero_iff b
  have hm0 := unpackMantissa_eq_zero_iff b
  have hb : b.toNat < 2 ^ 64 := b.isLt
  by_contra hc
  unfold infinity at hc
  rcases Nat.lt_or_ge b.toNat (2 ^ 63) with hpos | hneg
  · -- beyond the code of infinity only codes of no number are left
    have he := he1.mpr (by omega)
    have hm := mt hm0.mp (by omega)
    simp [UnpackedFloat.unpack, UnpackedFloat.le, UnpackedFloat.compare, he, hm] at h
  · have hs := unpackSign_eq_negative hneg
    have hzero : ¬ (@unpackExponent Format.binary64 b = 0#_ ∧
        @unpackMantissa Format.binary64 b = 0#_) := by
      rw [he0, hm0]
      omega
    simp only [UnpackedFloat.unpack, hs] at h
    split_ifs at h with h1 h2 h3 h4
    · simp [UnpackedFloat.le, UnpackedFloat.compare] at h
    · simp [UnpackedFloat.le, UnpackedFloat.compare] at h
    · exact hzero ⟨h3, h4⟩
    · simp [UnpackedFloat.le, UnpackedFloat.compare] at h
    · simp [UnpackedFloat.le, UnpackedFloat.compare] at h

/-! ## Packing -/

theorem toNat_pack_infinity :
    (UnpackedFloat.pack Format.binary64 (.infinity .positive)).toNat = infinity := rfl

theorem toNat_pack_zero :
    (UnpackedFloat.pack Format.binary64 (.zero .positive)).toNat = 0 := rfl

theorem toNat_pack_finite {m k : Nat} (hm : 0 < m) (h : Canonical m k) :
    (UnpackedFloat.pack Format.binary64 (.finite .positive m (k - 1074) hm)).toNat =
      min infinity (k * 2 ^ 52 + m) := by
  have hlog : m.log2 < 53 := h.log2_lt hm
  have hbias : ((k : Int) - 1074 + (Format.binary64.exponentBias : Nat) +
      (Format.binary64.mantissaBitsWithoutImplicit : Nat)).toNat = k + 1 := by
    simp [Format.exponentBias]
    omega
  have hbits : Format.binary64.mantissaBits = 53 := rfl
  obtain ⟨hlt, hn⟩ := h
  simp only [UnpackedFloat.pack, hbias, hbits]
  split_ifs with hinf hnorm
  · rw [packedInfinity, toNat_packComponents]
    simp [infinity, Sign.toBitVec]
    omega
  · have := (Nat.le_log2 hm.ne').mp (by omega : 52 ≤ m.log2)
    rw [toNat_packComponents]
    simp [infinity, Sign.toBitVec]
    omega
  · have := (Nat.log2_lt hm.ne').mp (by omega : m.log2 < 52)
    rw [toNat_packComponents]
    simp [infinity, Sign.toBitVec]
    omega

theorem toNat_pack_le {m : Nat} {e : Int} (hm : 0 < m) :
    (UnpackedFloat.pack Format.binary64 (.finite .positive m e hm)).toNat ≤ infinity := by
  simp only [UnpackedFloat.pack]
  split_ifs with hinf hnorm
  · exact toNat_pack_infinity.le
  · rw [toNat_packComponents]
    simp [infinity, Sign.toBitVec] at hinf ⊢
    omega
  · rw [toNat_packComponents]
    simp [infinity, Sign.toBitVec]
    omega

/-! ## Rounding -/

theorem targetExponent_totalExponent {m : Nat} (hm : 0 < m) (k : Nat) :
    Format.binary64.targetExponent (totalExponent m (k - 1074)) =
      ((excess (m * 2 ^ k) : Nat) : Int) - 1074 := by
  have h : ∀ t : Int, Format.binary64.targetExponent t = max (t - 53) (-1074) := fun _ => rfl
  rw [h, totalExponent, excess_mul_pow hm]
  omega

/-- Shifting right leaves the quotient, and two bits that say how the rest compares with a
half. -/
theorem shiftRight_exact (m s : Nat) :
    ExtendedMantissa.ofMantissaAndAccuracy m .exact >>> s =
      ⟨m / 2 ^ s, decide (2 ^ s ≤ 2 * (m % 2 ^ s)),
        decide (m % 2 ^ s ≠ 0 ∧ 2 * (m % 2 ^ s) ≠ 2 ^ s)⟩ := by
  change s.repeat ExtendedMantissa.shiftRightOne _ = _
  induction s with
  | zero => simp [Nat.repeat, ExtendedMantissa.ofMantissaAndAccuracy, Nat.mod_one]
  | succ s ih =>
    have hdiv : m / 2 ^ (s + 1) = m / 2 ^ s / 2 := by
      rw [pow_succ, Nat.div_div_eq_div_mul]
    have hmod : m % 2 ^ (s + 1) = m % 2 ^ s + 2 ^ s * (m / 2 ^ s % 2) := by
      rw [pow_succ, Nat.mod_mul]
    have hlt : m % 2 ^ s < 2 ^ s := Nat.mod_lt _ (by positivity)
    have hpow : 2 ^ (s + 1) = 2 * 2 ^ s := by rw [pow_succ, Nat.mul_comm]
    rw [Nat.repeat, ih, ExtendedMantissa.shiftRightOne, hdiv, hmod, hpow]
    rcases Nat.mod_two_eq_zero_or_one (m / 2 ^ s) with hb | hb <;> rw [hb] <;> simp <;> grind

theorem roundedMantissa_shiftRight (m s : Nat) :
    (ExtendedMantissa.ofMantissaAndAccuracy m .exact >>> s).roundedMantissa = nearest m s := by
  rw [shiftRight_exact]
  have hpos : 0 < 2 ^ s := by positivity
  unfold nearest ExtendedMantissa.roundedMantissa ExtendedMantissa.accuracy
    Accuracy.roundToNearestEven
  by_cases hle : 2 ^ s ≤ 2 * (m % 2 ^ s) <;>
    by_cases heq : 2 * (m % 2 ^ s) = 2 ^ s <;>
    by_cases hz : m % 2 ^ s = 0 <;> simp [*]

/-- A mantissa shifted right by `n` places to the exponent that its value asks for. -/
theorem shiftToTargetExponent_eq {m k n : Nat} (hm : 0 < m) (h : excess (m * 2 ^ k) = k + n) :
    shiftToTargetExponent Format.binary64 m (k - 1074) .exact =
      (ExtendedMantissa.ofMantissaAndAccuracy m .exact >>> n, ((k + n : Nat) : Int) - 1074) := by
  simp only [shiftToTargetExponent, shiftToExponent, targetExponent_totalExponent hm, h]
  rw [show (((k + n : Nat) : Int) - 1074 - (k - 1074)).toNat = n by omega]
  congr 1
  omega

/-- Packing after the second shift, which takes up a carry of the rounded mantissa `q`. -/
theorem toNat_pack_carried {q k : Nat} (hq : 0 < q) (hle : q ≤ 2 ^ 53)
    (hn : 2 ^ 52 ≤ q ∨ k = 0) :
    (UnpackedFloat.pack Format.binary64
      (if h : (shiftToTargetExponent Format.binary64 q (k - 1074) .exact).1.mantissa = 0 then
        .zero .positive
      else .finite .positive (shiftToTargetExponent Format.binary64 q (k - 1074) .exact).1.mantissa
        (shiftToTargetExponent Format.binary64 q (k - 1074) .exact).2
        (Nat.pos_of_ne_zero h))).toNat = min infinity (k * 2 ^ 52 + q) := by
  rcases hle.lt_or_eq with hlt | rfl
  · have hk : excess (q * 2 ^ k) = k + 0 := Canonical.excess_eq ⟨hlt, hn⟩ hq
    simp only [shiftToTargetExponent_eq hq hk, shiftRight_exact, pow_zero, Nat.div_one]
    rw [dif_neg hq.ne']
    exact toNat_pack_finite hq ⟨hlt, hn⟩
  · have hk : excess (2 ^ 53 * 2 ^ k) = k + 1 := by
      rw [excess_mul_pow hq, Nat.log2_two_pow]
      omega
    simp only [shiftToTargetExponent_eq hq hk, shiftRight_exact]
    rw [dif_neg (by decide), toNat_pack_finite (by decide) ⟨by decide, .inl (by decide)⟩,
      show (k + 1) * 2 ^ 52 + 2 ^ 53 / 2 ^ 1 = k * 2 ^ 52 + 2 ^ 53 by omega]

theorem toNat_pack_roundWithAccuracy {m k n : Nat} (hm : 0 < m)
    (h : excess (m * 2 ^ k) = k + n) :
    (UnpackedFloat.pack Format.binary64
      (roundWithAccuracy Format.binary64 .positive m (k - 1074) .exact)).toNat =
      min infinity (round (m * 2 ^ k)) := by
  have hq : nearest (m * 2 ^ k) (excess (m * 2 ^ k)) = nearest m n := by
    rw [h, Nat.add_comm, nearest_mul_pow]
  have hle : nearest m n ≤ 2 ^ 53 := hq ▸ nearest_excess_le _
  have hn : 2 ^ 52 ≤ nearest m n ∨ k + n = 0 := by
    rcases Nat.eq_zero_or_pos (k + n) with hz | hp
    · exact .inr hz
    · exact .inl (hq ▸ le_nearest_excess (h ▸ hp))
  have hpos : 0 < nearest m n := by
    rcases hn with hn | hz
    · omega
    · obtain rfl : n = 0 := by omega
      rwa [nearest_zero]
  simp only [roundWithAccuracy, shiftToTargetExponent_eq hm h, roundedMantissa_shiftRight]
  rw [toNat_pack_carried hpos hle hn, round, hq, h]

theorem toNat_pack_round {m : Nat} (hm : 0 < m) (k : Nat) :
    (UnpackedFloat.pack Format.binary64
      (UnpackedFloat.round Format.binary64 .positive m (k - 1074))).toNat =
      min infinity (round (m * 2 ^ k)) := by
  obtain ⟨s, hs⟩ : ∃ s, s = excess (m * 2 ^ k) := ⟨_, rfl⟩
  -- A mantissa of fewer than 53 places is widened first; the value stays.
  have hdec : decreaseExponent m (k - 1074) (s - 1074) =
      (m * 2 ^ (k - s), ((min k s : Nat) : Int) - 1074) := by
    rw [decreaseExponent, show ((k : Int) - 1074 - (s - 1074)).toNat = k - s by omega,
      Nat.shiftLeft_eq]
    congr 1
    omega
  have hval : m * 2 ^ (k - s) * 2 ^ min k s = m * 2 ^ k := by
    rw [Nat.mul_assoc, ← pow_add]
    congr 2
    omega
  have hex : excess (m * 2 ^ (k - s) * 2 ^ min k s) = min k s + (s - k) := by
    rw [hval, ← hs]
    omega
  simp only [UnpackedFloat.round, targetExponent_totalExponent hm, ← hs, hdec]
  rw [toNat_pack_roundWithAccuracy (by positivity) hex, hval]

end Binary64
end PhoneticSearch
