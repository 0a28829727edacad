import PhoneticSearch.Proofs.Binary64.Magnitude

/-!
# Products of numbers from zero on

* `roundScaled`: the code of the number nearest to a value that need not be a whole number of units.
* `Magnitude.toNat_mul`: the product of two finite numbers is the exact one, rounded; so it keeps the
  order (`Magnitude.toNat_mul_mono`), and a factor of at most one makes no number greater
  (`Magnitude.toNat_mul_le`).
-/

namespace PhoneticSearch
namespace Binary64

open Float.Model Float.Model.UnpackedFloat

/-- The code of the number nearest to `n / 2 ^ b`, with codes that go on beyond that of infinity. -/
def roundScaled (b n : Nat) : Nat :=
  (max (excess n) b - b) * 2 ^ 52 + nearest n (max (excess n) b)

theorem nearest_max_le (b n : Nat) : nearest n (max (excess n) b) ≤ 2 ^ 53 := by
  calc nearest n (max (excess n) b) ≤ n / 2 ^ max (excess n) b + 1 := nearest_le _ _
    _ ≤ n / 2 ^ excess n + 1 :=
      Nat.add_le_add_right (Nat.div_le_div_left
        (Nat.pow_le_pow_right (by decide) (le_max_left _ _)) (Nat.two_pow_pos _)) 1
    _ ≤ 2 ^ 53 := div_excess_lt n

theorem le_nearest_max {b n : Nat} (h : b < excess n) : 2 ^ 52 ≤ nearest n (max (excess n) b) := by
  rw [max_eq_left h.le]
  exact le_nearest_excess (Nat.zero_lt_of_lt h)

theorem roundScaled_mono (b : Nat) {n n' : Nat} (h : n ≤ n') :
    roundScaled b n ≤ roundScaled b n' := by
  have hmax : max (excess n) b ≤ max (excess n') b := max_le_max_right b (excess_mono h)
  unfold roundScaled
  rcases hmax.lt_or_eq with hlt | heq
  · have h1 := nearest_max_le b n
    have h2 := le_nearest_max (b := b) (n := n') (by omega)
    omega
  · rw [heq]
    exact Nat.add_le_add_left (nearest_mono _ h) _

@[simp] theorem roundScaled_zero (b : Nat) : roundScaled b 0 = 0 := by
  simp [roundScaled, excess, nearest]

/-- A whole number of units is rounded as ever. -/
theorem roundScaled_mul_pow (b n : Nat) : roundScaled b (n * 2 ^ b) = round n := by
  rcases Nat.eq_zero_or_pos n with rfl | hn
  · simp [round, excess]
  · have hmax : max (excess (n * 2 ^ b)) b = excess n + b := by
      rw [excess_mul_pow hn, excess]
      omega
    rw [roundScaled, hmax, Nat.add_sub_cancel, nearest_mul_pow, round]

/-! ## Packing -/

/-- `m * 2 ^ a` in units of `2 ^ -b` of the least number above zero, with its target exponent. -/
theorem targetExponent_scaled {m : Nat} (hm : 0 < m) (a b : Nat) :
    Format.binary64.targetExponent (totalExponent m ((a : Int) - b - 1074)) =
      ((max (excess (m * 2 ^ a)) b - b : Nat) : Int) - 1074 := by
  have h : ∀ t : Int, Format.binary64.targetExponent t = max (t - 53) (-1074) := fun _ => rfl
  rw [h, totalExponent, excess_mul_pow hm]
  omega

theorem shiftToTargetExponent_scaled {m a b : Nat} (hm : 0 < m)
    (h : a ≤ max (excess (m * 2 ^ a)) b) :
    shiftToTargetExponent Format.binary64 m ((a : Int) - b - 1074) .exact =
      (ExtendedMantissa.ofMantissaAndAccuracy m .exact >>> (max (excess (m * 2 ^ a)) b - a),
        ((max (excess (m * 2 ^ a)) b - b : Nat) : Int) - 1074) := by
  have hb : b ≤ max (excess (m * 2 ^ a)) b := le_max_right _ _
  simp only [shiftToTargetExponent, shiftToExponent, targetExponent_scaled hm]
  generalize max (excess (m * 2 ^ a)) b = target at h hb ⊢
  rw [show (((target - b : Nat) : Int) - 1074 - ((a : Int) - b - 1074)).toNat = target - a by omega]
  congr 1
  omega

/-- Packing after the second shift, also of a mantissa that was rounded to zero. -/
theorem toNat_pack_rounded {q k : Nat} (hle : q ≤ 2 ^ 53) (hn : 2 ^ 52 ≤ q ∨ k = 0) :
    (UnpackedFloat.pack Format.binary64
      (if h : (shiftToTargetExponent Format.binary64 q (k - 1074) .exact).1.mantissa = 0 then
        .zero .positive
      else .finite .positive (shiftToTargetExponent Format.binary64 q (k - 1074) .exact).1.mantissa
        (shiftToTargetExponent Format.binary64 q (k - 1074) .exact).2
        (Nat.pos_of_ne_zero h))).toNat = min infinity (k * 2 ^ 52 + q) := by
  rcases Nat.eq_zero_or_pos q with rfl | hq
  · obtain rfl : k = 0 := hn.resolve_left (by decide)
    rw [dif_pos]
    · rw [toNat_pack_zero]
      exact (Nat.min_zero infinity).symm
    · simp only [shiftToTargetExponent, shiftToExponent, shiftRight_exact, Nat.zero_div]
  · exact toNat_pack_carried hq hle hn

theorem toNat_pack_roundWithAccuracy_scaled {m a b : Nat} (hm : 0 < m)
    (h : a ≤ max (excess (m * 2 ^ a)) b) :
    (UnpackedFloat.pack Format.binary64
      (roundWithAccuracy Format.binary64 .positive m ((a : Int) - b - 1074) .exact)).toNat =
      min infinity (roundScaled b (m * 2 ^ a)) := by
  have hq : nearest m (max (excess (m * 2 ^ a)) b - a) =
      nearest (m * 2 ^ a) (max (excess (m * 2 ^ a)) b) := by
    rw [← nearest_mul_pow m _ a, Nat.sub_add_cancel h]
  have hn : 2 ^ 52 ≤ nearest (m * 2 ^ a) (max (excess (m * 2 ^ a)) b) ∨
      max (excess (m * 2 ^ a)) b - b = 0 := by
    rcases Nat.lt_or_ge b (excess (m * 2 ^ a)) with hlt | hle
    · exact .inl (le_nearest_max hlt)
    · exact .inr (by rw [max_eq_right hle, Nat.sub_self])
  simp only [roundWithAccuracy, shiftToTargetExponent_scaled hm h, roundedMantissa_shiftRight, hq]
  exact toNat_pack_rounded (nearest_max_le b _) hn

end Binary64

namespace Magnitude

open Binary64 Float.Model

/-- The last place of the exact product never lies above the one that it is rounded to. -/
theorem le_max_excess_mul {m k m' k' : Nat} (hm : 0 < m) (h : Canonical m k) (hm' : 0 < m')
    (h' : Canonical m' k') : k + k' ≤ max (excess (m * m' * 2 ^ (k + k'))) 1074 := by
  have hpos : 0 < m * m' := Nat.mul_pos hm hm'
  rw [excess_mul_pow hpos]
  by_cases hsub : k = 0 ∧ k' = 0
  · omega
  · -- one of the two is normal, so the product of the mantissas has at least 53 binary places
    have hnormal : 2 ^ 52 ≤ m * m' := by
      rcases h.normal with hm52 | rfl
      · exact hm52.trans (Nat.le_mul_of_pos_right m hm')
      · exact (h'.normal.resolve_right (by omega)).trans (Nat.le_mul_of_pos_left m' hm)
    have hlog := (Nat.le_log2 hpos.ne').mpr hnormal
    omega

theorem toNat_mul {x y : Magnitude} (hx : x.code < infinity) (hy : y.code < infinity) :
    (x.toFloat * y.toFloat).toBits.toNat =
      min infinity (roundScaled 1074 (value x.code * value y.code)) := by
  have hzero : value 0 = 0 := rfl
  change (UnpackedFloat.pack Format.binary64
    (UnpackedFloat.mul Format.binary64 x.toFloat.toModel.unpack y.toFloat.toModel.unpack)).toNat = _
  rcases x.unpack_cases with ⟨hx', _⟩ | ⟨hx', ux⟩ | ⟨m, k, hm, h, hx', _, ux⟩
  · omega
  · rw [hx', hzero, Nat.zero_mul, roundScaled_zero, ux]
    rcases y.unpack_cases with ⟨hy', _⟩ | ⟨_, uy⟩ | ⟨m', k', hm', _, _, _, uy⟩
    · omega
    · rw [uy]
      rfl
    · rw [uy]
      rfl
  · rcases y.unpack_cases with ⟨hy', _⟩ | ⟨hy', uy⟩ | ⟨m', k', hm', h', hy', _, uy⟩
    · omega
    · rw [hy', hzero, Nat.mul_zero, roundScaled_zero, ux, uy]
      rfl
    · have hval : m * 2 ^ k * (m' * 2 ^ k') = m * m' * 2 ^ (k + k') := by
        rw [pow_add, Nat.mul_mul_mul_comm]
      have hexponent : (k : Int) - 1074 + ((k' : Int) - 1074) =
          ((k + k' : Nat) : Int) - (1074 : Nat) - 1074 := by omega
      rw [hx', hy', value_of_canonical h, value_of_canonical h', hval, ux, uy,
        ← toNat_pack_roundWithAccuracy_scaled (Nat.mul_pos hm hm') (le_max_excess_mul hm h hm' h'),
        ← hexponent]
      rfl

theorem toNat_mul_mono {x x' y : Magnitude} (h : x ≤ x') (hx' : x'.code < infinity)
    (hy : y.code < infinity) :
    (x.toFloat * y.toFloat).toBits.toNat ≤ (x'.toFloat * y.toFloat).toBits.toNat := by
  rw [toNat_mul ((le_iff.mp h).trans_lt hx') hy, toNat_mul hx' hy]
  exact min_le_min_left _ (roundScaled_mono _ (Nat.mul_le_mul_right _ (value_mono (le_iff.mp h))))

instance : One Magnitude := ⟨⟨1, by decide⟩⟩

theorem code_one : (1 : Magnitude).code = 1022 * 2 ^ 52 + 2 ^ 52 := by decide

theorem code_one_lt : (1 : Magnitude).code < infinity := by decide

theorem toNat_one_mul {y : Magnitude} (hy : y.code < infinity) :
    ((1 : Magnitude).toFloat * y.toFloat).toBits.toNat = y.code := by
  have hvalue : value (1022 * 2 ^ 52 + 2 ^ 52) = 2 ^ 1074 := by
    rw [value_of_canonical ⟨by decide, .inl le_rfl⟩, ← pow_add]
  rw [toNat_mul code_one_lt hy, code_one, hvalue, Nat.mul_comm, roundScaled_mul_pow, round_value]
  exact min_eq_right hy.le

/-- A factor of at most one makes a number no greater. -/
theorem toNat_mul_le {x y : Magnitude} (hx : x ≤ 1) (hy : y.code < infinity) :
    (x.toFloat * y.toFloat).toBits.toNat ≤ y.code :=
  (toNat_mul_mono hx code_one_lt hy).trans_eq (toNat_one_mul hy)

end Magnitude
end PhoneticSearch
