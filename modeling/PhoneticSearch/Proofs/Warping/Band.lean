import PhoneticSearch.Proofs.Binary64.Product
import PhoneticSearch.Proofs.Binary64.WholeNumbers

/-!
# The band of a tolerance

* `Binary.ceil_le_iff`: the ceiling is the least whole number that is not below a fraction.
* `clampTolerance_nonneg`, `ofFloat_clampTolerance_le`: a tolerance within its bounds.
* `bandWidth_mono`: a greater tolerance never allows fewer elements to be skipped.
-/

namespace PhoneticSearch

open Binary64 Float.Model

namespace Binary

theorem ceil_le_iff (b : Binary) (n : Nat) :
    b.ceil ≤ n ↔ b.mantissa * 2 ^ b.exponent.toNat ≤ n * 2 ^ (-b.exponent).toNat := by
  unfold ceil
  split_ifs with hzero hexponent
  · simp [hzero]
  · rw [show (-b.exponent).toNat = 0 by omega, pow_zero, Nat.mul_one]
    rfl
  · have hunit : 0 < 2 ^ (-b.exponent).toNat := Nat.two_pow_pos _
    rw [show b.exponent.toNat = 0 by omega, pow_zero, Nat.mul_one, ← Nat.lt_succ_iff]
    simp only [Nat.pow_eq]
    rw [Nat.div_lt_iff_lt_mul hunit, Nat.succ_mul]
    omega

theorem ofFloat?_toFloat {x : Magnitude} (h : x.code < infinity) :
    ∃ m k, Canonical m k ∧ x.code = k * 2 ^ 52 + m ∧
      ofFloat? x.toFloat = some ⟨false, m, (k : Int) - 1074⟩ := by
  obtain ⟨m, k, hcanonical, hcode⟩ := exists_canonical x.code
  refine ⟨m, k, hcanonical, hcode, ?_⟩
  have hbits : x.toFloat.toBits.toNat = k * 2 ^ 52 + m := hcode
  have hlt := hcanonical.lt
  unfold infinity at h
  have hpow : Nat.pow 2 52 = 2 ^ 52 ∧ Nat.pow 2 11 = 2 ^ 11 ∧ Nat.pow 2 63 = 2 ^ 63 :=
    ⟨rfl, rfl, rfl⟩
  have hsign : decide (2 ^ 63 ≤ k * 2 ^ 52 + m) = false := by
    rw [decide_eq_false_iff_not]
    omega
  simp only [ofFloat?, hiddenBit, hpow, hbits, hsign, minExponent]
  rcases Nat.lt_or_ge m (2 ^ 52) with hsub | hnormal
  · obtain rfl : k = 0 := hcanonical.normal.resolve_left (by omega)
    have hfield : (0 * 2 ^ 52 + m) / 2 ^ 52 % 2 ^ 11 = 0 := by omega
    have hfraction : (0 * 2 ^ 52 + m) % 2 ^ 52 = m := by omega
    rw [hfield, hfraction, if_neg (by decide), if_pos rfl]
    rfl
  · have hfield : (k * 2 ^ 52 + m) / 2 ^ 52 % 2 ^ 11 = k + 1 := by omega
    have hfraction : 2 ^ 52 + (k * 2 ^ 52 + m) % 2 ^ 52 = m := by omega
    have hexponent : (-1074 : Int) + ((k + 1 - 1 : Nat) : Int) = k - 1074 := by omega
    rw [hfield, hfraction, hexponent, if_neg (by omega), if_neg (Nat.succ_ne_zero k)]

/-- A bound on a fraction is one on its numerator over a common denominator. -/
theorem mul_pow_le_iff (m k n p : Nat) :
    m * 2 ^ ((k : Int) - p).toNat ≤ n * 2 ^ (-((k : Int) - p)).toNat ↔
      m * 2 ^ k ≤ n * 2 ^ p := by
  rcases Nat.le_total p k with hle | hle
  · obtain ⟨j, rfl⟩ := Nat.exists_eq_add_of_le hle
    have hup : (((p + j : Nat) : Int) - p).toNat = j := by omega
    have hdown : (-(((p + j : Nat) : Int) - p)).toNat = 0 := by omega
    rw [hup, hdown, pow_zero, Nat.mul_one, Nat.add_comm, pow_add, ← Nat.mul_assoc]
    exact (Nat.mul_le_mul_right_iff (Nat.two_pow_pos p)).symm
  · obtain ⟨j, rfl⟩ := Nat.exists_eq_add_of_le hle
    have hup : ((k : Int) - (k + j : Nat)).toNat = 0 := by omega
    have hdown : (-((k : Int) - (k + j : Nat))).toNat = j := by omega
    rw [hup, hdown, pow_zero, Nat.mul_one, Nat.add_comm, pow_add, ← Nat.mul_assoc]
    exact (Nat.mul_le_mul_right_iff (Nat.two_pow_pos k)).symm

/-- The ceiling of a finite number, as a bound on its value. -/
theorem exists_ceil_le_iff {x : Magnitude} (h : x.code < infinity) :
    ∃ share, ofFloat? x.toFloat = some share ∧
      ∀ n, share.ceil ≤ n ↔ value x.code ≤ n * 2 ^ 1074 := by
  obtain ⟨m, k, hcanonical, hcode, hshare⟩ := ofFloat?_toFloat h
  refine ⟨_, hshare, fun n => ?_⟩
  rw [ceil_le_iff, hcode, value_of_canonical hcanonical]
  exact mul_pow_le_iff m k n 1074

end Binary

/-- The least whole number of elements that a share is not above, within the bounds of a count;
none for what is no finite number. -/
def ceilCount (share : Float) : Nat :=
  (Binary.ofFloat? share).elim 0 fun fraction => min fraction.ceil maxCount

theorem bandWidth_eq_ceilCount (tolerance : Float) (length : Nat) :
    bandWidth tolerance length = ceilCount (clampTolerance tolerance * Float.ofNat length) := by
  rw [bandWidth, ceilCount]
  cases Binary.ofFloat? (clampTolerance tolerance * Float.ofNat length) with
  | none => rfl
  | some share => rfl

section Shares

/-- No element is skipped for a product that is zero, infinite or no number. -/
theorem ceilCount_mul_eq_zero {x y : Float} {product : UnpackedFloat}
    (hmul : UnpackedFloat.mul Format.binary64 x.toModel.unpack y.toModel.unpack = product)
    (h : (∃ sign, product = .zero sign) ∨ product = .infinity .positive ∨ product = .notANumber) :
    ceilCount (x * y) = 0 := by
  have hbits : (x * y).toBits.toNat = (UnpackedFloat.pack Format.binary64
      (UnpackedFloat.mul Format.binary64 x.toModel.unpack y.toModel.unpack)).toNat := rfl
  rw [ceilCount, Binary.ofFloat?, hbits, hmul]
  rcases h with ⟨sign, rfl⟩ | rfl | rfl
  · cases sign <;> decide
  · decide
  · decide

theorem ceilCount_zero_mul {z : Float} {sign : UnpackedFloat.Sign}
    (hz : z.toModel.unpack = .zero sign) (y : Float) : ceilCount (z * y) = 0 := by
  apply ceilCount_mul_eq_zero rfl
  rw [hz]
  cases y.toModel.unpack with
  | notANumber | infinity other => exact .inr (.inr rfl)
  | zero other | finite other m e hm => exact .inl ⟨sign * other, rfl⟩

theorem ceilCount_mul_infinity (x : Magnitude) {y : Magnitude} (hy : y.code = infinity) :
    ceilCount (x.toFloat * y.toFloat) = 0 := by
  have uy : y.toFloat.toModel.unpack = .infinity .positive := unpack_infinity hy
  apply ceilCount_mul_eq_zero rfl
  rw [uy]
  rcases x.unpack_cases with ⟨_, ux⟩ | ⟨_, ux⟩ | ⟨m, k, hm, _, _, _, ux⟩
  · rw [ux]
    exact .inr (.inl rfl)
  · rw [ux]
    exact .inr (.inr rfl)
  · rw [ux]
    exact .inr (.inl rfl)

theorem ceilCount_mono {x y : Magnitude} (hy : y.code < infinity) (h : x ≤ y) :
    ceilCount x.toFloat ≤ ceilCount y.toFloat := by
  obtain ⟨share, hshare, hceil⟩ := Binary.exists_ceil_le_iff ((Magnitude.le_iff.mp h).trans_lt hy)
  obtain ⟨share', hshare', hceil'⟩ := Binary.exists_ceil_le_iff hy
  rw [ceilCount, ceilCount, hshare, hshare']
  apply min_le_min_right
  rw [hceil]
  exact (value_mono (Magnitude.le_iff.mp h)).trans ((hceil' _).mp le_rfl)

/-- The share of a length grows with a factor of at most one. -/
theorem ceilCount_mul_mono {x x' : Magnitude} (y : Magnitude) (h : x ≤ x') (hone : x' ≤ 1) :
    ceilCount (x.toFloat * y.toFloat) ≤ ceilCount (x'.toFloat * y.toFloat) := by
  rcases y.code_le.lt_or_eq with hy | hy
  · have hlt : (x'.toFloat * y.toFloat).toBits.toNat < infinity :=
      (Magnitude.toNat_mul_le hone hy).trans_lt hy
    have hle := Magnitude.toNat_mul_mono h ((Magnitude.le_iff.mp hone).trans_lt
      Magnitude.code_one_lt) hy
    exact @ceilCount_mono ⟨_, hle.trans hlt.le⟩ ⟨_, hlt.le⟩ hlt hle
  · rw [ceilCount_mul_infinity x hy, ceilCount_mul_infinity x' hy]

end Shares

section Tolerance

open Magnitude

theorem clampTolerance_nonneg (tolerance : Float) : 0 ≤ clampTolerance tolerance := by
  unfold clampTolerance
  split_ifs with hnan hneg hone
  · decide
  · decide
  · decide
  · exact nonneg_of_not_lt (Bool.eq_false_iff.mpr hnan) hneg

theorem ofFloat_clampTolerance_le (tolerance : Float) : ofFloat (clampTolerance tolerance) ≤ 1 := by
  have hnonneg := clampTolerance_nonneg tolerance
  have hofOne : ofFloat 1 = 1 := ofFloat_toFloat 1
  rw [← hofOne]
  unfold clampTolerance at hnonneg ⊢
  split_ifs at hnonneg ⊢ with hnan hneg hone
  · decide
  · decide
  · exact le_rfl
  · rwa [← not_lt, ofFloat_lt (by decide) hnonneg]

/-- The negative zero allows as little as zero. -/
theorem bandWidth_eq_ofFloat (tolerance : Float) (length : Nat) :
    bandWidth tolerance length =
      ceilCount ((ofFloat (clampTolerance tolerance)).toFloat * Float.ofNat length) := by
  rw [bandWidth_eq_ceilCount]
  rcases unpack_ofFloat (clampTolerance_nonneg tolerance) with h | ⟨hz, h⟩
  · rw [h]
  · have hzero : (0 : Magnitude).toFloat.toModel.unpack = .zero .positive := unpack_zero code_zero
    rw [h, ceilCount_zero_mul hz, ceilCount_zero_mul hzero]

theorem bandWidth_zero (length : Nat) : bandWidth 0 length = 0 := by
  have hclamp : clampTolerance 0 = 0 := by decide
  rw [bandWidth_eq_ceilCount, hclamp]
  exact ceilCount_zero_mul (unpack_zero (by decide)) _

/-- A greater tolerance never allows fewer elements to be skipped. -/
theorem bandWidth_mono {a b : Float} (h : clampTolerance a ≤ clampTolerance b) (length : Nat) :
    bandWidth a length ≤ bandWidth b length := by
  have hle : ofFloat (clampTolerance a) ≤ ofFloat (clampTolerance b) :=
    (ofFloat_le (clampTolerance_nonneg a) (clampTolerance_nonneg b)).mpr h
  rw [bandWidth_eq_ofFloat, bandWidth_eq_ofFloat]
  exact ceilCount_mul_mono ⟨Float.ofNat length, toNat_ofNat_le length⟩ hle
    (ofFloat_clampTolerance_le b)

end Tolerance
end PhoneticSearch
