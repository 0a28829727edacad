import PhoneticSearch.Proofs.Binary64.Negation
import PhoneticSearch.Proofs.Binary64.Product
import PhoneticSearch.Proofs.Binary64.WholeNumbers

/-!
# Squares of differences

* `Magnitude.exists_toFloat_eq_sub`: a difference above zero is the exact one, rounded.
* `isFinite_square_sub_max`, `isFinite_square_min_sub`: a number that differs from the greatest or
  the least one differs so much that the square is not finite.
* `Unsigned`: a magnitude or no number, as squares and their sums are. Such a sum is finite only if
  all its terms are.
-/

namespace PhoneticSearch
namespace Binary64

theorem value_lt {a b : Nat} (h : a < b) : value a < value b := by
  apply Nat.lt_of_not_le
  intro hle
  have hround := round_mono hle
  rw [round_value, round_value] at hround
  omega

end Binary64

namespace Magnitude

open Binary64 Float.Model

theorem toNat_pack_sub_finite {m k m' k' : Nat} (hm : 0 < m) (hm' : 0 < m')
    (h : m' * 2 ^ k' < m * 2 ^ k) :
    (UnpackedFloat.pack Format.binary64 (UnpackedFloat.sub Format.binary64
      (.finite .positive m (k - 1074) hm) (.finite .positive m' (k' - 1074) hm'))).toNat =
      min infinity (round (m * 2 ^ k - m' * 2 ^ k')) := by
  have hmin : min ((k : Int) - 1074) (k' - 1074) = ((min k k' : Nat) : Int) - 1074 := by omega
  have hscale : m * 2 ^ (k - min k k') * 2 ^ min k k' = m * 2 ^ k := by
    rw [Nat.mul_assoc, ← pow_add, Nat.sub_add_cancel (Nat.min_le_left _ _)]
  have hscale' : m' * 2 ^ (k' - min k k') * 2 ^ min k k' = m' * 2 ^ k' := by
    rw [Nat.mul_assoc, ← pow_add, Nat.sub_add_cancel (Nat.min_le_right _ _)]
  have hlt : m' * 2 ^ (k' - min k k') < m * 2 ^ (k - min k k') := by
    rw [← hscale, ← hscale'] at h
    exact Nat.lt_of_mul_lt_mul_right h
  obtain ⟨n, hn⟩ : ∃ n, n = m * 2 ^ (k - min k k') - m' * 2 ^ (k' - min k k') := ⟨_, rfl⟩
  have hpos : 0 < n := by omega
  have hdifference : n * 2 ^ min k k' = m * 2 ^ k - m' * 2 ^ k' := by
    rw [hn, Nat.sub_mul, hscale, hscale']
  have hsub : UnpackedFloat.sub Format.binary64 (.finite .positive m (k - 1074) hm)
      (.finite .positive m' (k' - 1074) hm') =
      UnpackedFloat.round Format.binary64 .positive n (((min k k' : Nat) : Int) - 1074) := by
    simp only [UnpackedFloat.sub, hmin, decreaseExponent_eq (Nat.min_le_left k k'),
      decreaseExponent_eq (Nat.min_le_right k k'), UnpackedFloat.Sign.apply]
    rw [← normalize_natCast hpos, hn, Int.ofNat_sub hlt.le]
  rw [hsub, toNat_pack_round hpos, hdifference]

/-- A difference above zero is the exact one, rounded. -/
theorem exists_toFloat_eq_sub {x y : Magnitude} (h : y < x) (hx : x.code < infinity) :
    ∃ d : Magnitude, d.toFloat = x.toFloat - y.toFloat ∧
      d.code = Binary64.round (value x.code - value y.code) := by
  have hval0 : value 0 = 0 := rfl
  have hlt : y.code < x.code := lt_iff.mp h
  have hround : Binary64.round (value x.code - value y.code) < infinity := by
    calc Binary64.round (value x.code - value y.code)
        ≤ Binary64.round (value x.code) := round_mono (Nat.sub_le _ _)
      _ = x.code := round_value _
      _ < infinity := hx
  have hcode : (x.toFloat - y.toFloat).toBits.toNat =
      min infinity (Binary64.round (value x.code - value y.code)) := by
    change (UnpackedFloat.pack Format.binary64 (UnpackedFloat.sub Format.binary64
      x.toFloat.toModel.unpack y.toFloat.toModel.unpack)).toNat = _
    rcases x.unpack_cases with ⟨hx', -⟩ | ⟨hx', -⟩ | ⟨m, k, hm, hcan, hx', -, ux⟩
    · omega
    · omega
    · rcases y.unpack_cases with ⟨hy', -⟩ | ⟨hy', uy⟩ | ⟨m', k', hm', hcan', hy', -, uy⟩
      · omega
      · rw [ux, uy, hy', hval0, Nat.sub_zero, round_value, hx']
        exact toNat_pack_finite hm hcan
      · have hvalue := value_lt hlt
        rw [hx', hy', value_of_canonical hcan, value_of_canonical hcan'] at hvalue ⊢
        rw [ux, uy, toNat_pack_sub_finite hm hm' hvalue]
  rw [Nat.min_eq_right hround.le] at hcode
  exact ⟨⟨x.toFloat - y.toFloat, hcode.trans_le hround.le⟩, rfl, hcode⟩

/-! ## Squares -/

theorem infinity_le_round_pow : infinity ≤ Binary64.round (2 ^ 3016) := by
  have hexcess : excess (2 ^ 3016) = 2964 := by
    have h := excess_mul_pow (m := 1) (by decide) 3016
    rwa [Nat.one_mul] at h
  unfold Binary64.round infinity
  omega

theorem eq_infinity {x : Magnitude} (h : ¬ x.code < infinity) :
    x.toFloat = Float.ofBits 0x7FF0000000000000 := by
  apply float_ext
  have hle := x.code_le
  have hcode : x.code = infinity := by
    change x.code ≤ infinity at hle
    omega
  exact hcode.trans (by decide)

theorem toNat_mul_self_le (x : Magnitude) : (x.toFloat * x.toFloat).toBits.toNat ≤ infinity := by
  by_cases hx : x.code < infinity
  · rw [toNat_mul hx hx]
    exact min_le_left _ _
  · rw [eq_infinity hx]
    decide

/-- The square of a number from `2 ^ 971` on. -/
theorem isFinite_mul_self {x : Magnitude} (h : 2 ^ 2045 ≤ value x.code) :
    (x.toFloat * x.toFloat).isFinite = false := by
  obtain ⟨y, hy⟩ : ∃ y : Magnitude, y.toFloat = x.toFloat * x.toFloat :=
    ⟨⟨_, x.toNat_mul_self_le⟩, rfl⟩
  rw [← hy, ← Bool.not_eq_true, isFinite_iff_code_lt, Nat.not_lt]
  change infinity ≤ y.toFloat.toBits.toNat
  rw [hy]
  by_cases hx : x.code < infinity
  · have hsquare : 2 ^ 3016 * 2 ^ 1074 ≤ value x.code * value x.code := by
      calc 2 ^ 3016 * 2 ^ 1074 = 2 ^ 2045 * 2 ^ 2045 := by rw [← pow_add, ← pow_add]
        _ ≤ value x.code * value x.code := Nat.mul_le_mul h h
    rw [toNat_mul hx hx]
    refine le_min le_rfl ?_
    calc infinity ≤ Binary64.round (2 ^ 3016) := infinity_le_round_pow
      _ = roundScaled 1074 (2 ^ 3016 * 2 ^ 1074) := (roundScaled_mul_pow _ _).symm
      _ ≤ roundScaled 1074 (value x.code * value x.code) := roundScaled_mono _ hsquare
  · rw [eq_infinity hx]
    decide

theorem toFloat_top : top.toFloat = maxFloat := rfl

theorem code_top : top.code = 2045 * 2 ^ 52 + (2 ^ 53 - 1) := by decide

theorem code_top_lt : top.code < infinity := by decide

theorem isFinite_iff_le_top {x : Magnitude} : x.toFloat.isFinite = true ↔ x ≤ top := by
  rw [isFinite_iff_code_lt, le_iff, code_top]
  unfold infinity
  omega

theorem value_code_top : value top.code = (2 ^ 53 - 1) * 2 ^ 2045 := by
  rw [code_top, value_of_canonical ⟨by decide, .inl (by decide)⟩]

/-- Below the greatest number the next one is `2 ^ 971` away. -/
theorem le_value_top_sub {x : Magnitude} (h : x < top) :
    2 ^ 2045 ≤ value top.code - value x.code := by
  have hvalue : value x.code ≤ (2 ^ 53 - 2) * 2 ^ 2045 := by
    rw [← value_of_canonical (m := 2 ^ 53 - 2) (k := 2045) ⟨by decide, .inl (by decide)⟩]
    apply value_mono
    rw [lt_iff, code_top] at h
    omega
  rw [value_code_top]
  omega

theorem isFinite_square_top_sub {x : Magnitude} (h : x ≠ top) :
    ((maxFloat - x.toFloat) * (maxFloat - x.toFloat)).isFinite = false := by
  rcases lt_or_gt_of_ne h with hlt | hgt
  · obtain ⟨d, hd, hcode⟩ := exists_toFloat_eq_sub hlt code_top_lt
    have hroot : value (1993 * 2 ^ 52 + 2 ^ 52) = 2 ^ 2045 := by
      rw [value_of_canonical ⟨by decide, .inl le_rfl⟩, ← pow_add]
    change d.toFloat = maxFloat - x.toFloat at hd
    rw [← hd]
    apply isFinite_mul_self
    rw [← hroot]
    apply value_mono
    rw [hcode, ← round_value (1993 * 2 ^ 52 + 2 ^ 52), hroot]
    exact round_mono (le_value_top_sub hlt)
  · have hinfinite : ¬ x.code < infinity := by
      rw [lt_iff, code_top] at hgt
      unfold infinity
      omega
    rw [eq_infinity hinfinite]
    decide

theorem isFinite_square_top_add (x : Magnitude) :
    ((maxFloat + x.toFloat) * (maxFloat + x.toFloat)).isFinite = false := by
  obtain ⟨sum, hsum⟩ : ∃ sum, sum = top + x := ⟨_, rfl⟩
  have hfloat : sum.toFloat = maxFloat + x.toFloat := by rw [hsum, toFloat_add, toFloat_top]
  have htop : top ≤ sum := by
    rw [hsum, add_comm]
    exact le_add x top
  have hle : 2 ^ 2045 ≤ value top.code := by
    rw [value_code_top]
    omega
  rw [← hfloat]
  exact isFinite_mul_self (hle.trans (value_mono (le_iff.mp htop)))

/-- A sum of magnitudes is finite only if both are. -/
theorem isFinite_add {x y : Magnitude}
    (h : x.toFloat.isFinite = false ∨ y.toFloat.isFinite = false) :
    (x + y).toFloat.isFinite = false := by
  have hx : x ≤ x + y := by
    rw [add_comm]
    exact le_add y x
  have hy : y ≤ x + y := le_add x y
  simp only [← Bool.not_eq_true, isFinite_iff_code_lt, Nat.not_lt] at h ⊢
  rcases h with h | h
  · exact h.trans (le_iff.mp hx)
  · exact h.trans (le_iff.mp hy)

end Magnitude

namespace Binary64

open Magnitude Float.Model

theorem eq_nan {x : Float} (h : x.isNaN = true) : x = Float.nan := by
  rwa [Float.isNaN_eq_decide_eq_nan, decide_eq_true_eq] at h

/-- A number other than the greatest one is so far from it that the square is not finite. -/
theorem isFinite_square_sub_max {x : Float} (h : x ≠ maxFloat) :
    ((x - maxFloat) * (x - maxFloat)).isFinite = false := by
  cases hnan : x.isNaN with
  | true =>
    rw [eq_nan hnan]
    decide
  | false =>
    rw [mul_self_sub_comm]
    obtain ⟨z, rfl | rfl⟩ := exists_magnitude hnan
    · apply isFinite_square_top_sub
      rintro rfl
      exact h rfl
    · rw [sub_neg]
      exact isFinite_square_top_add z

theorem isFinite_square_min_sub {y : Float} (h : y ≠ -maxFloat) :
    ((-maxFloat - y) * (-maxFloat - y)).isFinite = false := by
  have hswap : -maxFloat - y = -y - maxFloat := by
    rw [← neg_sub_neg, neg_neg]
  rw [hswap]
  apply isFinite_square_sub_max
  intro heq
  exact h (by rw [← heq, neg_neg])

/-! ## Sums of squares -/

/-- A magnitude, or no number. -/
def Unsigned (x : Float) : Prop := x.isNaN = true ∨ ∃ z : Magnitude, x = z.toFloat

theorem unsigned_mul_self (x : Float) : Unsigned (x * x) := by
  cases hnan : x.isNaN with
  | true =>
    rw [eq_nan hnan]
    exact .inl (by decide)
  | false =>
    obtain ⟨z, rfl | rfl⟩ := exists_magnitude hnan
    · exact .inr ⟨⟨_, z.toNat_mul_self_le⟩, rfl⟩
    · rw [neg_mul_neg]
      exact .inr ⟨⟨_, z.toNat_mul_self_le⟩, rfl⟩

variable {x y : Float}

theorem isNaN_add_right (x : Float) (h : y.isNaN = true) : (x + y).isNaN = true := by
  change (UnpackedFloat.unpack Format.binary64 (UnpackedFloat.pack Format.binary64
    (UnpackedFloat.add Format.binary64 x.toModel.unpack y.toModel.unpack))).isNaN = true
  have hadd : UnpackedFloat.add Format.binary64 x.toModel.unpack .notANumber = .notANumber := by
    cases x.toModel.unpack <;> rfl
  rw [unpack_of_isNaN h, hadd]
  decide

theorem isFinite_of_isNaN (h : x.isNaN = true) : x.isFinite = false := by
  rw [eq_nan h]
  decide

namespace Unsigned

theorem add (hx : Unsigned x) (hy : Unsigned y) : Unsigned (x + y) := by
  rcases hx with hnan | ⟨z, rfl⟩
  · exact .inl (isNaN_add hnan y)
  · rcases hy with hnan | ⟨z', rfl⟩
    · exact .inl (isNaN_add_right _ hnan)
    · exact .inr ⟨z + z', rfl⟩

theorem isFinite_add (hx : Unsigned x) (hy : Unsigned y)
    (h : x.isFinite = false ∨ y.isFinite = false) : (x + y).isFinite = false := by
  rcases hx with hnan | ⟨z, rfl⟩
  · exact isFinite_of_isNaN (isNaN_add hnan y)
  · rcases hy with hnan | ⟨z', rfl⟩
    · exact isFinite_of_isNaN (isNaN_add_right _ hnan)
    · exact Magnitude.isFinite_add h

theorem add_zero (hx : Unsigned x) : x + 0 = x := by
  rcases hx with hnan | ⟨z, rfl⟩
  · rw [eq_nan (isNaN_add hnan 0), eq_nan hnan]
  · rw [← toFloat_zero, ← toFloat_add, Magnitude.add_comm, Magnitude.zero_add]

theorem isFinite_sqrt (hx : Unsigned x) (h : x.isFinite = false) : x.sqrt.isFinite = false := by
  rcases hx with hnan | ⟨z, rfl⟩
  · rw [eq_nan hnan]
    decide
  · rw [← Bool.not_eq_true, isFinite_iff_code_lt] at h
    rw [eq_infinity h]
    decide

end Unsigned

end Binary64
end PhoneticSearch
