import PhoneticSearch.PhoneDistance
import PhoneticSearch.Proofs.Binary64.Packing

/-!
# Numbers from zero on

* `Magnitude`: the numbers from zero to infinity, without the negative zero, in the order of their
  codes.
* `Magnitude.toFloat_le`, `Magnitude.toFloat_lt`: it is the order of `Float`.
* `Magnitude.code_add`: addition rounds the sum of the values; so it keeps the order
  (`Magnitude.add_le_add_left`).
* `Magnitude.ofFloat`: the magnitude that a number from zero on counts as, in a sum
  (`Magnitude.toFloat_ofFloat_add`) and in comparisons (`Magnitude.compare_ofFloat`).
-/

namespace PhoneticSearch

open Binary64 Float.Model

structure Magnitude where
  toFloat : Float
  code_le : toFloat.toBits.toNat ≤ infinity

namespace Magnitude

def code (x : Magnitude) : Nat := x.toFloat.toBits.toNat

theorem toFloat_injective : Function.Injective toFloat := by
  rintro ⟨x, hx⟩ ⟨y, hy⟩ h
  cases h
  rfl

theorem float_ext {x y : Float} (h : x.toBits.toNat = y.toBits.toNat) : x = y :=
  Float.toBits_inj.mp (UInt64.toNat_inj.mp h)

theorem code_injective : Function.Injective code :=
  fun _ _ h => toFloat_injective (float_ext h)

instance : LinearOrder Magnitude := LinearOrder.lift' code code_injective

theorem le_iff {x y : Magnitude} : x ≤ y ↔ x.code ≤ y.code := Iff.rfl

theorem lt_iff {x y : Magnitude} : x < y ↔ x.code < y.code := Iff.rfl

theorem unpack_cases (x : Magnitude) :
    (x.code = infinity ∧ x.toFloat.toModel.unpack = .infinity .positive) ∨
    (x.code = 0 ∧ x.toFloat.toModel.unpack = .zero .positive) ∨
    ∃ (m k : Nat) (hm : 0 < m), Canonical m k ∧ x.code = k * 2 ^ 52 + m ∧ x.code < infinity ∧
      x.toFloat.toModel.unpack = .finite .positive m (k - 1074) hm := by
  rcases x.code_le.lt_or_eq with hlt | heq
  · right
    obtain ⟨m, k, h, hc⟩ := exists_canonical x.code
    rcases Nat.eq_zero_or_pos m with rfl | hm
    · have hz : x.code = 0 := by
        obtain rfl : k = 0 := h.normal.resolve_left (by omega)
        omega
      exact .inl ⟨hz, unpack_zero hz⟩
    · exact .inr ⟨m, k, hm, h, hc, hlt, unpack_finite hm h hc hlt⟩
  · exact .inl ⟨heq, unpack_infinity heq⟩

/-! ## Order -/

/-- Codes of canonical mantissas and exponents are in lexicographic order. -/
theorem compare_canonical {m k m' k' : Nat} (h : Canonical m k) (h' : Canonical m' k') :
    (compare ((k : Int) - 1074) (k' - 1074)).then (compare m m') =
      compare (k * 2 ^ 52 + m) (k' * 2 ^ 52 + m') := by
  obtain ⟨hm, hn⟩ := h
  obtain ⟨hm', hn'⟩ := h'
  rcases Nat.lt_trichotomy k k' with hk | rfl | hk
  · have hc : k * 2 ^ 52 + m < k' * 2 ^ 52 + m' := by omega
    rw [Int.compare_eq_lt.mpr (by omega), Nat.compare_eq_lt.mpr hc]
    rfl
  · rw [Int.compare_eq_eq.mpr rfl]
    change compare m m' = _
    rcases Nat.lt_trichotomy m m' with hlt | rfl | hgt
    · rw [Nat.compare_eq_lt.mpr hlt, Nat.compare_eq_lt.mpr (Nat.add_lt_add_left hlt _)]
    · rw [Nat.compare_eq_eq.mpr rfl, Nat.compare_eq_eq.mpr rfl]
    · rw [Nat.compare_eq_gt.mpr hgt, Nat.compare_eq_gt.mpr (Nat.add_lt_add_left hgt _)]
  · have hc : k' * 2 ^ 52 + m' < k * 2 ^ 52 + m := by omega
    rw [Int.compare_eq_gt.mpr (by omega), Nat.compare_eq_gt.mpr hc]
    rfl

theorem compare_unpack (x y : Magnitude) :
    x.toFloat.toModel.unpack.compare y.toFloat.toModel.unpack = some (compare x.code y.code) := by
  have hpos : 0 < infinity := by decide
  rcases x.unpack_cases with ⟨hx, ux⟩ | ⟨hx, ux⟩ | ⟨m, k, hm, h, hx, hlt, ux⟩ <;>
    rcases y.unpack_cases with ⟨hy, uy⟩ | ⟨hy, uy⟩ | ⟨m', k', hm', h', hy, hlt', uy⟩ <;>
    rw [ux, uy]
  · rw [hx, hy, Nat.compare_eq_eq.mpr rfl]; rfl
  · rw [Nat.compare_eq_gt.mpr (by omega)]; rfl
  · rw [Nat.compare_eq_gt.mpr (by omega)]; rfl
  · rw [Nat.compare_eq_lt.mpr (by omega)]; rfl
  · rw [hx, hy, Nat.compare_eq_eq.mpr rfl]; rfl
  · rw [Nat.compare_eq_lt.mpr (by omega)]; rfl
  · rw [Nat.compare_eq_lt.mpr (by omega)]; rfl
  · rw [Nat.compare_eq_gt.mpr (by omega)]; rfl
  · rw [hx, hy, ← compare_canonical h h']; rfl

theorem lt_iff_unpack (x y : Float) :
    x < y ↔ (x.toModel.unpack.compare y.toModel.unpack == some .lt) = true := by
  change decide (x.toModel < y.toModel) = true ↔ _
  rw [decide_eq_true_iff]
  exact Iff.rfl

theorem le_iff_unpack (x y : Float) : x ≤ y ↔ x.toModel.unpack.le y.toModel.unpack = true := by
  change decide (x.toModel ≤ y.toModel) = true ↔ _
  rw [decide_eq_true_iff]
  exact Iff.rfl

theorem toFloat_lt {x y : Magnitude} : x.toFloat < y.toFloat ↔ x < y := by
  rw [lt_iff_unpack, compare_unpack, lt_iff, ← Nat.compare_eq_lt]
  simp

theorem toFloat_le {x y : Magnitude} : x.toFloat ≤ y.toFloat ↔ x ≤ y := by
  rw [le_iff_unpack, UnpackedFloat.le, compare_unpack, le_iff, ← Nat.isLE_compare]
  simp

/-! ## Addition -/

theorem toNat_toBits_add (x y : Float) :
    (x + y).toBits.toNat = (UnpackedFloat.pack Format.binary64
      (UnpackedFloat.add Format.binary64 x.toModel.unpack y.toModel.unpack)).toNat := rfl

theorem decreaseExponent_eq {m k j : Nat} (h : j ≤ k) :
    (UnpackedFloat.decreaseExponent m (k - 1074) (j - 1074)).1 = m * 2 ^ (k - j) := by
  rw [UnpackedFloat.decreaseExponent, show ((k : Int) - 1074 - (j - 1074)).toNat = k - j by omega,
    Nat.shiftLeft_eq]

theorem normalize_natCast {n : Nat} (hn : 0 < n) (e : Int) (s : UnpackedFloat.Sign) :
    UnpackedFloat.normalize Format.binary64 n e s =
      UnpackedFloat.round Format.binary64 .positive n e := by
  rw [UnpackedFloat.normalize, Int.compare_eq_gt.mpr (by omega)]
  rfl

theorem toNat_pack_add_finite {m k m' k' : Nat} (hm : 0 < m) (hm' : 0 < m') :
    (UnpackedFloat.pack Format.binary64 (UnpackedFloat.add Format.binary64
      (.finite .positive m (k - 1074) hm) (.finite .positive m' (k' - 1074) hm'))).toNat =
      min infinity (round (m * 2 ^ k + m' * 2 ^ k')) := by
  have hmin : min ((k : Int) - 1074) (k' - 1074) = ((min k k' : Nat) : Int) - 1074 := by omega
  obtain ⟨n, hn⟩ : ∃ n, n = m * 2 ^ (k - min k k') + m' * 2 ^ (k' - min k k') := ⟨_, rfl⟩
  have hpos : 0 < n := by rw [hn]; positivity
  have hsum : n * 2 ^ min k k' = m * 2 ^ k + m' * 2 ^ k' := by
    rw [hn, Nat.add_mul, Nat.mul_assoc, Nat.mul_assoc, ← pow_add, ← pow_add,
      Nat.sub_add_cancel (Nat.min_le_left _ _), Nat.sub_add_cancel (Nat.min_le_right _ _)]
  have hadd : UnpackedFloat.add Format.binary64 (.finite .positive m (k - 1074) hm)
      (.finite .positive m' (k' - 1074) hm') =
      UnpackedFloat.round Format.binary64 .positive n (((min k k' : Nat) : Int) - 1074) := by
    simp only [UnpackedFloat.add, hmin, decreaseExponent_eq (Nat.min_le_left k k'),
      decreaseExponent_eq (Nat.min_le_right k k'), UnpackedFloat.Sign.apply]
    rw [← normalize_natCast hpos, hn]
    rfl
  rw [hadd, toNat_pack_round hpos, hsum]

theorem infinity_le_round (n : Nat) : infinity ≤ round (value infinity + n) := by
  calc infinity = round (value infinity) := (round_value _).symm
    _ ≤ round (value infinity + n) := round_mono (Nat.le_add_right _ _)

theorem toNat_add (x y : Magnitude) :
    (x.toFloat + y.toFloat).toBits.toNat = min infinity (round (value x.code + value y.code)) := by
  have hval0 : value 0 = 0 := rfl
  rw [toNat_toBits_add]
  rcases x.unpack_cases with ⟨hx, ux⟩ | ⟨hx, ux⟩ | ⟨m, k, hm, h, hx, hlt, ux⟩ <;>
    rcases y.unpack_cases with ⟨hy, uy⟩ | ⟨hy, uy⟩ | ⟨m', k', hm', h', hy, hlt', uy⟩ <;>
    rw [ux, uy]
  · rw [hx, min_eq_left (infinity_le_round _)]; rfl
  · rw [hx, min_eq_left (infinity_le_round _)]; rfl
  · rw [hx, min_eq_left (infinity_le_round _)]; rfl
  · rw [hy, Nat.add_comm, min_eq_left (infinity_le_round _)]; rfl
  · rw [hx, hy]; rfl
  · rw [hx, hval0, Nat.zero_add, round_value, hy]; exact toNat_pack_finite hm' h'
  · rw [hy, Nat.add_comm, min_eq_left (infinity_le_round _)]; rfl
  · rw [hy, hval0, Nat.add_zero, round_value, hx]; exact toNat_pack_finite hm h
  · rw [hx, hy, value_of_canonical h, value_of_canonical h', toNat_pack_add_finite]

instance : Add Magnitude :=
  ⟨fun x y => ⟨x.toFloat + y.toFloat, by rw [toNat_add]; exact min_le_left _ _⟩⟩

instance : Zero Magnitude := ⟨⟨0, by decide⟩⟩

@[simp] theorem toFloat_add (x y : Magnitude) : (x + y).toFloat = x.toFloat + y.toFloat := rfl

@[simp] theorem toFloat_zero : (0 : Magnitude).toFloat = 0 := rfl

theorem code_add (x y : Magnitude) :
    (x + y).code = min infinity (round (value x.code + value y.code)) := toNat_add x y

@[simp] theorem code_zero : (0 : Magnitude).code = 0 := by decide

theorem add_le_add_left {x y : Magnitude} (h : x ≤ y) (z : Magnitude) : z + x ≤ z + y := by
  rw [le_iff, code_add, code_add]
  exact min_le_min_left _ (round_mono (Nat.add_le_add_left (value_mono h) _))

theorem add_comm (x y : Magnitude) : x + y = y + x := by
  apply code_injective
  rw [code_add, code_add, Nat.add_comm]

@[simp] theorem zero_add (x : Magnitude) : 0 + x = x := by
  apply code_injective
  have hval0 : value 0 = 0 := rfl
  rw [code_add, code_zero, hval0, Nat.zero_add, round_value]
  exact min_eq_right x.code_le

theorem zero_le (x : Magnitude) : 0 ≤ x := by
  rw [le_iff, code_zero]
  exact Nat.zero_le _

theorem le_add (x y : Magnitude) : y ≤ x + y := by
  calc y = 0 + y := (zero_add y).symm
    _ = y + 0 := add_comm _ _
    _ ≤ y + x := add_le_add_left (zero_le x) y
    _ = x + y := add_comm _ _

/-! ## Numbers that count as magnitudes -/

def top : Magnitude := ⟨maxFloat, by decide⟩

/-- A number as a magnitude; the negative zero is zero, and what is no number counts as the greatest
one. -/
def ofFloat (d : Float) : Magnitude :=
  if h : d.toBits.toNat ≤ infinity then ⟨d, h⟩ else if d.isNaN then top else 0

theorem isNaN_eq_false (x : Magnitude) : x.toFloat.isNaN = false := by
  change x.toFloat.toModel.unpack.isNaN = false
  rcases x.unpack_cases with ⟨-, ux⟩ | ⟨-, ux⟩ | ⟨m, k, hm, -, -, -, ux⟩ <;> rw [ux] <;> rfl

@[simp] theorem lesser_toFloat (x y : Magnitude) :
    lesser x.toFloat y.toFloat = (min x y).toFloat := by
  simp only [lesser, isNaN_eq_false, toFloat_lt]
  rcases le_or_gt x y with h | h
  · simp [min_eq_left h, not_lt.mpr h]
  · simp [min_eq_right h.le, h]

theorem zero_le_iff {z : Float} (hz : z.toBits.toNat = 0) (d : Float) :
    z ≤ d ↔ d.toBits.toNat ≤ infinity ∨ d.toBits.toNat = 2 ^ 63 := by
  have hzero : z.toModel.unpack = .zero .positive := unpack_zero hz
  rw [le_iff_unpack, hzero]
  constructor
  · exact le_infinity_of_nonneg
  · rintro (h | h)
    · rw [← hzero, ← le_iff_unpack]
      have hz' : z.toBits.toNat ≤ infinity := hz.trans_le (Nat.zero_le _)
      have hle : (⟨z, hz'⟩ : Magnitude) ≤ ⟨d, h⟩ := le_iff.mpr (hz.trans_le (Nat.zero_le _))
      exact (@toFloat_le ⟨z, hz'⟩ ⟨d, h⟩).mpr hle
    · have hd : d.toModel.unpack = .zero .negative := unpack_negativeZero h
      rw [hd]
      rfl

theorem nonneg_iff (d : Float) : 0 ≤ d ↔ d.toBits.toNat ≤ infinity ∨ d.toBits.toNat = 2 ^ 63 :=
  zero_le_iff (by decide) d

theorem unpack_of_isNaN {d : Float} (h : d.isNaN = true) : d.toModel.unpack = .notANumber :=
  UnpackedFloat.isNaN_iff.mp h

theorem ofFloat_of_isNaN {d : Float} (h : d.isNaN = true) : ofFloat d = top := by
  rw [ofFloat, dif_neg, if_pos h]
  intro hle
  have := isNaN_eq_false ⟨d, hle⟩
  rw [h] at this
  cases this

theorem isNaN_add {d : Float} (h : d.isNaN = true) (x : Float) : (d + x).isNaN = true := by
  change (UnpackedFloat.unpack Format.binary64 (UnpackedFloat.pack Format.binary64
    (UnpackedFloat.add Format.binary64 d.toModel.unpack x.toModel.unpack))).isNaN = true
  have hadd : UnpackedFloat.add Format.binary64 .notANumber x.toModel.unpack = .notANumber := by
    cases x.toModel.unpack <;> rfl
  rw [unpack_of_isNaN h, hadd]
  decide

@[simp] theorem ofFloat_toFloat (x : Magnitude) : ofFloat x.toFloat = x := by
  rw [ofFloat, dif_pos x.code_le]

/-- A number from zero on is a magnitude, or the negative zero. -/
theorem unpack_ofFloat {d : Float} (h : 0 ≤ d) :
    (ofFloat d).toFloat = d ∨ d.toModel.unpack = .zero .negative ∧ ofFloat d = 0 := by
  rcases (nonneg_iff d).mp h with h | h
  · rw [ofFloat, dif_pos h]
    exact .inl rfl
  · have hd : d.toModel.unpack = .zero .negative := unpack_negativeZero h
    have hnan : d.isNaN = false := by
      change d.toModel.unpack.isNaN = false
      rw [hd]
      rfl
    have hz : ofFloat d = 0 := by
      rw [ofFloat, dif_neg (by rw [h]; decide), hnan]
      rfl
    exact .inr ⟨hd, hz⟩

theorem toFloat_ofFloat_add {d : Float} (h : 0 ≤ d) (x : Magnitude) :
    d + x.toFloat = (ofFloat d + x).toFloat := by
  rcases unpack_ofFloat h with hd | ⟨hd, hz⟩
  · rw [toFloat_add, hd]
  · rw [hz, zero_add]
    apply float_ext
    rw [toNat_toBits_add, hd]
    rcases x.unpack_cases with ⟨hx, ux⟩ | ⟨hx, ux⟩ | ⟨m, k, hm, hc, hx, hlt, ux⟩ <;> rw [ux]
    · exact hx.symm
    · exact hx.symm
    · change _ = x.code
      rw [hx]
      exact (toNat_pack_finite hm hc).trans (min_eq_right (by omega))

/-! ## The order of numbers that count as magnitudes -/

/-- The two zeros compare alike with every number. -/
theorem compare_negativeZero (u : UnpackedFloat) :
    UnpackedFloat.compare (.zero .negative) u = UnpackedFloat.compare (.zero .positive) u ∧
      UnpackedFloat.compare u (.zero .negative) = UnpackedFloat.compare u (.zero .positive) := by
  match u with
  | .notANumber | .zero _ | .infinity .positive | .infinity .negative => exact ⟨rfl, rfl⟩
  | .finite .positive .. | .finite .negative .. => exact ⟨rfl, rfl⟩

theorem compare_ofFloat {x y : Float} (hx : 0 ≤ x) (hy : 0 ≤ y) :
    x.toModel.unpack.compare y.toModel.unpack =
      some (compare (ofFloat x).code (ofFloat y).code) := by
  have hzero : (0 : Magnitude).toFloat.toModel.unpack = .zero .positive := unpack_zero code_zero
  rw [← compare_unpack]
  rcases unpack_ofFloat hx with h | ⟨ux, h⟩ <;> rcases unpack_ofFloat hy with h' | ⟨uy, h'⟩
  · rw [h, h']
  · rw [h, h', uy, hzero, (compare_negativeZero _).2]
  · rw [h, h', ux, hzero, (compare_negativeZero _).1]
  · rw [h, h', ux, uy, hzero]
    rfl

theorem ofFloat_le {x y : Float} (hx : 0 ≤ x) (hy : 0 ≤ y) : ofFloat x ≤ ofFloat y ↔ x ≤ y := by
  rw [le_iff_unpack, UnpackedFloat.le, compare_ofFloat hx hy, le_iff, ← Nat.isLE_compare]
  rfl

theorem ofFloat_lt {x y : Float} (hx : 0 ≤ x) (hy : 0 ≤ y) : ofFloat x < ofFloat y ↔ x < y := by
  rw [lt_iff_unpack, compare_ofFloat hx hy, lt_iff, ← Nat.compare_eq_lt]
  simp

theorem ofFloat_eq {x y : Float} (hx : 0 ≤ x) (hy : 0 ≤ y) :
    ofFloat x = ofFloat y ↔ (x == y) = true := by
  rw [← code_injective.eq_iff, ← Nat.compare_eq_eq]
  change _ ↔ (x.toModel.unpack.compare y.toModel.unpack == some .eq) = true
  rw [compare_ofFloat hx hy]
  simp

/-- What is a number and not below zero is from zero on. -/
theorem nonneg_of_not_lt {d : Float} (hnan : d.isNaN = false) (h : ¬ d < 0) : 0 ≤ d := by
  have hzero : (0 : Float).toModel.unpack = .zero .positive := unpack_zero (by decide)
  change d.toModel.unpack.isNaN = false at hnan
  rw [lt_iff_unpack, hzero] at h
  rw [le_iff_unpack, hzero]
  generalize d.toModel.unpack = u at hnan h ⊢
  match u with
  | .zero _ | .infinity .positive | .finite .positive .. => rfl
  | .notANumber => exact absurd hnan (by decide)
  | .infinity .negative => exact absurd rfl h
  | .finite .negative .. => exact absurd rfl h

end Magnitude
end PhoneticSearch
