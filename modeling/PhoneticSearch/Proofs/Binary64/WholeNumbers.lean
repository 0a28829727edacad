import PhoneticSearch.Proofs.Binary64.Magnitude

/-!
# Whole numbers

* `toNat_ofNat`: a whole number of at most 64 bits as a `Float` is the number nearest to it.
* `isFinite_ofInt`: with a sign it is a finite number.
-/

namespace PhoneticSearch
namespace Binary64

open Float.Model

/-- A whole number in units of the least number above zero. -/
def units (n : Nat) : Nat := n * 2 ^ 1074

theorem round_units_lt {n : Nat} (h : n < 2 ^ 64) : round (units n) < infinity := by
  have hcan : Canonical (2 ^ 52) 1086 := ⟨by decide, .inl le_rfl⟩
  have hvalue : units (2 ^ 64) = value (1086 * 2 ^ 52 + 2 ^ 52) := by
    rw [value_of_canonical hcan, units, ← pow_add, ← pow_add]
  calc round (units n) ≤ round (units (2 ^ 64)) := round_mono (Nat.mul_le_mul_right _ h.le)
    _ = 1086 * 2 ^ 52 + 2 ^ 52 := by rw [hvalue, round_value]
    _ < infinity := by decide

theorem le_round_units {n : Nat} (hn : 0 < n) : 53 * 2 ^ 52 ≤ round (units n) := by
  have h : excess (units n) = n.log2 + 1074 - 52 := excess_mul_pow hn 1074
  unfold round
  omega

/-! ## Conversion -/

theorem toNat_toFloat {n : Nat} (hn : 0 < n) (h : n < 2 ^ 64) :
    n.toUInt64.toFloat.toBits.toNat = min infinity (round (units n)) := by
  change (UnpackedFloat.pack Format.binary64
    (UnpackedFloat.normalize Format.binary64 (n.toUInt64.toNat : Nat) 0 .positive)).toNat = _
  have hnat : n.toUInt64.toNat = n := Nat.mod_eq_of_lt h
  rw [hnat, Magnitude.normalize_natCast hn]
  exact toNat_pack_round hn 1074

theorem toNat_ofScientific {n : Nat} (hn : 0 < n) :
    (Float.ofModel (Float.Model.ofScientific n 0)).toBits.toNat =
      min infinity (round (units n)) := by
  change (UnpackedFloat.pack Format.binary64
    (UnpackedFloat.ofScientific Format.binary64 n 0)).toNat = _
  have hval : n * 2 ^ 53 * 2 ^ 1021 = units n := by
    rw [units, Nat.mul_assoc, ← pow_add]
  have hexcess : excess (n * 2 ^ 53 * 2 ^ 1021) = 1021 + (n.log2 + 1) := by
    rw [hval, units, excess_mul_pow hn]
    omega
  have hround := toNat_pack_roundWithAccuracy (by positivity) hexcess
  rw [hval] at hround
  rw [← hround]
  simp only [UnpackedFloat.ofScientific]
  rw [dif_neg hn.ne', if_neg (by decide), if_neg (by omega), if_pos (by decide)]
  simp only [Nat.shiftLeft_eq, UnpackedFloat.mul, Int.toNat_zero, pow_zero, Nat.mul_one]
  rfl

/-- The factor that conversion puts to a small whole number. -/
def one : Float := Float.exactlyRepresentablePowersOfTen[0]

theorem unpack_one : one.toModel.unpack = .finite .positive (2 ^ 52) (-52) (by decide) := by
  have h : one.toModel.toBits.toBitVec.toNat = 1022 * 2 ^ 52 + 2 ^ 52 := by decide
  exact unpack_finite (by decide) (k := 1022) ⟨by decide, .inl le_rfl⟩ h (by rw [h]; decide)

theorem toNat_mul_one {x : Magnitude} (hlt : x.code < infinity) (h : 53 * 2 ^ 52 ≤ x.code) :
    (x.toFloat * one).toBits.toNat = x.code := by
  change (UnpackedFloat.pack Format.binary64
    (UnpackedFloat.mul Format.binary64 x.toFloat.toModel.unpack one.toModel.unpack)).toNat = _
  rcases x.unpack_cases with ⟨hx, _⟩ | ⟨hx, _⟩ | ⟨m, k, hm, hcan, hcode, _, hx⟩
  · omega
  · omega
  · obtain ⟨j, rfl⟩ : ∃ j, k = j + 52 := by
      have := hcan.lt
      exact ⟨k - 52, by omega⟩
    -- The mantissa of `one` adds 52 places to the product, and rounding takes them off again.
    have hval : m * 2 ^ 52 * 2 ^ j = m * 2 ^ (j + 52) := by
      rw [Nat.add_comm, pow_add, Nat.mul_assoc]
    have hround := toNat_pack_roundWithAccuracy (m := m * 2 ^ 52) (k := j) (n := 52)
      (by positivity) (by rw [hval, hcan.excess_eq hm])
    rw [hval, ← value_of_canonical hcan, round_value, ← hcode, min_eq_right hlt.le] at hround
    rw [hx, unpack_one, ← hround]
    change (UnpackedFloat.pack Format.binary64
      (UnpackedFloat.roundWithAccuracy Format.binary64 .positive (m * 2 ^ 52) _ .exact)).toNat = _
    rw [show ((j + 52 : Nat) : Int) - 1074 + -52 = j - 1074 by omega]

theorem toNat_ofNat_of_le {n : Nat} (h : 2 ^ 53 ≤ n) :
    (Float.ofNat n).toBits.toNat = min infinity (round (units n)) := by
  have hlarge : ¬ (n < 2 ^ 53 ∧ 0 ≤ 22) := by omega
  change (Float.ofScientific n false 0).toBits.toNat = _
  rw [Float.ofScientific, dif_neg hlarge]
  exact toNat_ofScientific (by omega)

theorem toNat_ofNat {n : Nat} (hn : 0 < n) (h : n < 2 ^ 64) :
    (Float.ofNat n).toBits.toNat = round (units n) := by
  have hmin : min infinity (round (units n)) = round (units n) :=
    min_eq_right (round_units_lt h).le
  -- A number below `2 ^ 53` is converted as a word, any other one as a decimal numeral.
  by_cases hsmall : n < 2 ^ 53 ∧ 0 ≤ 22
  · have hcode := (toNat_toFloat hn h).trans hmin
    obtain ⟨x, hx⟩ : ∃ x : Magnitude, x.toFloat = n.toUInt64.toFloat :=
      ⟨⟨_, hcode.trans_le (round_units_lt h).le⟩, rfl⟩
    have hx' : x.code = round (units n) := by rw [Magnitude.code, hx, hcode]
    change (Float.ofScientific n false 0).toBits.toNat = _
    rw [Float.ofScientific, dif_pos hsmall]
    change (n.toUInt64.toFloat * one).toBits.toNat = _
    rw [← hx, toNat_mul_one (hx' ▸ round_units_lt h) (hx' ▸ le_round_units hn), hx']
  · exact (toNat_ofNat_of_le (by omega)).trans hmin

/-- Whole numbers of any size are from zero on. -/
theorem toNat_ofNat_le (n : Nat) : (Float.ofNat n).toBits.toNat ≤ infinity := by
  rcases Nat.eq_zero_or_pos n with rfl | hn
  · decide
  · by_cases h : n < 2 ^ 64
    · rw [toNat_ofNat hn h]
      exact (round_units_lt h).le
    · rw [toNat_ofNat_of_le (by omega)]
      exact min_le_left _ _

/-! ## Finite numbers -/

theorem isFinite_unpack {b : BitVec 64} (h : b.toNat / 2 ^ 52 % 2 ^ 11 ≠ 2047) :
    (UnpackedFloat.unpack Format.binary64 b).isFinite = true := by
  have he := mt (unpackExponent_eq_ones_iff b).mp h
  simp only [UnpackedFloat.unpack, he, if_false]
  split_ifs <;> simp [UnpackedFloat.isFinite]

theorem isFinite_pack {s : UnpackedFloat.Sign} {m : Nat} {e : Int} (hm : 0 < m)
    (he : e + 1075 < 2047) :
    (UnpackedFloat.unpack Format.binary64
      (UnpackedFloat.pack Format.binary64 (.finite s m e hm))).isFinite = true := by
  apply isFinite_unpack
  simp only [UnpackedFloat.pack]
  split_ifs with hinf hnorm
  · simp [Format.exponentBias] at hinf
    omega
  · rw [toNat_packComponents]
    simp [Format.exponentBias] at hinf ⊢
    omega
  · rw [toNat_packComponents]
    simp
    omega

theorem isFinite_of_code_lt {x : Magnitude} (h : x.code < infinity) :
    x.toFloat.isFinite = true := by
  change x.toFloat.toModel.unpack.isFinite = true
  rcases x.unpack_cases with ⟨hx, _⟩ | ⟨_, hx⟩ | ⟨m, k, hm, _, _, _, hx⟩
  · omega
  · rw [hx]
    rfl
  · rw [hx]
    rfl

theorem isFinite_iff_code_lt {x : Magnitude} : x.toFloat.isFinite = true ↔ x.code < infinity := by
  refine ⟨fun h => ?_, isFinite_of_code_lt⟩
  change x.toFloat.toModel.unpack.isFinite = true at h
  rcases x.unpack_cases with ⟨_, hx⟩ | ⟨hx, _⟩ | ⟨_, _, _, _, _, hlt, _⟩
  · rw [hx] at h
    cases h
  · rw [hx]
    decide
  · exact hlt

theorem isFinite_neg {x : Magnitude} (h : x.code < infinity) : (-x.toFloat).isFinite = true := by
  change (UnpackedFloat.unpack Format.binary64
    (UnpackedFloat.pack Format.binary64 x.toFloat.toModel.unpack.neg)).isFinite = true
  rcases x.unpack_cases with ⟨hx, _⟩ | ⟨_, hx⟩ | ⟨m, k, hm, hcan, hcode, _, hx⟩
  · omega
  · rw [hx]
    decide
  · rw [hx]
    have := hcan.normal
    unfold infinity at h
    exact isFinite_pack hm (by omega)

theorem isFinite_ofInt {n : Int} (h : n.natAbs < 2 ^ 64) : (Float.ofInt n).isFinite = true := by
  obtain ⟨x, hx, hlt⟩ : ∃ x : Magnitude, x.toFloat = Float.ofNat n.natAbs ∧ x.code < infinity := by
    rcases Nat.eq_zero_or_pos n.natAbs with hn | hn
    · rw [hn]
      exact ⟨⟨Float.ofNat 0, by decide⟩, rfl, by decide⟩
    · have hlt : (Float.ofNat n.natAbs).toBits.toNat < infinity := by
        rw [toNat_ofNat hn h]
        exact round_units_lt h
      exact ⟨⟨_, hlt.le⟩, rfl, hlt⟩
  cases n with
  | ofNat n =>
    have hn : Float.ofInt (.ofNat n) = x.toFloat := hx.symm
    rw [hn]
    exact isFinite_of_code_lt hlt
  | negSucc n =>
    have hn : Float.ofInt (.negSucc n) = -x.toFloat := congrArg Float.neg hx.symm
    rw [hn]
    exact isFinite_neg hlt

end Binary64
end PhoneticSearch
