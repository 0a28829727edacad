import PhoneticSearch.Proofs.Binary64.Magnitude

/-!
# Negation

* `unpack_neg`: negation changes the sign and nothing else.
* `neg_sub_neg`, `sub_neg`, `mul_self_sub_comm`: so a difference is that of the negatives, turned
  round, and it has the same square as the opposite one.
* `exists_magnitude`: a number is a magnitude or the negative of one.
-/

namespace PhoneticSearch
namespace Binary64

open Float.Model Float.Model.UnpackedFloat

/-! ## Signs of unpacked numbers -/

theorem sign_neg_neg (s : Sign) : - -s = s := by cases s <;> rfl

theorem apply_neg (s : Sign) (n : Int) : (-s).apply n = -s.apply n := by
  cases s with
  | positive => rfl
  | negative => exact (Int.neg_neg n).symm

theorem unpacked_neg_neg (u : UnpackedFloat) : u.neg.neg = u := by
  cases u with
  | notANumber => rfl
  | infinity s => rw [UnpackedFloat.neg, UnpackedFloat.neg, sign_neg_neg]
  | zero s => rw [UnpackedFloat.neg, UnpackedFloat.neg, sign_neg_neg]
  | finite s m e hm => rw [UnpackedFloat.neg, UnpackedFloat.neg, sign_neg_neg]

theorem unpack_packComponents_neg (s : Sign) (e : BitVec 11) (m : BitVec 52) :
    UnpackedFloat.unpack Format.binary64 (packComponents Format.binary64 (-s) e m) =
      (UnpackedFloat.unpack Format.binary64 (packComponents Format.binary64 s e m)).neg := by
  simp only [UnpackedFloat.unpack, unpackSign_packComponents, unpackExponent_packComponents,
    unpackMantissa_packComponents, Sign.ofBitVec_toBitVec]
  split_ifs <;> rfl

theorem unpack_pack_neg (u : UnpackedFloat) :
    UnpackedFloat.unpack Format.binary64 (UnpackedFloat.pack Format.binary64 u.neg) =
      (UnpackedFloat.unpack Format.binary64 (UnpackedFloat.pack Format.binary64 u)).neg := by
  cases u with
  | notANumber => rw [UnpackedFloat.neg, UnpackedFloat.pack, unpack_packedNaN, UnpackedFloat.neg]
  | infinity s => exact unpack_packComponents_neg s (-1#_) 0
  | zero s => exact unpack_packComponents_neg s 0 0
  | finite s m e hm =>
    simp only [UnpackedFloat.neg, UnpackedFloat.pack]
    split_ifs
    · exact unpack_packComponents_neg s (-1#_) 0
    · exact unpack_packComponents_neg s _ _
    · exact unpack_packComponents_neg s 0#_ _

theorem roundWithAccuracy_negative (m : Nat) (e : Int) (accuracy : Accuracy) :
    roundWithAccuracy Format.binary64 .negative m e accuracy =
      (roundWithAccuracy Format.binary64 .positive m e accuracy).neg := by
  simp only [roundWithAccuracy]
  split <;> rfl

theorem normalize_neg {n : Int} (hn : n ≠ 0) (e : Int) (s : Sign) :
    UnpackedFloat.normalize Format.binary64 (-n) e s =
      (UnpackedFloat.normalize Format.binary64 n e s).neg := by
  rw [UnpackedFloat.normalize, UnpackedFloat.normalize]
  rcases Int.lt_or_gt_of_ne hn with hlt | hgt
  · rw [Int.compare_eq_gt.mpr (by omega), Int.compare_eq_lt.mpr hlt]
    simp only [UnpackedFloat.round, roundWithAccuracy_negative, unpacked_neg_neg]
  · rw [Int.compare_eq_lt.mpr (by omega), Int.compare_eq_gt.mpr hgt, Int.neg_neg]
    simp only [UnpackedFloat.round, roundWithAccuracy_negative]

theorem unpacked_sub_neg (u v : UnpackedFloat) :
    UnpackedFloat.sub Format.binary64 u v.neg = UnpackedFloat.add Format.binary64 u v := by
  cases u <;> cases v <;>
    simp only [UnpackedFloat.neg, UnpackedFloat.sub, UnpackedFloat.add, sign_neg_neg, apply_neg,
      Int.sub_neg]

/-- The difference of two numbers is that of their negatives, the other way round. -/
theorem unpacked_neg_sub_neg (u v : UnpackedFloat) :
    UnpackedFloat.sub Format.binary64 v.neg u.neg = UnpackedFloat.sub Format.binary64 u v := by
  rw [unpacked_sub_neg]
  cases u <;> cases v <;>
    simp only [UnpackedFloat.neg, UnpackedFloat.sub, UnpackedFloat.add, apply_neg]
  case infinity.infinity s t => cases s <;> cases t <;> rfl
  case zero.zero s t => cases s <;> cases t <;> rfl
  case finite.finite s m e _ t m' e' _ => rw [min_comm, Int.add_comm, Int.sub_eq_add_neg]

/-- Turned round, a difference changes its sign, unless it is zero or no number. -/
theorem unpacked_sub_swap (u v : UnpackedFloat) :
    UnpackedFloat.sub Format.binary64 u v = (UnpackedFloat.sub Format.binary64 v u).neg ∨
      UnpackedFloat.sub Format.binary64 u v = UnpackedFloat.sub Format.binary64 v u := by
  cases u <;> cases v <;> simp only [UnpackedFloat.neg, UnpackedFloat.sub, sign_neg_neg, true_or]
  case infinity.infinity s t => cases s <;> cases t <;> exact .inl rfl
  case zero.zero s t =>
    cases s <;> cases t
    · exact .inr rfl
    · exact .inl rfl
    · exact .inl rfl
    · exact .inr rfl
  case finite.finite s m e _ t m' e' _ =>
    rw [min_comm, ← Int.neg_sub]
    generalize t.apply _ - s.apply _ = n
    rcases eq_or_ne n 0 with rfl | hn
    · exact .inr rfl
    · exact .inl (normalize_neg hn _ _)

theorem unpacked_mul_neg_neg (u : UnpackedFloat) :
    UnpackedFloat.mul Format.binary64 u.neg u.neg = UnpackedFloat.mul Format.binary64 u u := by
  have hsign : ∀ s : Sign, -s * -s = s * s := by
    intro s
    cases s <;> rfl
  cases u with
  | notANumber => rfl
  | infinity s => exact congrArg _ (hsign s)
  | zero s => exact congrArg _ (hsign s)
  | finite s m e hm => simp only [UnpackedFloat.neg, UnpackedFloat.mul, hsign]

/-! ## Signs of numbers -/

theorem float_ext_unpack {x y : Float} (h : x.toModel.unpack = y.toModel.unpack) : x = y := by
  have hbits : x.toModel.toBits.toBitVec = y.toModel.toBits.toBitVec :=
    (unpack_inj_of_valid x.toModel.valid y.toModel.valid).mp h
  exact Float.toBits_inj.mp (UInt64.toBitVec_inj.mp hbits)

theorem unpack_neg (x : Float) : (-x).toModel.unpack = x.toModel.unpack.neg := by
  change UnpackedFloat.unpack Format.binary64
    (UnpackedFloat.pack Format.binary64 x.toModel.unpack.neg) = _
  rw [unpack_pack_neg]
  exact congrArg (fun b => (UnpackedFloat.unpack Format.binary64 b).neg)
    (pack_unpack_of_valid x.toModel.valid)

theorem neg_neg (x : Float) : - -x = x := by
  apply float_ext_unpack
  rw [unpack_neg, unpack_neg, unpacked_neg_neg]

theorem neg_sub_neg (x y : Float) : -y - -x = x - y := by
  change Float.ofModel (pack (UnpackedFloat.sub Format.binary64 (-y).toModel.unpack
    (-x).toModel.unpack)) = Float.ofModel (pack (UnpackedFloat.sub Format.binary64 _ _))
  rw [unpack_neg, unpack_neg, unpacked_neg_sub_neg]

theorem sub_neg (x y : Float) : x - -y = x + y := by
  change Float.ofModel (pack (UnpackedFloat.sub Format.binary64 x.toModel.unpack
    (-y).toModel.unpack)) = Float.ofModel (pack (UnpackedFloat.add Format.binary64 _ _))
  rw [unpack_neg, unpacked_sub_neg]

theorem neg_mul_neg (x : Float) : -x * -x = x * x := by
  change Float.ofModel (pack (UnpackedFloat.mul Format.binary64 (-x).toModel.unpack
    (-x).toModel.unpack)) = Float.ofModel (pack (UnpackedFloat.mul Format.binary64 _ _))
  rw [unpack_neg, unpacked_mul_neg_neg]

/-- A difference and the opposite one have the same square. -/
theorem mul_self_sub_comm (x y : Float) : (x - y) * (x - y) = (y - x) * (y - x) := by
  rcases unpacked_sub_swap x.toModel.unpack y.toModel.unpack with h | h
  · have hneg : x - y = -(y - x) := by
      apply float_ext_unpack
      rw [unpack_neg]
      change UnpackedFloat.unpack Format.binary64 (UnpackedFloat.pack Format.binary64 _) = _
      rw [h, unpack_pack_neg]
      rfl
    rw [hneg, neg_mul_neg]
  · have hsame : x - y = y - x := congrArg (fun u => Float.ofModel (pack u)) h
    rw [hsame]

/-! ## Numbers by magnitude -/

theorem nonneg_or_neg_nonneg {x : Float} (h : x.isNaN = false) : 0 ≤ x ∨ 0 ≤ -x := by
  have hzero : (0 : Float).toModel.unpack = .zero .positive := unpack_zero (by decide)
  change x.toModel.unpack.isNaN = false at h
  rw [Magnitude.le_iff_unpack, Magnitude.le_iff_unpack, unpack_neg, hzero]
  generalize x.toModel.unpack = u at h ⊢
  match u with
  | .zero _ => exact .inl rfl
  | .infinity .positive | .finite .positive .. => exact .inl rfl
  | .infinity .negative | .finite .negative .. => exact .inr rfl
  | .notANumber => cases h

/-- The negative zero is the negative of a magnitude. -/
theorem exists_magnitude_of_nonneg {x : Float} (h : 0 ≤ x) :
    ∃ z : Magnitude, x = z.toFloat ∨ x = -z.toFloat := by
  rcases (Magnitude.nonneg_iff x).mp h with hle | hzero
  · exact ⟨⟨x, hle⟩, .inl rfl⟩
  · refine ⟨0, .inr (Magnitude.float_ext ?_)⟩
    rw [hzero]
    decide

theorem exists_magnitude {x : Float} (h : x.isNaN = false) :
    ∃ z : Magnitude, x = z.toFloat ∨ x = -z.toFloat := by
  rcases nonneg_or_neg_nonneg h with hx | hx
  · exact exists_magnitude_of_nonneg hx
  · obtain ⟨z, hz | hz⟩ := exists_magnitude_of_nonneg hx
    · exact ⟨z, .inr (by rw [← hz, neg_neg])⟩
    · exact ⟨z, .inl (by rw [← neg_neg x, hz, neg_neg])⟩

end Binary64
end PhoneticSearch
