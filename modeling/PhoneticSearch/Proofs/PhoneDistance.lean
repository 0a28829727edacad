import PhoneticSearch.Proofs.Warping.Recurrence

/-!
# Distances are from zero on

* `phoneDistance_nonneg`: the distance of phones.
* `exists_toFloat_eq_sequenceDistance`: the warping distance of sequences of phones, which is a
  magnitude up to the greatest finite number.
-/

namespace PhoneticSearch

open Binary64 Float.Model

theorem toNat_pack_roundWithAccuracy_le (m : Nat) (e : Int) (accuracy : UnpackedFloat.Accuracy) :
    (UnpackedFloat.pack Format.binary64
      (UnpackedFloat.roundWithAccuracy Format.binary64 .positive m e accuracy)).toNat ≤
      infinity := by
  simp only [UnpackedFloat.roundWithAccuracy]
  split
  · rw [toNat_pack_zero]
    exact Nat.zero_le _
  · exact toNat_pack_le _

/-- A square root that is a finite number is from zero on. -/
theorem sqrt_nonneg {x : Float} (h : x.sqrt.isFinite = true) : 0 ≤ x.sqrt := by
  have hbits : x.sqrt.toBits.toNat = (UnpackedFloat.pack Format.binary64
      (UnpackedFloat.sqrt Format.binary64 x.toModel.unpack)).toNat := rfl
  have hfinite : (UnpackedFloat.unpack Format.binary64 (UnpackedFloat.pack Format.binary64
      (UnpackedFloat.sqrt Format.binary64 x.toModel.unpack))).isFinite = true := h
  rw [Magnitude.nonneg_iff, hbits]
  generalize x.toModel.unpack = u at hfinite ⊢
  match u with
  | .zero .positive => exact .inl (by decide)
  | .zero .negative => exact .inr (by decide)
  | .infinity .positive => exact .inl (by decide)
  | .finite .positive m e hm => exact .inl (toNat_pack_roundWithAccuracy_le _ _ _)
  | .notANumber | .infinity .negative => exact absurd hfinite (by decide)
  | .finite .negative _ _ _ =>
    change (UnpackedFloat.unpack Format.binary64
      (UnpackedFloat.pack Format.binary64 .notANumber)).isFinite = true at hfinite
    exact absurd hfinite (by decide)

theorem phoneDistance_nonneg (a b : Phone) : 0 ≤ phoneDistance a b := by
  simp only [phoneDistance]
  split
  · exact sqrt_nonneg ‹_›
  · decide

/-- A warping distance has no sign, and is a number. -/
theorem exists_toFloat_eq_sequenceDistance {α β : Type} {s : List α} {t : List β}
    {distance : α → β → Float} (h : ∀ x ∈ s, ∀ y ∈ t, 0 ≤ distance x y) (tolerance : Float) :
    ∃ x : Magnitude, sequenceDistance s t distance tolerance = x.toFloat :=
  ⟨_, sequenceDistance_toFloat_of_nonneg h tolerance⟩

end PhoneticSearch
