import PhoneticSearch.Proofs.Encoding.PhoneInvariant

/-!
# The length of phones

* `FeatureSet.length_phone`, `FeatureSet.length_override`: what a feature set describes has one
  component for each of its dimensions, and a phone keeps its length when another is laid over it.
* `Encoder.Sized`: all phones of the patterns have one component for each dimension.
* `Encoder.Sized.length_of_mem_encode`: then so have all phones of a spelling.
* `Encoder.sized_ofSettings`: configured encodings are of that kind.
-/

namespace PhoneticSearch

open Settings

namespace FeatureSet

variable (set : FeatureSet)

@[simp] theorem length_unsetPhone : set.unsetPhone.length = set.dimensions := List.length_replicate

theorem length_add (described : Described) (spec : String) :
    (described.add set spec).phone.length = described.phone.length := by
  unfold Described.add
  dsimp only
  split
  · rfl
  · split
    · rfl
    · split
      · rfl
      · exact List.length_set

/-- A described phone has one component for each dimension, whatever is wrong with its
description. -/
theorem length_phone (specs : List String) : (set.phone specs).phone.length = set.dimensions := by
  have hrun : ∀ described : Described,
      (specs.foldl (Described.add set) described).phone.length = described.phone.length := by
    induction specs with
    | nil => intro described; rfl
    | cons spec rest ih => intro described; rw [List.foldl_cons, ih, length_add]
  unfold phone
  split
  · exact set.length_unsetPhone
  · rw [hrun]
    exact set.length_unsetPhone

@[simp] theorem length_override (base overlay : Phone) :
    (set.override base overlay).length = base.length := by
  fun_induction set.override base overlay with
  | case1 => rfl
  | case2 => rfl
  | case3 base bases value values ih => rw [List.length_cons, List.length_cons, ih]

/-- A phone with one component for each dimension, or the empty phone of a modifier. -/
def Fits (phone : Phone) : Prop := phone.length = set.dimensions ∨ phone = []

/-- The overlay may be of any length: only its components over those of the phone below count. -/
theorem fits_override {base : Phone} (h : set.Fits base) (overlay : Phone) :
    set.Fits (set.override base overlay) := by
  obtain h | rfl := h
  · exact .inl ((set.length_override base overlay).trans h)
  · exact .inr (List.length_eq_zero_iff.mp (set.length_override [] overlay))

end FeatureSet

namespace Encoder

/-- The phones of all patterns have one component for each dimension. -/
def Sized (encoder : Encoder) : Prop :=
  ∀ pattern ∈ encoder.encoding.patterns, ∀ phone ∈ pattern.phones,
    phone.length = encoder.features.dimensions

variable {encoder : Encoder}

theorem fits_barePhone (c : Char) : encoder.features.Fits (encoder.barePhone c) := by
  unfold barePhone
  split
  · exact .inr rfl
  · exact .inl encoder.features.length_unsetPhone

/-- All phones of a spelling are full, since those that only modify others are left out. -/
theorem Sized.length_of_mem_encode (h : encoder.Sized) {source : String} {phone : Phone}
    (hmem : phone ∈ encoder.encode source) :
    phone.length = encoder.features.dimensions ∧ phone ≠ [] := by
  obtain ⟨hfits, hne⟩ := forall_mem_encode (P := encoder.features.Fits)
    (fun pattern hpattern phone hphone => .inl (h pattern hpattern phone hphone)) fits_barePhone
    (fun base hbase _ _ overlay _ => encoder.features.fits_override hbase overlay) phone hmem
  obtain hlength | hempty := hfits
  · exact ⟨hlength, hne⟩
  · exact absurd hempty hne

end Encoder

/-- The phones of a configured encoding are full if those of the IPA encoding are. -/
theorem Encoder.sized_ofSettings (features : FeatureSet) {ipa : Option Encoder}
    (hipa : ∀ encoder, ipa = some encoder → encoder.Sized) (settings : EncodingSettings) :
    (Encoder.ofEncoding (.ofSettings features ipa settings)).Sized := by
  intro pattern hpattern phone hphone
  obtain ⟨record, -, hphones⟩ := Encoding.of_mem_patterns_ofSettings hpattern
  rw [hphones] at hphone
  obtain ⟨specs, rfl⟩ | ⟨encoder, text, hencoder, -, hsize, hencode⟩ :=
    Pattern.of_mem_settingsPhones hphone
  · exact features.length_phone specs
  · exact ((hipa encoder hencoder).length_of_mem_encode hencode).1.trans hsize

end PhoneticSearch
