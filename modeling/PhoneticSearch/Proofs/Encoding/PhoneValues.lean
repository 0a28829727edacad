import PhoneticSearch.Proofs.Encoding.PhoneInvariant
import PhoneticSearch.Proofs.FeatureNames

/-!
# The values of phones

* `FeatureSet.IsValue`: the three values of a feature set.
* `FeatureSet.Gives`: the values that its descriptions have. Without usable names it is one only.
* `Encoder.value_of_mem_encode`: the values of a spelling are those of the patterns and the one of
  uncovered characters.
* `Encoder.gives_or_lends_of_mem_encode`: the values of a configured encoding are those of its
  features, except for the ones that it takes over with the phones of IPA texts.
-/

namespace PhoneticSearch

open Settings

namespace FeatureSet

variable (set : FeatureSet)

/-- Plus, minus or unset. -/
def IsValue (value : Float) : Prop := value = set.plus ∨ value = set.minus ∨ value = set.unset

/-- A value that some description has. A set that knows no names leaves all unset. -/
def Gives (value : Float) : Prop :=
  value = set.unset ∨ set.index ≠ [] ∧ (value = set.plus ∨ value = set.minus)

variable {set} {value : Float}

theorem Gives.isValue (h : set.Gives value) : set.IsValue value := by
  obtain hunset | ⟨-, hplus | hminus⟩ := h
  · exact .inr (.inr hunset)
  · exact .inl hplus
  · exact .inr (.inl hminus)

theorem gives_signed (hindex : set.index ≠ []) (positive : Bool) :
    set.Gives (set.signed positive) := by
  cases positive with
  | true => exact .inr ⟨hindex, .inl rfl⟩
  | false => exact .inr ⟨hindex, .inr rfl⟩

theorem gives_of_mem_unsetPhone (h : value ∈ set.unsetPhone) : set.Gives value :=
  .inl (List.eq_of_mem_replicate h)

theorem gives_of_mem_add (hindex : set.index ≠ []) {described : Described} {spec : String}
    (hdescribed : ∀ value ∈ described.phone, set.Gives value) :
    ∀ value ∈ (described.add set spec).phone, set.Gives value := by
  unfold Described.add
  dsimp only
  split
  · exact hdescribed
  · split
    · exact hdescribed
    · split
      · exact hdescribed
      · intro value hvalue
        obtain hold | rfl := List.mem_or_eq_of_mem_set hvalue
        · exact hdescribed value hold
        · exact gives_signed hindex _

theorem gives_of_mem_foldl_add (hindex : set.index ≠ []) {described : Described}
    {specs : List String} (hdescribed : ∀ value ∈ described.phone, set.Gives value) :
    ∀ value ∈ (specs.foldl (Described.add set) described).phone, set.Gives value := by
  induction specs generalizing described with
  | nil => exact hdescribed
  | cons spec rest ih => exact ih (gives_of_mem_add hindex hdescribed)

theorem gives_of_mem_phone {specs : List String} (h : value ∈ (set.phone specs).phone) :
    set.Gives value := by
  unfold phone at h
  split at h
  · exact gives_of_mem_unsetPhone h
  · rename_i hnames
    have hindex : set.index ≠ [] := by simpa using hnames
    exact gives_of_mem_foldl_add hindex (fun _ => gives_of_mem_unsetPhone) value h

/-- Every value that a set gives is a component of some description. -/
theorem exists_mem_phone {name : String} {groups : List String} {plus minus : Float}
    {unset : Option Float} (hdimensions : (ofGroups name groups plus minus unset).dimensions ≠ 0)
    (h : (ofGroups name groups plus minus unset).Gives value) :
    ∃ specs, value ∈ ((ofGroups name groups plus minus unset).phone specs).phone := by
  obtain rfl | ⟨hindex, rfl | rfl⟩ := h
  · exact ⟨[], unset_mem_phone hdimensions⟩
  · exact exists_signed_mem_phone hindex true
  · exact exists_signed_mem_phone hindex false

/-- A component of a phone laid over another is one of theirs. -/
theorem mem_override {base overlay : Phone} (h : value ∈ set.override base overlay) :
    value ∈ base ∨ value ∈ overlay := by
  fun_induction set.override base overlay with
  | case1 => cases h
  | case2 => exact .inl h
  | case3 base bases other others ih =>
    obtain rfl | hrest := List.mem_cons.mp h
    · split
      · exact .inr List.mem_cons_self
      · exact .inl List.mem_cons_self
    · exact (ih hrest).imp (.tail _) (.tail _)

end FeatureSet

namespace Encoder

variable {encoder : Encoder} {Q : Float → Prop}

/-- Whatever holds of the unset value and of all components of the patterns holds of all components
of a spelling. -/
theorem value_of_mem_encode (hunset : Q encoder.features.unset)
    (hpatterns : ∀ pattern ∈ encoder.encoding.patterns, ∀ phone ∈ pattern.phones,
      ∀ value ∈ phone, Q value) {source : String} {phone : Phone}
    (hmem : phone ∈ encoder.encode source) : ∀ value ∈ phone, Q value := by
  refine (forall_mem_encode (P := fun phone => ∀ value ∈ phone, Q value) hpatterns ?_ ?_
    phone hmem).1
  · intro c value hvalue
    unfold barePhone at hvalue
    split at hvalue
    · cases hvalue
    · rw [List.eq_of_mem_replicate hvalue]
      exact hunset
  · intro base hbase pattern hpattern overlay hoverlay value hvalue
    obtain hvalue | hvalue := FeatureSet.mem_override hvalue
    · exact hbase value hvalue
    · exact hpatterns pattern hpattern overlay hoverlay value hvalue

/-- The encoder gives a phone with this value for the IPA text of some pattern. -/
def Lends (ipa : Encoder) (settings : EncodingSettings) (value : Float) : Prop :=
  ∃ pattern ∈ settings.patterns, ∃ text, pattern.ipa = some text ∧
    ∃ phone ∈ ipa.encode text, value ∈ phone

/-- A value of a configured encoding is one of its features, or it came with a phone of an IPA
text. -/
theorem gives_or_lends_of_mem_encode {features : FeatureSet} {ipa : Option Encoder}
    {settings : EncodingSettings} {text : String} {phone : Phone}
    (hphone : phone ∈ (ofEncoding (.ofSettings features ipa settings)).encode text) {value : Float}
    (hvalue : value ∈ phone) :
    features.Gives value ∨
      ∃ encoder, ipa = some encoder ∧ encoder.features.dimensions = features.dimensions ∧
        encoder.Lends settings value := by
  refine value_of_mem_encode (Q := fun value => features.Gives value ∨
    ∃ encoder, ipa = some encoder ∧ encoder.features.dimensions = features.dimensions ∧
      encoder.Lends settings value) (.inl (.inl rfl)) ?_ hphone value hvalue
  intro pattern hpattern phone hphone value hvalue
  obtain ⟨record, hrecord, hphones⟩ := Encoding.of_mem_patterns_ofSettings hpattern
  rw [hphones] at hphone
  obtain ⟨specs, rfl⟩ | ⟨encoder, text, hencoder, htext, hsize, hencode⟩ :=
    Pattern.of_mem_settingsPhones hphone
  · exact .inl (FeatureSet.gives_of_mem_phone hvalue)
  · exact .inr ⟨encoder, hencoder, hsize, record, hrecord, text, htext, phone, hencode, hvalue⟩

end Encoder

end PhoneticSearch
