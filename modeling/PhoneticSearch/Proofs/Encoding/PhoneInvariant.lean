import PhoneticSearch.Encoding.Resolution
import PhoneticSearch.Proofs.Encoding.TemplatePass

/-!
# What all phones of a spelling have in common

A property of phones that the patterns have, that an uncovered character has and that an overlay
does not destroy, belongs to all phones of a spelling.

* `Cell.forall_overlay`, `Cell.forall_lay`: one overlay, all overlays on a cell.
* `Encoder.mem_patterns_of_mem_overlays`: the phones of an overlay are those of a pattern.
* `Encoder.forall_mem_encode`: both passes.
* `Pattern.of_mem_settingsPhones`: the phones of a configured pattern are described by features or
  are phones of an IPA text.
-/

namespace PhoneticSearch

open Settings

variable {P : Phone → Prop}

namespace Cell

variable {features : FeatureSet}

theorem forall_overlay {cell : Cell} (h : ∀ phone ∈ cell.phones, P phone) (offset : Nat)
    {phones : List Phone}
    (hoverride : ∀ base, P base → ∀ overlay ∈ phones, P (features.override base overlay)) :
    ∀ phone ∈ (cell.overlay features offset phones).phones, P phone := by
  unfold overlay
  split
  · exact h
  · dsimp only
    split
    · exact h
    · rename_i base hbase
      intro phone hphone
      simp only [List.mem_append, List.mem_map] at hphone
      obtain (hbefore | ⟨overlay, hoverlay, rfl⟩) | hafter := hphone
      · exact h phone (List.mem_of_mem_take hbefore)
      · exact hoverride base (h base (List.mem_of_getElem? hbase)) overlay hoverlay
      · exact h phone (List.mem_of_mem_drop hafter)

theorem forall_lay {cell : Cell} (h : ∀ phone ∈ cell.phones, P phone) {overlays : List Overlay}
    (hoverride : ∀ base, P base → ∀ overlay ∈ overlays, ∀ phone ∈ overlay.phones,
      P (features.override base phone)) :
    ∀ phone ∈ (cell.lay features overlays).phones, P phone := by
  induction overlays with
  | nil => exact h
  | cons overlay rest ih =>
    have hrest := ih fun base hbase other hother => hoverride base hbase other (.tail _ hother)
    exact forall_overlay hrest overlay.offset fun base hbase =>
      hoverride base hbase overlay List.mem_cons_self

end Cell

namespace Encoder

variable {encoder : Encoder}

theorem mem_patterns_of_mem_replacements {rule : Rule} (h : rule ∈ encoder.rules.replacements) :
    rule.pattern ∈ encoder.encoding.patterns := by
  rw [encoder.rules_eq, RuleTable.replacements_ofPatterns] at h
  obtain ⟨pattern, hpattern, rfl⟩ := List.mem_map.mp h
  exact List.mem_of_mem_filter hpattern

theorem mem_patterns_of_mem_templates {rule : Rule} (h : rule ∈ encoder.rules.templates) :
    rule.pattern ∈ encoder.encoding.patterns := by
  rw [encoder.rules_eq, RuleTable.templates_ofPatterns] at h
  obtain ⟨pattern, hpattern, rfl⟩ := List.mem_map.mp h
  exact List.mem_of_mem_filter hpattern

theorem mem_patterns_of_mem_overlays {cells : List Cell} {overlay : Overlay}
    (h : overlay ∈ encoder.overlays cells) :
    ∃ pattern ∈ encoder.encoding.patterns, overlay.phones = pattern.phones := by
  rw [overlays, List.mem_filterMap] at h
  obtain ⟨segment, hmem, hsome⟩ := h
  obtain ⟨-, rule, items, rfl, hphones⟩ := overlayOf_eq_some hsome
  exact ⟨rule.pattern, mem_patterns_of_mem_templates (Segment.rule_mem _ _ _ hmem), hphones⟩

variable (hpatterns : ∀ pattern ∈ encoder.encoding.patterns, ∀ phone ∈ pattern.phones, P phone)
  (hbare : ∀ c, P (encoder.barePhone c))

include hpatterns hbare

theorem forall_mem_cells {source : List Char} :
    ∀ cell ∈ encoder.cells source, ∀ phone ∈ cell.phones, P phone := by
  intro cell hcell phone hphone
  obtain ⟨segment, hsegment, rfl⟩ := List.mem_map.mp hcell
  cases segment with
  | covered rule items =>
    have hrule : rule ∈ encoder.rules.replacements := Segment.rule_mem _ _ _ hsegment
    exact hpatterns rule.pattern (mem_patterns_of_mem_replacements hrule) phone hphone
  | bare c =>
    obtain rfl : phone = encoder.barePhone c := List.mem_singleton.mp hphone
    exact hbare c

/-- The phones of a spelling are not empty, since those that only modify others are left out. -/
theorem forall_mem_encode
    (hoverride : ∀ base, P base → ∀ pattern ∈ encoder.encoding.patterns, ∀ phone ∈ pattern.phones,
      P (encoder.features.override base phone)) {source : String} :
    ∀ phone ∈ encoder.encode source, P phone ∧ phone ≠ [] := by
  intro phone hmem
  obtain ⟨cell, hcell, hphone⟩ := List.mem_flatMap.mp hmem
  obtain ⟨hphone, hfull⟩ := List.mem_filter.mp hphone
  refine ⟨?_, by simpa using hfull⟩
  obtain ⟨number, hget⟩ := List.mem_iff_getElem?.mp hcell
  rw [overlaid, Array.getElem?_toList, getElem?_foldr_apply, List.getElem?_toArray,
    Option.map_eq_some_iff] at hget
  obtain ⟨before, hbefore, rfl⟩ := hget
  refine Cell.forall_lay (forall_mem_cells hpatterns hbare before (List.mem_of_getElem? hbefore)) ?_
    phone hphone
  intro base hbase overlay hoverlay other hother
  obtain ⟨pattern, hpattern, hphones⟩ :=
    mem_patterns_of_mem_overlays (List.mem_of_mem_filter hoverlay)
  rw [hphones] at hother
  exact hoverride base hbase pattern hpattern other hother

end Encoder

/-! ## Configured patterns -/

variable {features : FeatureSet} {ipa : Option Encoder}

/-- An IPA text counts only if its encoding has as many dimensions as the features. -/
theorem Pattern.of_mem_settingsPhones {settings : PatternSettings} {phone : Phone}
    (h : phone ∈ (settingsPhones features ipa settings).value) :
    (∃ specs, phone = (features.phone specs).phone) ∨
      ∃ encoder text, ipa = some encoder ∧ settings.ipa = some text ∧
        encoder.features.dimensions = features.dimensions ∧ phone ∈ encoder.encode text := by
  cases hfeatures : settings.features with
  | some specs =>
    cases htext : settings.ipa with
    | some text => simp [settingsPhones, hfeatures, htext] at h
    | none =>
      simp only [settingsPhones, hfeatures, htext, describedPhones, List.mem_map] at h
      obtain ⟨described, ⟨spec, -, rfl⟩, rfl⟩ := h
      exact .inl ⟨spec, rfl⟩
  | none =>
    cases htext : settings.ipa with
    | none => simp [settingsPhones, hfeatures, htext] at h
    | some text =>
      cases hencoder : ipa with
      | none => simp [settingsPhones, hfeatures, htext, ipaPhones, hencoder] at h
      | some encoder =>
        by_cases hsize : encoder.features.dimensions = features.dimensions
        · have hencode : phone ∈ encoder.encode text := by
            simpa [settingsPhones, hfeatures, htext, ipaPhones, hencoder, hsize] using h
          exact .inr ⟨encoder, text, rfl, rfl, hsize, hencode⟩
        · simp [settingsPhones, hfeatures, htext, ipaPhones, hencoder, hsize] at h

theorem Encoding.of_mem_patterns_ofSettings {settings : EncodingSettings} {pattern : Pattern}
    (h : pattern ∈ (ofSettings features ipa settings).patterns) :
    ∃ record ∈ settings.patterns,
      pattern.phones = (Pattern.settingsPhones features ipa record).value := by
  obtain ⟨reported, hreported, rfl⟩ := List.mem_map.mp (List.mem_mergeSort.mp h)
  obtain ⟨record, hrecord, rfl⟩ := List.mem_map.mp hreported
  exact ⟨record, hrecord, rfl⟩

end PhoneticSearch
