import PhoneticSearch.Proofs.Encoding.Conservation
import PhoneticSearch.Proofs.Encoding.PhoneLength
import PhoneticSearch.Proofs.Text.Runs

/-!
# Characters in no input

* `Pattern.choose?_append_cons`: what follows a character that is in no input has no part in a
  choice before it.
* `Encoder.segments_append_cons`: such a character cuts a spelling in two.
* `Encoder.transduce_append_singleton`: the two sides are transduced as if each stood alone.
-/

namespace PhoneticSearch

namespace Pattern

variable {c : Char}

theorem fits_append_cons {pattern : Pattern} (h : pattern.isInert = false → c ∉ pattern.template)
    (text rest : List Char) : pattern.fits (text ++ c :: rest) = pattern.fits text := by
  cases hlive : pattern.isInert with
  | true => simp [fits, hlive]
  | false => rw [fits, fits, Text.isPrefixOf_append_cons (h hlive)]

variable {patterns : List Pattern}

/-- A choice before `c` is made as if the text ended there. -/
theorem choose?_append_cons
    (h : ∀ pattern ∈ patterns, pattern.isInert = false → c ∉ pattern.template)
    (text rest : List Char) : choose? patterns (text ++ c :: rest) = choose? patterns text := by
  have hfilter : patterns.filter (fun pattern => pattern.fits (text ++ c :: rest)) =
      patterns.filter fun pattern => pattern.fits text :=
    List.filter_congr fun pattern hmem => fits_append_cons (h pattern hmem) text rest
  rw [choose?, choose?, hfilter]

theorem choose?_nil (patterns : List Pattern) : choose? patterns [] = none := by
  have hfilter : patterns.filter (fun pattern => pattern.fits []) = [] := by
    rw [List.filter_eq_nil_iff]
    intro pattern _ hfits
    have hpos := length_pos_of_fits hfits
    have hle := length_le_of_fits hfits
    exact Nat.not_lt_of_le hle hpos
  rw [choose?, hfilter]
  rfl

end Pattern

namespace Segment

variable {patterns : List Pattern} {c : Char}

/-- A character in no input is left bare, and the scan carries nothing over it. -/
theorem segments_append_cons
    (h : ∀ pattern ∈ patterns, pattern.isInert = false → c ∉ pattern.template)
    (row rest : List Char) :
    let rules := (RuleTable.ofPatterns patterns).replacements
    segments Rule.automaton rules id (row ++ c :: rest) =
      segments Rule.automaton rules id row ++ .bare c :: segments Rule.automaton rules id rest := by
  intro rules
  have hmatch : ∀ text, longestMatch Rule.automaton rules id (text ++ c :: rest) =
      longestMatch Rule.automaton rules id text := by
    intro text
    rw [longestMatch_ofPatterns, longestMatch_ofPatterns, Pattern.choose?_append_cons h]
  fun_induction segments Rule.automaton rules id row with
  | case1 =>
    have hnone := hmatch []
    rw [longestMatch_ofPatterns _ [], Pattern.choose?_nil, Option.map_none] at hnone
    rw [List.nil_append] at hnone ⊢
    rw [segments, hnone]
    rfl
  | case2 item row rule length hfound ih =>
    have hle : length ≤ (item :: row).length := by
      rw [longestMatch_eq, longestUpTo_eq_some_iff] at hfound
      simpa using hfound.2.1
    have hdrop : (row ++ c :: rest).drop (length - 1) = row.drop (length - 1) ++ c :: rest := by
      apply List.drop_append_of_le_length
      rw [List.length_cons] at hle
      omega
    rw [List.cons_append, segments, ← List.cons_append, hmatch, hfound]
    simp only [List.cons_append]
    rw [← List.cons_append, List.take_append_of_le_length hle, hdrop, ih]
  | case3 item row hfound ih =>
    rw [List.cons_append, segments, ← List.cons_append, hmatch, hfound]
    simp only [List.cons_append, ih]

end Segment

namespace Encoder

variable (encoder : Encoder)

theorem templates_eq_nil
    (h : ∀ pattern ∈ encoder.encoding.patterns,
      pattern.isInert = true ∨ pattern.isReplacement = true) : encoder.rules.templates = [] := by
  rw [encoder.rules_eq, RuleTable.templates_ofPatterns, List.map_eq_nil_iff,
    List.filter_eq_nil_iff]
  intro pattern hmem
  rcases h pattern hmem with hinert | hkind
  · simp [hinert]
  · simp [hkind]

theorem barePhone_of_templates
    (h : ∀ pattern ∈ encoder.encoding.patterns,
      pattern.isInert = true ∨ pattern.isReplacement = true) (c : Char) :
    encoder.barePhone c = encoder.features.unsetPhone := by
  have hmodifier : encoder.isModifier c = false := by
    rw [isModifier, ← Bool.not_eq_true, List.contains_iff_mem, encoder.rules_eq,
      RuleTable.mem_modifiers_ofPatterns]
    rintro ⟨pattern, hmem, hmodifies⟩
    rw [Pattern.modifies] at hmodifies
    rcases h pattern hmem with hinert | hkind
    · simp [hinert] at hmodifies
    · simp [hkind] at hmodifies
  rw [barePhone, hmodifier, if_neg Bool.false_ne_true]

theorem phonesOf_append (cells others : List Cell) :
    phonesOf (cells ++ others) = phonesOf cells ++ phonesOf others := List.flatMap_append

/-- The unset phone is left out where it has no dimension. -/
theorem phonesOf_unset (features : FeatureSet) (text : List Char) :
    phonesOf [⟨text, [features.unsetPhone]⟩] =
      if features.dimensions = 0 then [] else [features.unsetPhone] := by
  have hempty : features.unsetPhone.isEmpty = decide (features.dimensions = 0) := by
    rw [Bool.eq_iff_iff, decide_eq_true_eq, List.isEmpty_iff, ← List.length_eq_zero_iff,
      FeatureSet.length_unsetPhone]
  rw [phonesOf, List.flatMap_singleton, List.filter_singleton, hempty]
  by_cases hzero : features.dimensions = 0 <;> simp [hzero]

/-- A character in no input is a boundary for an encoder without templates: what is on one side of
it has no part in the transduction of the other side. -/
theorem transduce_append_singleton {c : Char}
    (htemplates : ∀ pattern ∈ encoder.encoding.patterns,
      pattern.isInert = true ∨ pattern.isReplacement = true)
    (hc : ∀ pattern ∈ encoder.encoding.patterns, pattern.isInert = false → c ∉ pattern.template)
    (u v : String) :
    let before := encoder.transduce u
    let after := encoder.transduce v
    encoder.transduce (u ++ String.singleton c ++ v) =
      { text := before.text ++ String.singleton c ++ after.text
        repr := before.repr ++ after.repr
        phones := before.phones ++
          (if encoder.features.dimensions = 0 then [] else [encoder.features.unsetPhone]) ++
            after.phones } := by
  have hsegments : ∀ source rest, encoder.segments (source ++ c :: rest) =
      encoder.segments source ++ .bare c :: encoder.segments rest := by
    intro source rest
    simp only [segments, encoder.rules_eq, Segment.segments_append_cons hc]
  have hcell : encoder.cellOf (.bare c) = ⟨[c], [encoder.features.unsetPhone]⟩ := by
    rw [cellOf, encoder.barePhone_of_templates htemplates]
  have hsource : (u ++ String.singleton c ++ v).toList = u.toList ++ c :: v.toList := by
    simp
  have hphones : ∀ cells others : List Cell,
      phonesOf (cells ++ encoder.cellOf (.bare c) :: others) = phonesOf cells ++
        (if encoder.features.dimensions = 0 then [] else [encoder.features.unsetPhone]) ++
          phonesOf others := by
    intro cells others
    rw [← List.singleton_append, hcell, phonesOf_append, phonesOf_append, phonesOf_unset,
      List.append_assoc]
  simp only [transduce, hsource, hsegments,
    overlaid_of_templates_nil encoder (encoder.templates_eq_nil htemplates), List.map_append,
    List.map_cons, hphones, List.flatMap_append, List.flatMap_cons, String.ofList_append]
  rw [hcell, String.singleton_eq_ofList, String.append_assoc]
  rfl

/-- A long input is not finished at the boundary, and an inert pattern has the boundary in its
input. -/
theorem transduce_append_singleton_unfinished :
    let features := FeatureSet.ofGroups "features" ["voice"] 1 (-1) none
    let patterns := [Pattern.ofParts "t" [[-1]] (some "d") (some "T"),
      Pattern.ofParts "tsh" [[1]] none none, Pattern.ofParts "ts-h" [] (some "z") none]
    let encoder := ofPatterns "latin" features patterns
    (∀ pattern ∈ encoder.encoding.patterns,
        pattern.isInert = true ∨ pattern.isReplacement = true) ∧
      (∀ pattern ∈ encoder.encoding.patterns,
        pattern.isInert = false → '-' ∉ pattern.template) ∧
      encoder.transduce "ts-h" =
        { text := (encoder.transduce "ts").text ++ "-" ++ (encoder.transduce "h").text
          repr := (encoder.transduce "ts").repr ++ (encoder.transduce "h").repr
          phones :=
            (encoder.transduce "ts").phones ++ [[0]] ++ (encoder.transduce "h").phones } := by
  intro features patterns encoder
  have hpatterns : ∀ pattern ∈ encoder.encoding.patterns, pattern ∈ patterns :=
    fun _ hmem => (Encoding.perm_byLength patterns).mem_iff.mp hmem
  have hkinds : ∀ pattern ∈ patterns,
      pattern.isInert = true ∨ pattern.isReplacement = true := by
    decide
  have hinputs : ∀ pattern ∈ patterns, pattern.isInert = false → '-' ∉ pattern.template := by
    decide
  have htemplates := fun pattern hmem => hkinds pattern (hpatterns pattern hmem)
  have hc := fun pattern hmem => hinputs pattern (hpatterns pattern hmem)
  have hunset : encoder.features.unsetPhone = [0] := by decide +kernel
  have hdimensions : encoder.features.dimensions ≠ 0 := by
    rw [← FeatureSet.length_unsetPhone, hunset]
    exact Nat.one_ne_zero
  have happend := transduce_append_singleton encoder htemplates hc "ts" "h"
  simp only [hunset, if_neg hdimensions] at happend
  exact ⟨htemplates, hc, happend⟩

end Encoder
end PhoneticSearch
