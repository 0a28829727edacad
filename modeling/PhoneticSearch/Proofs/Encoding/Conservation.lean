import PhoneticSearch.Proofs.Encoding.Frame
import PhoneticSearch.Proofs.Encoding.PhoneInvariant
import PhoneticSearch.Proofs.Encoding.RuleSet

/-!
# The text of a transduction

* `Encoder.textOf`: the text of a segment, the same for all encoders.
* `Encoder.text_transduce`: the text of a transduction is that of the segments.
* `Encoder.withoutTemplates`: the encoder of the replacements alone.
* `Encoder.transduce_withoutTemplates`: templates have no part in texts, and a text stays as it is
  where no replacement has an output.
-/

namespace PhoneticSearch

namespace Pattern

theorem isReplacement_of_fits {pattern : Pattern} {text : List Char}
    (h : pattern.fits text = true) : pattern.isReplacement = true := by
  simp only [fits, Bool.and_eq_true] at h
  exact h.1.2

/-- Templates are never chosen for replacements. -/
theorem choose?_filter_isReplacement (patterns : List Pattern) (text : List Char) :
    choose? (patterns.filter isReplacement) text = choose? patterns text := by
  have hfilter : (patterns.filter isReplacement).filter (fun pattern => pattern.fits text) =
      patterns.filter fun pattern => pattern.fits text := by
    rw [List.filter_filter]
    apply List.filter_congr
    intro pattern _
    cases hfits : pattern.fits text with
    | false => rfl
    | true => rw [isReplacement_of_fits hfits, Bool.and_self]
  rw [choose?, choose?, hfilter]

end Pattern

namespace Encoder

/-- The text of a segment: an output takes the place of the characters that its pattern covers. -/
def textOf : Segment Rule Char → List Char
  | .covered rule items => (rule.pattern.output.map String.toList).getD items
  | .bare c => [c]

variable (encoder : Encoder)

theorem text_cellOf (segment : Segment Rule Char) :
    (encoder.cellOf segment).text = textOf segment := by
  cases segment with
  | covered rule items =>
    rw [cellOf, textOf]
    cases rule.pattern.output <;> rfl
  | bare c => rfl

/-- The template pass changes phones only. -/
theorem text_transduce (source : String) :
    (encoder.transduce source).text =
      String.ofList ((encoder.segments source.toList).flatMap textOf) := by
  have hcells : ∀ cells, (encoder.overlaid cells).flatMap Cell.text = cells.flatMap Cell.text := by
    intro cells
    rw [List.flatMap_def, List.flatMap_def, map_text_overlaid]
  have hsegments : ∀ segments : List (Segment Rule Char),
      (segments.map encoder.cellOf).flatMap Cell.text = segments.flatMap textOf := by
    intro segments
    rw [List.flatMap_map]
    exact List.flatMap_congr fun segment _ => encoder.text_cellOf segment
  simp only [transduce, hcells, hsegments]

/-- The encoder of the same patterns without the templates. -/
def withoutTemplates : Encoder :=
  ofPatterns encoder.encoding.name encoder.features
    (encoder.encoding.patterns.filter Pattern.isReplacement)

theorem segments_withoutTemplates (source : List Char) :
    encoder.withoutTemplates.segments source = encoder.segments source := by
  apply Segment.segments_congr
  intro row
  rw [withoutTemplates, longestMatch_replacements, Pattern.choose?_filter_isReplacement,
    encoder.rules_eq, Segment.longestMatch_ofPatterns]

theorem mem_patterns_of_covered {source items : List Char} {rule : Rule}
    (h : .covered rule items ∈ encoder.segments source) :
    rule.pattern ∈ encoder.encoding.patterns ∧ rule.pattern.isInert = false ∧
      rule.pattern.isReplacement = true := by
  have hrule : rule ∈ encoder.rules.replacements := Segment.rule_mem _ _ _ h
  rw [encoder.rules_eq, RuleTable.replacements_ofPatterns, List.mem_map] at hrule
  obtain ⟨pattern, hpattern, rfl⟩ := hrule
  rw [List.mem_filter, Bool.and_eq_true, Bool.not_eq_true'] at hpattern
  exact ⟨hpattern.1, hpattern.2.2, hpattern.2.1⟩

/-- No character is lost and none comes twice, whatever the patterns that cover the source. -/
theorem flatMap_textOf_segments
    (h : ∀ pattern ∈ encoder.encoding.patterns, pattern.isInert = false →
      pattern.isReplacement = true → pattern.output = none) (source : List Char) :
    (encoder.segments source).flatMap textOf = source := by
  have htext : ∀ segment ∈ encoder.segments source, textOf segment = segment.items := by
    intro segment hmem
    cases segment with
    | covered rule items =>
      obtain ⟨hpattern, hlive, hkind⟩ := encoder.mem_patterns_of_covered hmem
      rw [textOf, h rule.pattern hpattern hlive hkind]
      rfl
    | bare c => rfl
  calc (encoder.segments source).flatMap textOf
      = (encoder.segments source).flatMap Segment.items := List.flatMap_congr htext
    _ = source := Segment.flatMap_items _ _ _ source

/-- Templates have no part in the text and in the secondary transliteration; and if no pattern that
replaces anything has an output, the text is the source. -/
theorem transduce_withoutTemplates (source : String) :
    (encoder.transduce source).text = (encoder.withoutTemplates.transduce source).text ∧
      (encoder.transduce source).repr = (encoder.withoutTemplates.transduce source).repr ∧
      ((∀ pattern ∈ encoder.encoding.patterns, pattern.isInert = false →
          pattern.isReplacement = true → pattern.output = none) →
        (encoder.transduce source).text = source) := by
  refine ⟨?_, ?_, fun h => ?_⟩
  · rw [text_transduce, text_transduce, segments_withoutTemplates]
  · simp only [transduce, segments_withoutTemplates]
  · rw [text_transduce, flatMap_textOf_segments encoder h, String.ofList_toList]

/-- Inputs that overlap, one of them with two wildcards and one that is not finished; the outputs
of a template and of an inert pattern are of no account. -/
theorem transduce_withoutTemplates_overlapping :
    let features := FeatureSet.ofGroups "features" ["voice"] 1 (-1) none
    let patterns := [Pattern.ofParts "ʃt" [[-1]] none (some "st"),
      Pattern.ofParts "ʃtʃt" [[1]] none none, Pattern.ofParts "t_ʃ_" [[1], [-1]] none none,
      Pattern.ofParts "_ʰ" [[1]] (some "h") none, Pattern.ofParts "t" [] (some "d") none]
    let encoder := ofPatterns "ipa" features patterns
    (∀ pattern ∈ encoder.encoding.patterns, pattern.isInert = false →
        pattern.isReplacement = true → pattern.output = none) ∧
      (encoder.transduce "ʃtʃʰt_ʃt").text = "ʃtʃʰt_ʃt" := by
  intro features patterns encoder
  have h : ∀ pattern ∈ encoder.encoding.patterns, pattern.isInert = false →
      pattern.isReplacement = true → pattern.output = none := by
    intro pattern hmem
    have houtputs : ∀ pattern ∈ patterns, pattern.isInert = false →
        pattern.isReplacement = true → pattern.output = none := by
      decide
    exact houtputs pattern ((Encoding.perm_byLength patterns).mem_iff.mp hmem)
  exact ⟨h, (transduce_withoutTemplates encoder _).2.2 h⟩

end Encoder
end PhoneticSearch
