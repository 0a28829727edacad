import Mathlib.Data.List.Find
import Mathlib.Data.List.Nodup
import PhoneticSearch.Proofs.Encoding.Reading
import PhoneticSearch.Proofs.Encoding.TemplateMatches

/-!
# Rules in any order

* `Pattern.effective`: the patterns that are not inert.
* `Pattern.SameChoices`: two tables answer alike what an encoder asks of them: which replacement
  fits, which template fits, and which characters only modify others.
* `Encoder.ReadsAs`: two encoders give every text the same transduction.
* `Pattern.sameChoices_of_perm`: effective patterns may come in any order if no two replacements
  have the same input and no two templates the same length.
* `Encoder.readsAs_of_effective`: so encoders over such tables read alike.
-/

namespace PhoneticSearch

/-! ## Sorting by length -/

theorem Encoding.find?_byLength_of_length_eq {patterns : List Pattern} {p : Pattern → Bool}
    (h : ∀ a ∈ patterns, ∀ b ∈ patterns, p a = true → p b = true → a.length = b.length) :
    (byLength patterns).find? p = patterns.find? p := by
  have hperm := perm_byLength patterns
  cases hfind : patterns.find? p with
  | none =>
    rw [List.find?_eq_none] at hfind ⊢
    intro pattern hmem
    exact hfind pattern (hperm.mem_iff.mp hmem)
  | some found =>
    have hfound : p found = true := List.find?_some hfind
    have hmem : found ∈ patterns := List.mem_of_find?_eq_some hfind
    -- All that `p` holds of have the length of `found`, and those of one length stay in order.
    have hlength : ∀ pattern ∈ patterns,
        p pattern = (pattern.length == found.length && p pattern) := by
      intro pattern hpattern
      cases hp : p pattern with
      | false => simp
      | true => simp [h pattern hpattern found hmem hp hfound]
    rw [← hfind, List.find?_congr hlength,
      List.find?_congr fun pattern hpattern => hlength pattern (hperm.mem_iff.mp hpattern)]
    exact find?_byLength patterns p found.length

namespace Pattern

/-! ## The first of the longest -/

variable {patterns others : List Pattern}

/-- Two patterns than which no other is longer are equally long. -/
theorem length_eq_of_longest {fitting : List Pattern} {a b : Pattern} (ha : a ∈ fitting)
    (hb : b ∈ fitting)
    (ha' : (fitting.all fun other => decide (other.length ≤ a.length)) = true)
    (hb' : (fitting.all fun other => decide (other.length ≤ b.length)) = true) :
    a.length = b.length := by
  rw [List.all_eq_true] at ha' hb'
  have hle := of_decide_eq_true (ha' b hb)
  have hge := of_decide_eq_true (hb' a ha)
  omega

theorem firstLongest_byLength (patterns : List Pattern) (fits : Pattern → Bool) :
    firstLongest ((Encoding.byLength patterns).filter fits) =
      firstLongest (patterns.filter fits) := by
  have hperm := (Encoding.perm_byLength patterns).filter fits
  simp only [firstLongest, hperm.all_eq, List.find?_filter]
  apply Encoding.find?_byLength_of_length_eq
  intro a ha b hb ha' hb'
  rw [decide_eq_true_eq] at ha' hb'
  exact length_eq_of_longest (List.mem_filter.mpr ⟨ha, ha'.1⟩) (List.mem_filter.mpr ⟨hb, hb'.1⟩)
    ha'.2 hb'.2

/-- The order of patterns is of no account if no two have the same length. -/
theorem firstLongest_perm {fitting others : List Pattern} (hperm : fitting.Perm others)
    (hlength : ∀ a ∈ fitting, ∀ b ∈ fitting, a.length = b.length → a = b) :
    firstLongest fitting = firstLongest others := by
  simp only [firstLongest, ← hperm.all_eq]
  apply List.find?_eq_find?_of_perm hperm
  rintro a ⟨ha, ha'⟩ b ⟨hb, hb'⟩
  exact hlength a ha b hb (length_eq_of_longest ha hb ha' hb')

/-! ## What an encoder asks of its table -/

/-- The patterns that are not inert. -/
def effective (patterns : List Pattern) : List Pattern :=
  patterns.filter fun pattern => !pattern.isInert

theorem filter_effective {p : Pattern → Bool}
    (h : ∀ pattern, p pattern = true → pattern.isInert = false) (patterns : List Pattern) :
    (effective patterns).filter p = patterns.filter p := by
  rw [effective, List.filter_filter]
  apply List.filter_congr
  intro pattern _
  cases hp : p pattern with
  | false => rfl
  | true => simp [h pattern hp]

theorem isInert_of_fits {pattern : Pattern} {text : List Char} (h : pattern.fits text = true) :
    pattern.isInert = false := by
  simp only [fits, Bool.and_eq_true, Bool.not_eq_true'] at h
  exact h.1.1

theorem isInert_of_overlies {pattern : Pattern} {text : List Char}
    (h : pattern.overlies text = true) : pattern.isInert = false := by
  simp only [overlies, Bool.and_eq_true, Bool.not_eq_true'] at h
  exact h.1.1

theorem isInert_of_modifies {pattern : Pattern} {c : Char} (h : pattern.modifies c = true) :
    pattern.isInert = false := by
  simp only [modifies, Bool.and_eq_true, Bool.not_eq_true'] at h
  exact h.1.1.1

/-- Replacements of one length that fit the same text have the same input. -/
theorem input_eq_of_fits {a b : Pattern} {text : List Char} (ha : a.fits text = true)
    (hb : b.fits text = true) (hlength : a.length = b.length) : a.input = b.input := by
  simp only [fits, Bool.and_eq_true, List.isPrefixOf_iff_prefix] at ha hb
  have hstart := List.prefix_of_prefix_length_le ha.2 hb.2 (Nat.le_of_eq hlength)
  exact String.toList_inj.mp (hstart.eq_of_length hlength)

/-- Two tables that answer alike what an encoder asks of them. -/
structure SameChoices (patterns others : List Pattern) : Prop where
  replacement : ∀ text, choose? patterns text = choose? others text
  template : ∀ text, chooseTemplate? patterns text = chooseTemplate? others text
  modifies : ∀ c, (patterns.any fun pattern => pattern.modifies c) =
    others.any fun pattern => pattern.modifies c

theorem any_modifies_effective (patterns : List Pattern) (c : Char) :
    ((effective patterns).any fun pattern => pattern.modifies c) =
      patterns.any fun pattern => pattern.modifies c := by
  rw [Bool.eq_iff_iff, List.any_eq_true, List.any_eq_true]
  constructor
  · rintro ⟨pattern, hmem, hmodifies⟩
    exact ⟨pattern, (List.mem_filter.mp hmem).1, hmodifies⟩
  · rintro ⟨pattern, hmem, hmodifies⟩
    refine ⟨pattern, List.mem_filter.mpr ⟨hmem, ?_⟩, hmodifies⟩
    simp [isInert_of_modifies hmodifies]

/-- Inert patterns are never chosen, wherever they stand. -/
theorem sameChoices_effective (patterns : List Pattern) :
    SameChoices (effective patterns) patterns where
  replacement _ := congrArg firstLongest (filter_effective (fun _ => isInert_of_fits) patterns)
  template _ := congrArg firstLongest (filter_effective (fun _ => isInert_of_overlies) patterns)
  modifies := any_modifies_effective patterns

theorem SameChoices.symm (h : SameChoices patterns others) : SameChoices others patterns where
  replacement text := (h.replacement text).symm
  template text := (h.template text).symm
  modifies c := (h.modifies c).symm

theorem SameChoices.trans {third : List Pattern} (h : SameChoices patterns others)
    (h' : SameChoices others third) : SameChoices patterns third where
  replacement text := (h.replacement text).trans (h'.replacement text)
  template text := (h.template text).trans (h'.template text)
  modifies c := (h.modifies c).trans (h'.modifies c)

theorem sameChoices_of_perm (hperm : patterns.Perm others)
    (hinputs : ((patterns.filter isReplacement).map input).Nodup)
    (hlengths : ((patterns.filter fun pattern => !pattern.isReplacement).map length).Nodup) :
    SameChoices patterns others where
  replacement text := by
    apply firstLongest_perm (hperm.filter fun pattern => pattern.fits text)
    intro a ha b hb hlength
    obtain ⟨ha, hfits⟩ := List.mem_filter.mp ha
    obtain ⟨hb, hfits'⟩ := List.mem_filter.mp hb
    have hkind : a.isReplacement = true ∧ b.isReplacement = true := by
      simp only [fits, Bool.and_eq_true] at hfits hfits'
      exact ⟨hfits.1.2, hfits'.1.2⟩
    exact List.inj_on_of_nodup_map hinputs (List.mem_filter.mpr ⟨ha, hkind.1⟩)
      (List.mem_filter.mpr ⟨hb, hkind.2⟩) (input_eq_of_fits hfits hfits' hlength)
  template text := by
    apply firstLongest_perm (hperm.filter fun pattern => pattern.overlies text)
    intro a ha b hb hlength
    obtain ⟨ha, hfits⟩ := List.mem_filter.mp ha
    obtain ⟨hb, hfits'⟩ := List.mem_filter.mp hb
    simp only [overlies, Bool.and_eq_true] at hfits hfits'
    exact List.inj_on_of_nodup_map hlengths (List.mem_filter.mpr ⟨ha, hfits.1.2⟩)
      (List.mem_filter.mpr ⟨hb, hfits'.1.2⟩) hlength
  modifies c := hperm.any_eq

end Pattern

/-! ## Encoders over such tables -/

/-- Rules that find the same matches everywhere cut every row alike. -/
theorem Segment.segments_congr {ρ α : Type} {automaton : ρ → Automaton} {rules others : List ρ}
    {char : α → Char}
    (h : ∀ row, longestMatch automaton rules char row = longestMatch automaton others char row)
    (row : List α) :
    segments automaton rules char row = segments automaton others char row := by
  fun_induction segments automaton rules char row with
  | case1 => rw [segments]
  | case2 item rest rule length hmatch ih =>
    rw [h] at hmatch
    rw [segments, hmatch, ih]
  | case3 item rest hmatch ih =>
    rw [h] at hmatch
    rw [segments, hmatch, ih]

namespace Encoder

/-- Two encoders give every text the same transduction, and take the same characters for
modifiers. -/
def ReadsAs (first second : Encoder) : Prop :=
  (∀ source, first.transduce source = second.transduce source) ∧
    ∀ c, first.isModifier c = second.isModifier c

open Pattern

variable {name other : String} {features : FeatureSet} {patterns others : List Pattern}

theorem longestMatch_templates_ofPatterns {α : Type} (char : α → Char) (row : List α) :
    Segment.longestMatch Rule.automaton (ofPatterns name features patterns).rules.templates char
        row =
      (chooseTemplate? patterns (row.map char)).map fun pattern =>
        (Rule.ofPattern pattern, pattern.length) := by
  rw [rules_ofPatterns, Segment.longestMatch_templates, chooseTemplate?, firstLongest_byLength]
  rfl

theorem segments_eq_of_sameChoices (h : SameChoices patterns others) (name other : String)
    (features : FeatureSet) (source : List Char) :
    (ofPatterns name features patterns).segments source =
      (ofPatterns other features others).segments source := by
  apply Segment.segments_congr
  intro row
  rw [longestMatch_replacements, longestMatch_replacements, h.replacement]

theorem overlays_eq_of_sameChoices (h : SameChoices patterns others) (cells : List Cell) :
    (ofPatterns name features patterns).overlays cells =
      (ofPatterns other features others).overlays cells := by
  rw [overlays, overlays]
  congr 1
  apply Segment.segments_congr
  intro row
  rw [longestMatch_templates_ofPatterns, longestMatch_templates_ofPatterns, h.template]

theorem readsAs_of_sameChoices (h : SameChoices patterns others) :
    (ofPatterns name features patterns).ReadsAs (ofPatterns other features others) := by
  have hmodifier : ∀ c, (ofPatterns name features patterns).isModifier c =
      (ofPatterns other features others).isModifier c := by
    intro c
    rw [isModifier_ofPatterns, isModifier_ofPatterns, h.modifies]
  have hcell : (ofPatterns name features patterns).cellOf =
      (ofPatterns other features others).cellOf := by
    funext segment
    cases segment with
    | covered rule items => rfl
    | bare c => rw [cellOf, cellOf, barePhone, barePhone, hmodifier]; rfl
  have hoverlaid : ∀ cells, (ofPatterns name features patterns).overlaid cells =
      (ofPatterns other features others).overlaid cells := by
    intro cells
    rw [overlaid, overlaid, overlays_eq_of_sameChoices h]
    rfl
  refine ⟨fun source => ?_, hmodifier⟩
  simp only [transduce, segments_eq_of_sameChoices h name other, hcell, hoverlaid]

/-- A transduction depends on the effective patterns only; and on their set only, if no two
replacements among them have the same input and no two templates the same length. -/
theorem readsAs_of_effective (name other : String) (features : FeatureSet)
    (patterns others : List Pattern) :
    (effective patterns = effective others →
        (ofPatterns name features patterns).ReadsAs (ofPatterns other features others)) ∧
      ((effective patterns).Perm (effective others) →
        (((effective patterns).filter isReplacement).map input).Nodup →
          (((effective patterns).filter fun pattern => !pattern.isReplacement).map length).Nodup →
            (ofPatterns name features patterns).ReadsAs (ofPatterns other features others)) := by
  refine ⟨fun heq => ?_, fun hperm hinputs hlengths => ?_⟩
  · have hsame := sameChoices_effective others
    rw [← heq] at hsame
    exact readsAs_of_sameChoices ((sameChoices_effective patterns).symm.trans hsame)
  · exact readsAs_of_sameChoices (((sameChoices_effective patterns).symm.trans
      (sameChoices_of_perm hperm hinputs hlengths)).trans (sameChoices_effective others))

/-- Two tables in opposite orders, with inert patterns of both sorts at different places. -/
theorem readsAs_of_effective_reversed :
    let features := FeatureSet.ofGroups "features" ["voice"] 1 (-1) none
    let short := Pattern.ofParts "t" [[-1]] (some "d") none
    let long := Pattern.ofParts "ts" [[-1], [1]] none (some "z")
    let aspirated := Pattern.ofParts "_h" [[1]] none none
    let lengthened := Pattern.ofParts "_:h" [[1], [-1]] none none
    let unvoiced := Pattern.ofParts "s" [] (some "z") none
    let blank := Pattern.ofParts "" [[1]] none none
    let patterns := [blank, short, unvoiced, long, aspirated, lengthened]
    let others := [lengthened, aspirated, long, short, unvoiced, unvoiced]
    effective patterns = effective [short, long, aspirated, lengthened] ∧
      (ofPatterns "latin" features patterns).transduce "tsh:ht" =
        (ofPatterns "latin" features [short, long, aspirated, lengthened]).transduce "tsh:ht" ∧
      (effective patterns).Perm (effective others) ∧
        (((effective patterns).filter isReplacement).map input).Nodup ∧
          (((effective patterns).filter fun pattern => !pattern.isReplacement).map length).Nodup ∧
            (ofPatterns "latin" features patterns).transduce "tsh:ht" =
              (ofPatterns "greek" features others).transduce "tsh:ht" := by
  intro features short long aspirated lengthened unvoiced blank patterns others
  obtain ⟨hdrop, -⟩ := readsAs_of_effective "latin" "latin" features patterns
    [short, long, aspirated, lengthened]
  obtain ⟨-, hshuffle⟩ := readsAs_of_effective "latin" "greek" features patterns others
  have hinert : blank.isInert = true ∧ unvoiced.isInert = true := by decide
  have hlive : short.isInert = false ∧ long.isInert = false ∧ aspirated.isInert = false ∧
      lengthened.isInert = false := by decide
  have hfew : effective [short, long, aspirated, lengthened] =
      [short, long, aspirated, lengthened] := by
    simp [effective, hlive]
  have hpatterns : effective patterns = [short, long, aspirated, lengthened] := by
    simp [effective, patterns, hinert, hlive]
  have hothers : effective others = [short, long, aspirated, lengthened].reverse := by
    simp [effective, others, hinert, hlive]
  have hsame := hpatterns.trans hfew.symm
  have hperm : (effective patterns).Perm (effective others) := by
    rw [hpatterns, hothers]
    exact (List.reverse_perm _).symm
  have hinputs : (((effective patterns).filter isReplacement).map input).Nodup := by decide
  have hlengths :
      (((effective patterns).filter fun pattern => !pattern.isReplacement).map length).Nodup := by
    decide
  exact ⟨hsame, (hdrop hsame).1 _, hperm, hinputs, hlengths,
    (hshuffle hperm hinputs hlengths).1 _⟩

end Encoder
end PhoneticSearch
