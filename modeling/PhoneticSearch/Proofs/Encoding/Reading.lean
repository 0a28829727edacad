import PhoneticSearch.Proofs.Encoding.Choice
import PhoneticSearch.Proofs.Encoding.RuleTable

/-!
# Reading by the table of patterns

* `Pattern.choose?`: the pattern that a reader of the table takes at the start of a text.
* `tableReading`: a spelling read by the patterns one after the other, without automata and sorting.
* `Encoder.longestMatch_replacements`: the match that an encoder finds is the choice of the reader.
* `Encoder.transduce_eq_tableReading`: an encoder cuts a spelling as the reader does; without
  templates this is all it does.
-/

namespace PhoneticSearch

namespace Pattern

/-- Whether a pattern replaces what a text begins with. -/
def fits (pattern : Pattern) (text : List Char) : Bool :=
  !pattern.isInert && pattern.isReplacement && pattern.template.isPrefixOf text

/-- The replacements that fit what a text begins with: the first of the longest. -/
def choose? (patterns : List Pattern) (text : List Char) : Option Pattern :=
  firstLongest (patterns.filter fun pattern => pattern.fits text)

end Pattern

/-- The cells of a spelling and its secondary transliteration. -/
structure TableReading where
  cells : List Cell
  repr : List Char

/-- What the cells say, without the phones that only modify others. -/
def TableReading.transduction (reading : TableReading) : Transduction where
  text := String.ofList (reading.cells.flatMap Cell.text)
  repr := String.ofList reading.repr
  phones := (reading.cells.flatMap Cell.phones).filter fun phone => !phone.isEmpty

/-- A spelling read from left to right: a pattern that is chosen gives a cell and is skipped, any
other character gives a cell of its own. -/
def tableReading (features : FeatureSet) (patterns : List Pattern) : List Char → TableReading
  | [] => ⟨[], []⟩
  | c :: rest =>
    match Pattern.choose? patterns (c :: rest) with
    | some pattern =>
      let text := (pattern.output.map String.toList).getD ((c :: rest).take pattern.length)
      let more := tableReading features patterns (rest.drop (pattern.length - 1))
      ⟨⟨text, pattern.phones⟩ :: more.cells, (pattern.repr.map String.toList).getD [] ++ more.repr⟩
    | none =>
      let phone :=
        if patterns.any fun pattern => pattern.modifies c then [] else features.unsetPhone
      let more := tableReading features patterns rest
      ⟨⟨[c], [phone]⟩ :: more.cells, more.repr⟩
termination_by source => source.length
decreasing_by
  · simp only [List.length_drop, List.length_cons]; omega
  · simp

namespace Pattern

variable {pattern : Pattern} {text : List Char}

theorem length_pos_of_fits (h : pattern.fits text = true) : 0 < pattern.length := by
  have hne : pattern.template ≠ [] := by
    rintro hnil
    simp [fits, isInert, hnil] at h
  exact List.length_pos_iff.mpr hne

theorem length_le_of_fits (h : pattern.fits text = true) : pattern.length ≤ text.length := by
  simp only [fits, Bool.and_eq_true, List.isPrefixOf_iff_prefix] at h
  exact h.2.length_le

/-- A replacement matches the first `n` characters of a text if it fits and has this length. -/
theorem matchesText_take (hlive : pattern.isInert = false) (h : pattern.isReplacement = true)
    {n : Nat} (hn : n ≤ text.length) :
    pattern.compile.matchesText (text.take n) = (pattern.length == n && pattern.fits text) := by
  rw [Bool.eq_iff_iff, pattern.matchesText_compile h]
  simp only [fits, hlive, h, Bool.not_false, Bool.true_and, Bool.and_eq_true, beq_iff_eq, true_and,
    List.isPrefixOf_iff_prefix]
  constructor
  · intro htake
    refine ⟨?_, htake ▸ List.take_prefix n text⟩
    rw [length, ← htake, List.length_take, Nat.min_eq_left hn]
  · rintro ⟨rfl, hprefix⟩
    exact (List.prefix_iff_eq_take.mp hprefix).symm

end Pattern

namespace Segment

variable (patterns : List Pattern)

/-- The rules of a table match as its patterns do. -/
theorem matching?_ofPatterns {text : List Char} {n : Nat} (hn : n ≤ text.length) :
    matching? Rule.automaton (RuleTable.ofPatterns patterns).replacements (text.take n) =
      (patterns.find? fun pattern => pattern.length == n && pattern.fits text).map
        Rule.ofPattern := by
  rw [matching?, RuleTable.replacements_ofPatterns, List.find?_map, List.find?_filter]
  congr 2
  funext pattern
  cases hkind : pattern.isReplacement with
  | false => simp [Pattern.fits, hkind]
  | true =>
    cases hlive : pattern.isInert with
    | true => simp [Pattern.fits, hlive]
    | false => simpa using Pattern.matchesText_take hlive hkind hn

/-- The rules of a sorted table match as the patterns of the unsorted one do. -/
theorem matching?_replacements {text : List Char} {n : Nat} (hn : n ≤ text.length) :
    matching? Rule.automaton (RuleTable.ofPatterns (Encoding.byLength patterns)).replacements
        (text.take n) =
      (patterns.find? fun pattern => pattern.length == n && pattern.fits text).map
        Rule.ofPattern := by
  rw [matching?_ofPatterns _ hn, Encoding.find?_byLength]

/-- Rules that match the prefixes of a text as patterns fit it find the choice of a reader of the
patterns. -/
theorem longestMatch_eq_choose? {rules : List Rule} {patterns : List Pattern} {text : List Char}
    (hmatching : ∀ n ≤ text.length, matching? Rule.automaton rules (text.take n) =
      (patterns.find? fun pattern => pattern.length == n && pattern.fits text).map
        Rule.ofPattern) :
    longestMatch Rule.automaton rules id text =
      (Pattern.choose? patterns text).map fun pattern =>
        (Rule.ofPattern pattern, pattern.length) := by
  rw [longestMatch_eq, List.map_id]
  refine longestUpTo_eq_firstLongest ?_ hmatching
  intro pattern _ hfits
  exact ⟨Pattern.length_pos_of_fits hfits, Pattern.length_le_of_fits hfits⟩

theorem longestMatch_ofPatterns (text : List Char) :
    longestMatch Rule.automaton (RuleTable.ofPatterns patterns).replacements id text =
      (Pattern.choose? patterns text).map fun pattern =>
        (Rule.ofPattern pattern, pattern.length) :=
  longestMatch_eq_choose? fun _ hn => matching?_ofPatterns patterns hn

theorem segments_nil {α : Type} (automaton : Rule → Automaton) (char : α → Char) (row : List α) :
    segments automaton [] char row = row.map Segment.bare := by
  induction row with
  | nil => rw [segments]; rfl
  | cons item rest ih =>
    have hnone : longestMatch automaton [] char (item :: rest) = none := by
      rw [longestMatch_eq, longestUpTo_eq_none_iff]
      exact fun _ _ _ => rfl
    rw [segments, hnone, ih]
    rfl

end Segment

namespace Encoder

/-- The encoder of a table of patterns, in any order. -/
def ofPatterns (name : String) (features : FeatureSet) (patterns : List Pattern) : Encoder :=
  ofEncoding (Encoding.ofPatterns name features patterns)

variable (name : String) (features : FeatureSet) (patterns : List Pattern)

@[simp] theorem features_ofPatterns : (ofPatterns name features patterns).features = features := rfl

theorem rules_ofPatterns :
    (ofPatterns name features patterns).rules =
      RuleTable.ofPatterns (Encoding.byLength patterns) := rfl

theorem longestMatch_replacements (text : List Char) :
    Segment.longestMatch Rule.automaton (ofPatterns name features patterns).rules.replacements id
        text =
      (Pattern.choose? patterns text).map fun pattern =>
        (Rule.ofPattern pattern, pattern.length) :=
  Segment.longestMatch_eq_choose? fun _ hn => Segment.matching?_replacements patterns hn

theorem isModifier_ofPatterns (c : Char) :
    (ofPatterns name features patterns).isModifier c =
      patterns.any fun pattern => pattern.modifies c := by
  rw [Bool.eq_iff_iff, List.any_eq_true, isModifier, List.contains_iff_mem, rules_ofPatterns,
    RuleTable.mem_modifiers_ofPatterns]
  simp only [(Encoding.perm_byLength patterns).mem_iff]

theorem cellOf_covered (encoder : Encoder) (pattern : Pattern) (items : List Char) :
    encoder.cellOf (.covered (Rule.ofPattern pattern) items) =
      ⟨(pattern.output.map String.toList).getD items, pattern.phones⟩ := by
  rw [cellOf]
  cases h : pattern.output <;> simp [h]

theorem reprOf_covered (pattern : Pattern) (items : List Char) :
    reprOf (.covered (Rule.ofPattern pattern) items) =
      (pattern.repr.map String.toList).getD [] := by
  rw [reprOf]
  cases h : pattern.repr <;> simp [h]

theorem segments_covered {pattern : Pattern} {c : Char} {rest : List Char}
    (h : Pattern.choose? patterns (c :: rest) = some pattern) :
    (ofPatterns name features patterns).segments (c :: rest) =
      .covered (Rule.ofPattern pattern) ((c :: rest).take pattern.length) ::
        (ofPatterns name features patterns).segments (rest.drop (pattern.length - 1)) := by
  have hmatch := longestMatch_replacements name features patterns (c :: rest)
  rw [h, Option.map_some] at hmatch
  rw [segments, Segment.segments, hmatch]
  rfl

theorem segments_bare {c : Char} {rest : List Char}
    (h : Pattern.choose? patterns (c :: rest) = none) :
    (ofPatterns name features patterns).segments (c :: rest) =
      .bare c :: (ofPatterns name features patterns).segments rest := by
  have hmatch := longestMatch_replacements name features patterns (c :: rest)
  rw [h, Option.map_none] at hmatch
  rw [segments, Segment.segments, hmatch]
  rfl

/-- The replacement pass cuts a spelling as the reader does. -/
theorem segments_eq_tableReading (source : List Char) :
    ((ofPatterns name features patterns).segments source).map
        (ofPatterns name features patterns).cellOf = (tableReading features patterns source).cells ∧
      ((ofPatterns name features patterns).segments source).flatMap reprOf =
        (tableReading features patterns source).repr := by
  fun_induction tableReading features patterns source with
  | case1 =>
    rw [segments, Segment.segments]
    exact ⟨rfl, rfl⟩
  | case2 c rest pattern hchoose text more ih =>
    rw [segments_covered name features patterns hchoose, List.map_cons, List.flatMap_cons,
      cellOf_covered, reprOf_covered, ih.1, ih.2]
    exact ⟨rfl, rfl⟩
  | case3 c rest hchoose phone more ih =>
    rw [segments_bare name features patterns hchoose, List.map_cons, List.flatMap_cons, ih.1, ih.2]
    refine ⟨?_, rfl⟩
    rw [cellOf, barePhone, isModifier_ofPatterns, features_ofPatterns]
    rfl

theorem overlaid_of_templates_nil (encoder : Encoder) (h : encoder.rules.templates = [])
    (cells : List Cell) : encoder.overlaid cells = cells := by
  have hnone : encoder.overlays cells = [] := by
    rw [overlays, h, Segment.segments_nil, List.filterMap_map]
    exact List.filterMap_eq_nil_iff.mpr fun _ _ => rfl
  rw [overlaid, hnone]
  rfl

theorem encode_of_templates_nil (encoder : Encoder) (h : encoder.rules.templates = [])
    (source : String) : encoder.encode source = phonesOf (encoder.cells source.toList) := by
  rw [encode, transduce]
  simp only [overlaid_of_templates_nil encoder h]
  rfl

/-- An encoder reads a spelling by its table: at each place it takes the first of the longest
replacements that fit. If no template matches anything, its result is what the cells of this reading
say. -/
theorem transduce_eq_tableReading :
    (∀ source, (ofPatterns name features patterns).cells source =
        (tableReading features patterns source).cells ∧
      ((ofPatterns name features patterns).segments source).flatMap reprOf =
        (tableReading features patterns source).repr) ∧
    ((∀ pattern ∈ patterns, pattern.isInert = true ∨ pattern.isReplacement = true) →
      ∀ source : String, (ofPatterns name features patterns).transduce source =
        (tableReading features patterns source.toList).transduction) := by
  refine ⟨segments_eq_tableReading name features patterns, fun h source => ?_⟩
  have htemplates : (ofPatterns name features patterns).rules.templates = [] := by
    rw [rules_ofPatterns, RuleTable.templates_ofPatterns, List.map_eq_nil_iff,
      List.filter_eq_nil_iff]
    intro pattern hmem
    rcases h pattern ((Encoding.perm_byLength patterns).mem_iff.mp hmem) with hinert | hkind
    · simp [hinert]
    · simp [hkind]
  obtain ⟨hcells, hrepr⟩ := segments_eq_tableReading name features patterns source.toList
  rw [transduce, TableReading.transduction]
  simp only [overlaid_of_templates_nil _ htemplates, hcells, hrepr, phonesOf, List.filter_flatMap]

/-- A long pattern that stands behind a short one, and text that only begins like it. -/
theorem transduce_eq_tableReading_prefix :
    let features := FeatureSet.ofGroups "features" ["voice"] 1 (-1) none
    let patterns := [Pattern.ofParts "t" [[-1]] none none,
      Pattern.ofParts "tha" [[1]] (some "d") (some "D")]
    (∀ pattern ∈ patterns, pattern.isInert = true ∨ pattern.isReplacement = true) ∧
      (ofPatterns "latin" features patterns).transduce "thath" = ⟨"dth", "D", [[1], [-1], [0]]⟩ := by
  intro features patterns
  have h : ∀ pattern ∈ patterns, pattern.isInert = true ∨ pattern.isReplacement = true := by
    intro pattern hmem
    simp only [patterns, List.mem_cons, List.not_mem_nil, or_false] at hmem
    rcases hmem with rfl | rfl
    · exact .inr (by decide)
    · exact .inr (by decide)
  have hnil : tableReading features patterns [] = ⟨[], []⟩ := by rw [tableReading]
  have hbare : tableReading features patterns ['h'] = ⟨[⟨['h'], [[0]]⟩], []⟩ := by
    have hchoose : Pattern.choose? patterns ['h'] = none := rfl
    have hunset : features.unsetPhone = [0] := by decide +kernel
    have hmodifies : patterns.any (fun pattern => pattern.modifies 'h') = false := rfl
    rw [tableReading, hchoose]
    simp only [hnil, hunset, hmodifies, Bool.false_eq_true, if_false]
  have hshort : tableReading features patterns ['t', 'h'] =
      ⟨[⟨['t'], [[-1]]⟩, ⟨['h'], [[0]]⟩], []⟩ := by
    have hchoose : Pattern.choose? patterns ['t', 'h'] =
        some (.ofParts "t" [[-1]] none none) := rfl
    have hdrop : ['h'].drop ((Pattern.ofParts "t" [[-1]] none none).length - 1) = ['h'] := rfl
    rw [tableReading, hchoose]
    simp only [hdrop, hbare]
    rfl
  have hlong : tableReading features patterns ['t', 'h', 'a', 't', 'h'] =
      ⟨[⟨['d'], [[1]]⟩, ⟨['t'], [[-1]]⟩, ⟨['h'], [[0]]⟩], ['D']⟩ := by
    have hchoose : Pattern.choose? patterns ['t', 'h', 'a', 't', 'h'] =
        some (.ofParts "tha" [[1]] (some "d") (some "D")) := rfl
    have hdrop : ['h', 'a', 't', 'h'].drop
        ((Pattern.ofParts "tha" [[1]] (some "d") (some "D")).length - 1) = ['t', 'h'] := rfl
    rw [tableReading, hchoose]
    simp only [hdrop, hshort]
    rfl
  have htransduce := (transduce_eq_tableReading "latin" features patterns).2 h "thath"
  change _ = (tableReading features patterns ['t', 'h', 'a', 't', 'h']).transduction at htransduce
  rw [hlong] at htransduce
  exact ⟨h, htransduce⟩

end Encoder
end PhoneticSearch
