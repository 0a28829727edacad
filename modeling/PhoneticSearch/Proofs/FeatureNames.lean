import PhoneticSearch.FeatureSet

/-!
# The names of a feature set

* `Text.isBlank_eq_false_of_isWordChar`: no word character is blank, so a name is not trimmed.
* `FeatureSet.exists_name_of_mem_index`: what a feature set knows are words in upper case, each for
  one of its dimensions.
* `FeatureSet.exists_signed_mem_phone`: a set that knows a name describes a phone with a plus, and
  one with a minus.
-/

namespace PhoneticSearch

namespace Text

def blankRanges : CodeRanges :=
  [(0x09, 0x0D), (0x20, 0x20), (0x85, 0x85), (0xA0, 0xA0), (0x1680, 0x1680), (0x2000, 0x200A),
    (0x2028, 0x2029), (0x202F, 0x202F), (0x205F, 0x205F), (0x3000, 0x3000)]

theorem isBlank_eq_contains (c : Char) : isBlank c = blankRanges.contains c := by
  rw [Bool.eq_iff_iff]
  simp only [isBlank, Bool.or_eq_true, Bool.and_eq_true, decide_eq_true_eq, beq_iff_eq,
    CodeRanges.contains, blankRanges, List.any_cons, List.any_nil, Bool.or_false]
  omega

/-- The two classes have no code point in common. -/
theorem isBlank_eq_false_of_isWordChar {c : Char} (h : isWordChar c = true) : isBlank c = false := by
  have hapart : ∀ word ∈ wordRanges, ∀ blank ∈ blankRanges,
      word.2 < blank.1 ∨ blank.2 < word.1 := by
    decide +kernel
  rw [Bool.eq_false_iff, ne_eq, isBlank_eq_contains]
  intro hblank
  obtain ⟨word, hword, hlow, hhigh⟩ := CodeRanges.contains_iff.mp h
  obtain ⟨blank, hmem, hfrom, hto⟩ := CodeRanges.contains_iff.mp hblank
  have := hapart word hword blank hmem
  omega

theorem dropWhile_isBlank_eq_self {text : List Char} (h : ∀ c ∈ text, isBlank c = false) :
    text.dropWhile isBlank = text := by
  cases text with
  | nil => rfl
  | cons c rest => rw [List.dropWhile_cons, h c List.mem_cons_self, if_neg Bool.false_ne_true]

theorem trimChars_eq_self {text : List Char} (h : ∀ c ∈ text, isBlank c = false) :
    trimChars text = text := by
  have hreverse : ∀ c ∈ text.reverse, isBlank c = false := by simpa using h
  rw [trimChars, trimStart, dropWhile_isBlank_eq_self h, trimEnd,
    dropWhile_isBlank_eq_self hreverse, List.reverse_reverse]

end Text

namespace FeatureSet

/-! ## What a set knows -/

/-- An entry of the index: a word in upper case, for a dimension below `count`. -/
def IsNamed (count : Nat) (entry : String × Nat) : Prop :=
  ∃ name, isWord name = true ∧ entry.1 = Text.upper name ∧ entry.2 < count

theorem Binding.isNamed_of_mem_add {binding : Binding} {name : String} {dimension count : Nat}
    (hdimension : dimension < count) (h : ∀ entry ∈ binding.index, IsNamed count entry) :
    ∀ entry ∈ (binding.add name dimension).index, IsNamed count entry := by
  unfold Binding.add
  split
  · exact h
  · rename_i hword
    dsimp only
    split
    · exact h
    · intro entry hentry
      obtain rfl | hold := List.mem_cons.mp hentry
      · exact ⟨name, by simpa using hword, rfl, hdimension⟩
      · exact h entry hold

theorem lt_of_mem_namesOf {groups : List String} {entry : String × Nat}
    (h : entry ∈ namesOf groups) : entry.2 < groups.length := by
  obtain ⟨⟨group, dimension⟩, hgroup, hname⟩ := List.mem_flatMap.mp h
  obtain ⟨name, -, rfl⟩ := List.mem_map.mp hname
  simpa using List.snd_lt_of_mem_zipIdx hgroup

theorem isNamed_of_mem_bindAll (groups : List String) :
    ∀ entry ∈ (bindAll groups).index, IsNamed groups.length entry := by
  have hrun : ∀ (names : List (String × Nat)) (binding : Binding),
      (∀ entry ∈ names, entry.2 < groups.length) →
        (∀ entry ∈ binding.index, IsNamed groups.length entry) →
          ∀ entry ∈ (names.foldl (fun binding entry => binding.add entry.1 entry.2) binding).index,
            IsNamed groups.length entry := by
    intro names
    induction names with
    | nil => exact fun _ _ h => h
    | cons first rest ih =>
      intro binding hnames hbinding
      apply ih
      · exact fun entry hentry => hnames entry (.tail _ hentry)
      · exact Binding.isNamed_of_mem_add (hnames first List.mem_cons_self) hbinding
  exact hrun _ _ (fun entry => lt_of_mem_namesOf) (by simp)

variable {name : String} {groups : List String} {plus minus : Float} {unset : Option Float}

theorem exists_name_of_mem_index {entry : String × Nat}
    (h : entry ∈ (ofGroups name groups plus minus unset).index) :
    IsNamed (ofGroups name groups plus minus unset).dimensions entry :=
  isNamed_of_mem_bindAll _ entry h

/-! ## Specifications -/

def signText (positive : Bool) : String := if positive then "+" else "-"

theorem trim_sign_append {word : String} (h : isWord word = true) (positive : Bool) :
    Text.trim (signText positive ++ word) = signText positive ++ word := by
  simp only [isWord, Bool.and_eq_true, List.all_eq_true] at h
  rw [Text.trim, Text.trimChars_eq_self, String.ofList_toList]
  intro c hc
  rw [String.toList_append, List.mem_append] at hc
  obtain hsign | hword := hc
  · cases positive with
    | true => obtain rfl : c = '+' := by simpa [signText] using hsign
              rfl
    | false => obtain rfl : c = '-' := by simpa [signText] using hsign
               rfl
  · exact Text.isBlank_eq_false_of_isWordChar (h.2 c hword)

theorem ofText?_sign_append {word : String} (h : isWord word = true) (positive : Bool) :
    Spec.ofText? (signText positive ++ word) = some ⟨positive, word⟩ := by
  cases positive with
  | true => simp [Spec.ofText?, signText, h]
  | false => simp [Spec.ofText?, signText, h]

/-- A sign before a known name sets its component. -/
theorem add_sign {set : FeatureSet} {word : String} {dimension : Nat} (hword : isWord word = true)
    (hlookup : set.index.lookup (Text.upper word) = some dimension) (positive : Bool)
    (described : Described) :
    described.add set (signText positive ++ word) =
      { described with phone := described.phone.set dimension (set.signed positive) } := by
  have hspec : (signText positive ++ word == "") = false := by
    cases positive <;> simp [signText]
  rw [Described.add]
  simp only [trim_sign_append hword, hspec, ofText?_sign_append hword, hlookup, Bool.false_eq_true,
    if_false]

theorem phone_sign {set : FeatureSet} {word : String} {dimension : Nat} (hword : isWord word = true)
    (hlookup : set.index.lookup (Text.upper word) = some dimension) (positive : Bool) :
    (set.phone [signText positive ++ word]).phone =
      set.unsetPhone.set dimension (set.signed positive) := by
  have hindex : set.index.isEmpty = false := by
    cases hindex : set.index with
    | nil => simp [hindex] at hlookup
    | cons entry rest => rfl
  rw [phone, hindex, if_neg Bool.false_ne_true, List.foldl_cons, List.foldl_nil,
    add_sign hword hlookup]

/-- A set that knows a name describes a phone with a plus and one with a minus. -/
theorem exists_signed_mem_phone (h : (ofGroups name groups plus minus unset).index ≠ [])
    (positive : Bool) :
    ∃ specs, (ofGroups name groups plus minus unset).signed positive ∈
      ((ofGroups name groups plus minus unset).phone specs).phone := by
  obtain ⟨⟨key, dimension⟩, rest, hindex⟩ := List.exists_cons_of_ne_nil h
  have hentry : (key, dimension) ∈ (ofGroups name groups plus minus unset).index := by
    rw [hindex]
    exact List.mem_cons_self
  obtain ⟨word, hword, hkey, hdimension⟩ := exists_name_of_mem_index hentry
  obtain rfl : key = Text.upper word := hkey
  have hlookup : (ofGroups name groups plus minus unset).index.lookup (Text.upper word) =
      some dimension := by
    rw [hindex, List.lookup_cons_self]
  refine ⟨[signText positive ++ word], ?_⟩
  rw [phone_sign hword hlookup]
  apply List.mem_set
  rw [unsetPhone, List.length_replicate]
  exact hdimension

theorem unset_mem_phone {set : FeatureSet} (h : set.dimensions ≠ 0) :
    set.unset ∈ (set.phone []).phone := by
  have hphone : (set.phone []).phone = set.unsetPhone := by
    unfold phone
    split <;> rfl
  rw [hphone]
  exact List.mem_replicate.mpr ⟨h, rfl⟩

end FeatureSet

end PhoneticSearch
