import PhoneticSearch.Proofs.FeatureSet.Dimensions
import PhoneticSearch.Proofs.FeatureSet.Override

/-!
# Reading specifications

Each specification of a list is read by itself: it sets the component of the dimension that its
name leads to, or it is an issue, or it is blank.

* `FeatureSet.Spec.WrittenAs`: a text is a specification, with blanks around it.
* `FeatureSet.getElem?_phone`: a component is what the last specification of it says.
* `FeatureSet.Faults`: what is wrong with a text; `FeatureSet.issues_phone`: the issues of a list.
* `FeatureSet.phone_readsExactly`: what is read, and with which issues.
-/

namespace PhoneticSearch

namespace FeatureSet

/-- The text, less the blanks around it, is the sign and the name of the specification. -/
def Spec.WrittenAs (spec : Spec) (text : String) : Prop :=
  isWord spec.name = true ∧ Text.trim text = signText spec.positive ++ spec.name

theorem Spec.ofText?_eq_some_iff {text : String} {spec : Spec} :
    Spec.ofText? text = some spec ↔
      isWord spec.name = true ∧ text = signText spec.positive ++ spec.name := by
  constructor
  · intro h
    unfold Spec.ofText? at h
    split at h
    · next name htext =>
      split at h
      · next hword =>
        obtain rfl := Option.some.inj h
        refine ⟨hword, ?_⟩
        rw [← String.toList_inj]
        simp [htext, signText]
      · cases h
    · next name htext =>
      split at h
      · next hword =>
        obtain rfl := Option.some.inj h
        refine ⟨hword, ?_⟩
        rw [← String.toList_inj]
        simp [htext, signText]
      · cases h
    · cases h
  · rintro ⟨hword, rfl⟩
    exact ofText?_sign_append hword spec.positive

theorem Spec.ofText?_trim_eq_some_iff {text : String} {spec : Spec} :
    Spec.ofText? (Text.trim text) = some spec ↔ spec.WrittenAs text :=
  Spec.ofText?_eq_some_iff

/-- A text is at most one specification. -/
theorem Spec.WrittenAs.unique {text : String} {spec other : Spec} (h : spec.WrittenAs text)
    (hother : other.WrittenAs text) : spec = other := by
  rw [← Spec.ofText?_trim_eq_some_iff] at h hother
  exact Option.some.inj (h.symm.trans hother)

theorem Spec.WrittenAs.trim_ne_empty {text : String} {spec : Spec} (h : spec.WrittenAs text) :
    Text.trim text ≠ "" := by
  rw [h.2]
  cases spec.positive <;> simp [signText]

variable (set : FeatureSet)

/-! ## Components -/

/-- What a text says of a dimension. -/
def valueOf? (i : Nat) (text : String) : Option Float :=
  (Spec.ofText? (Text.trim text)).bind fun spec =>
    if set.index.lookup (Text.upper spec.name) = some i then some (set.signed spec.positive)
    else none

/-- A text changes the components that it says something of. -/
theorem Described.getElem?_add (described : Described) (text : String) (i : Nat) :
    (described.add set text).phone[i]? =
      described.phone[i]?.map fun value => (set.valueOf? i text).getD value := by
  unfold Described.add valueOf?
  dsimp only
  split
  · next hblank =>
    have hnone : Spec.ofText? (Text.trim text) = none := by
      rw [eq_of_beq hblank]
      rfl
    simp [hnone]
  · split
    · next hspec => simp [hspec]
    · next positive name hspec =>
      rw [hspec, Option.bind_some]
      cases set.index.lookup (Text.upper name) with
      | none => simp
      | some dimension =>
        rw [List.getElem?_set, if_congr Option.some_inj rfl rfl]
        split
        · next hdimension =>
          subst hdimension
          by_cases hlt : dimension < described.phone.length
          · rw [if_pos hlt, List.getElem?_eq_getElem hlt]
            rfl
          · rw [if_neg hlt, List.getElem?_eq_none (Nat.le_of_not_lt hlt)]
            rfl
        · simp

theorem getElem?_phone (hindex : set.index ≠ []) (specs : List String) (i : Nat) :
    (set.phone specs).phone[i]? = set.unsetPhone[i]?.map fun value =>
      (specs.filterMap (set.valueOf? i)).getLast?.getD value := by
  have hnames : set.index.isEmpty = false := by simpa using hindex
  rw [phone, hnames, if_neg Bool.false_ne_true]
  exact foldl_lastWritten (fun described : Described => described.phone[i]?) (set.valueOf? i)
    (fun described text => described.getElem?_add set text i) specs ⟨set.unsetPhone, []⟩

/-! ## Issues -/

/-- The issue of a text: it is not blank and no specification, or its name leads to nothing. -/
def issue? (text : String) : Option Issue :=
  if Text.trim text = "" then none
  else
    (Spec.ofText? (Text.trim text)).elim (some (.invalidFeatureSpec (Text.trim text))) fun spec =>
      if set.index.lookup (Text.upper spec.name) = none then some (.unknownFeatureName spec.name)
      else none

theorem Described.issues_add (described : Described) (text : String) :
    (described.add set text).issues = described.issues ++ (set.issue? text).toList := by
  unfold Described.add issue?
  dsimp only
  split
  · next hblank => simp [eq_of_beq hblank]
  · next hblank =>
    rw [if_neg (by simpa using hblank)]
    split
    · next hspec => simp [hspec]
    · next positive name hspec =>
      rw [hspec, Option.elim_some]
      cases set.index.lookup (Text.upper name) <;> simp

theorem issues_phone (hindex : set.index ≠ []) (specs : List String) :
    (set.phone specs).issues = specs.filterMap set.issue? := by
  have hrun : ∀ described : Described, (specs.foldl (Described.add set) described).issues =
      described.issues ++ specs.filterMap set.issue? := by
    induction specs with
    | nil => simp
    | cons text rest ih =>
      intro described
      rw [List.foldl_cons, ih, Described.issues_add, List.append_assoc]
      cases hissue : set.issue? text <;> simp [hissue]
  have hnames : set.index.isEmpty = false := by simpa using hindex
  rw [phone, hnames, if_neg Bool.false_ne_true, hrun, List.nil_append]

/-! ## Specifications of the dimensions -/

/-- The text is a specification of the dimension. -/
def Specifies (dimension : Nat) (text : String) (spec : Spec) : Prop :=
  spec.WrittenAs text ∧ set.Names spec.name dimension

/-- Of the specifications of a dimension in a list, it is the last one. -/
def IsLast (dimension : Nat) (specs : List String) (spec : Spec) : Prop :=
  ∃ before text after, specs = before ++ text :: after ∧ set.Specifies dimension text spec ∧
    ∀ later ∈ after, ∀ other, ¬ set.Specifies dimension later other

/-- What is wrong with a text. -/
inductive Faults (text : String) : Issue → Prop where
  | malformed : Text.trim text ≠ "" → (∀ spec : Spec, ¬ spec.WrittenAs text) →
      Faults text (.invalidFeatureSpec (Text.trim text))
  | unknown {spec : Spec} : spec.WrittenAs text → (∀ dimension, ¬ set.Names spec.name dimension) →
      Faults text (.unknownFeatureName spec.name)

variable {set} in
theorem Faults.not_specifies {text : String} {issue : Issue} (hfaults : set.Faults text issue)
    (dimension : Nat) (spec : Spec) : ¬ set.Specifies dimension text spec := by
  rintro ⟨hspec, hdimension⟩
  cases hfaults with
  | malformed _ hform => exact hform spec hspec
  | unknown hother hnone =>
    obtain rfl := hspec.unique hother
    exact hnone dimension hdimension

/-- Some dimension has a name that can be used. -/
def HasName : Prop := ∃ group ∈ set.groups, ∃ word ∈ aliases group, isWord word = true

/-- The index leads each name to the dimension that it names. -/
structure Resolves : Prop where
  lookup_eq_some_iff : ∀ {word : String} {dimension : Nat},
    set.index.lookup (Text.upper word) = some dimension ↔ set.Names word dimension
  index_ne_nil_iff : set.index ≠ [] ↔ set.HasName

theorem resolves_ofGroups (name : String) (groups : List String) (plus minus : Float)
    (unset : Option Float) : (ofGroups name groups plus minus unset).Resolves where
  lookup_eq_some_iff := FeatureSet.lookup_eq_some_iff
  index_ne_nil_iff := by
    refine index_bindAll_ne_nil_iff_exists_word.trans ?_
    constructor
    · rintro ⟨⟨word, i⟩, hmem, hword⟩
      obtain ⟨group, hgroup, hname⟩ := mem_namesOf.mp hmem
      exact ⟨group, List.mem_of_getElem? hgroup, word, hname, hword⟩
    · rintro ⟨group, hgroup, word, hname, hword⟩
      obtain ⟨i, hi⟩ := List.mem_iff_getElem?.mp hgroup
      exact ⟨(word, i), mem_namesOf.mpr ⟨group, hi, hname⟩, hword⟩

namespace Resolves

variable {set} (h : set.Resolves)

include h

theorem lookup_eq_none_iff {word : String} :
    set.index.lookup (Text.upper word) = none ↔ ∀ dimension, ¬ set.Names word dimension := by
  rw [Option.eq_none_iff_forall_ne_some]
  simp only [ne_eq, h.lookup_eq_some_iff]

theorem valueOf?_eq_some_iff {i : Nat} {text : String} {value : Float} :
    set.valueOf? i text = some value ↔
      ∃ spec, set.Specifies i text spec ∧ set.signed spec.positive = value := by
  rw [valueOf?, Option.bind_eq_some_iff]
  simp only [Spec.ofText?_trim_eq_some_iff, h.lookup_eq_some_iff, Specifies,
    Option.ite_none_right_eq_some, Option.some.injEq, and_assoc]

theorem valueOf?_eq_none_iff {i : Nat} {text : String} :
    set.valueOf? i text = none ↔ ∀ spec, ¬ set.Specifies i text spec := by
  rw [Option.eq_none_iff_forall_ne_some]
  simp only [ne_eq, h.valueOf?_eq_some_iff, not_exists, not_and]
  exact ⟨fun hall spec hspec => hall _ spec hspec rfl,
    fun hall value spec hspec => absurd hspec (hall spec)⟩

theorem issue?_eq_some_iff {text : String} {issue : Issue} :
    set.issue? text = some issue ↔ set.Faults text issue := by
  unfold issue?
  split
  · next hblank =>
    constructor
    · exact nofun
    · intro hfaults
      cases hfaults with
      | malformed hne => exact absurd hblank hne
      | unknown hspec => exact absurd hblank hspec.trim_ne_empty
  · next hblank =>
    cases hspec : Spec.ofText? (Text.trim text) with
    | none =>
      have hform : ∀ spec : Spec, ¬ spec.WrittenAs text := by
        intro spec
        rw [← Spec.ofText?_trim_eq_some_iff, hspec]
        exact nofun
      rw [Option.elim_none, Option.some_inj]
      constructor
      · rintro rfl
        exact .malformed hblank hform
      · intro hfaults
        cases hfaults with
        | malformed => rfl
        | unknown hwritten => exact absurd hwritten (hform _)
    | some spec =>
      have hwritten : spec.WrittenAs text := Spec.ofText?_trim_eq_some_iff.mp hspec
      rw [Option.elim_some, Option.ite_none_right_eq_some, h.lookup_eq_none_iff, Option.some_inj]
      constructor
      · rintro ⟨hname, rfl⟩
        exact .unknown hwritten hname
      · intro hfaults
        cases hfaults with
        | malformed _ hform => exact absurd hwritten (hform spec)
        | unknown hother hname =>
          obtain rfl := hwritten.unique hother
          exact ⟨hname, rfl⟩

/-- The last specification of a dimension counts. -/
theorem getElem?_phone_of_isLast (hname : set.HasName) {specs : List String} {i : Nat} {spec : Spec}
    (hlast : set.IsLast i specs spec) :
    (set.phone specs).phone[i]? = some (set.signed spec.positive) := by
  obtain ⟨before, text, after, rfl, hspec, hafter⟩ := hlast
  have hvalue : set.valueOf? i text = some (set.signed spec.positive) :=
    h.valueOf?_eq_some_iff.mpr ⟨spec, hspec, rfl⟩
  have hrest : after.filterMap (set.valueOf? i) = [] :=
    List.filterMap_eq_nil_iff.mpr fun later hlater =>
      h.valueOf?_eq_none_iff.mpr (hafter later hlater)
  rw [set.getElem?_phone (h.index_ne_nil_iff.mpr hname), unsetPhone,
    List.getElem?_replicate_of_lt hspec.2.lt_dimensions, List.filterMap_append,
    List.filterMap_cons_some hvalue, hrest, List.getLast?_concat]
  rfl

theorem getElem?_phone_of_unspecified (hname : set.HasName) {specs : List String} {i : Nat}
    (hi : i < set.dimensions) (hnone : ∀ text ∈ specs, ∀ spec, ¬ set.Specifies i text spec) :
    (set.phone specs).phone[i]? = some set.unset := by
  have hvalues : specs.filterMap (set.valueOf? i) = [] :=
    List.filterMap_eq_nil_iff.mpr fun text htext => h.valueOf?_eq_none_iff.mpr (hnone text htext)
  rw [set.getElem?_phone (h.index_ne_nil_iff.mpr hname), unsetPhone,
    List.getElem?_replicate_of_lt hi, hvalues]
  rfl

/-- A text that is wrong changes nothing. -/
theorem phone_of_faults (hname : set.HasName) {before after : List String} {text : String}
    {issue : Issue} (hfaults : set.Faults text issue) :
    (set.phone (before ++ text :: after)).phone = (set.phone (before ++ after)).phone := by
  have hindex := h.index_ne_nil_iff.mpr hname
  refine List.ext_getElem? fun i => ?_
  have hvalue : set.valueOf? i text = none := h.valueOf?_eq_none_iff.mpr (hfaults.not_specifies i)
  rw [set.getElem?_phone hindex, set.getElem?_phone hindex, List.filterMap_append,
    List.filterMap_append, List.filterMap_cons_none hvalue]

end Resolves

/-- What a feature set reads from a list of specifications.

With a name that can be used:

* each component is plus or minus by the last specification of its dimension, and unset if there is
  none;
* the issues are those of the texts, each by itself, in order; a text that is wrong changes nothing.

Without such a name all is unset, and this is the only issue. -/
theorem phone_readsExactly (name : String) (groups : List String) (plus minus : Float)
    (unset : Option Float) (specs : List String) :
    let set := ofGroups name groups plus minus unset
    (set.HasName →
      (set.phone specs).phone.length = set.dimensions ∧
      (∀ i spec, set.IsLast i specs spec →
        (set.phone specs).phone[i]? = some (set.signed spec.positive)) ∧
      (∀ i < set.dimensions, (∀ text ∈ specs, ∀ spec, ¬ set.Specifies i text spec) →
        (set.phone specs).phone[i]? = some set.unset) ∧
      (∀ text issue, set.issue? text = some issue ↔ set.Faults text issue) ∧
      (set.phone specs).issues = specs.filterMap set.issue? ∧
      ∀ before text after issue, specs = before ++ text :: after → set.Faults text issue →
        (set.phone specs).phone = (set.phone (before ++ after)).phone) ∧
    (¬ set.HasName → set.phone specs = ⟨set.unsetPhone, [.noFeatures]⟩) := by
  intro set
  have h : set.Resolves := resolves_ofGroups name groups plus minus unset
  constructor
  · intro hname
    refine ⟨set.length_phone specs, fun i spec => h.getElem?_phone_of_isLast hname,
      fun i => h.getElem?_phone_of_unspecified hname, fun text issue => h.issue?_eq_some_iff,
      set.issues_phone (h.index_ne_nil_iff.mpr hname) specs, ?_⟩
    rintro before text after issue rfl hfaults
    exact h.phone_of_faults hname hfaults
  · intro hname
    have hindex : set.index = [] := by
      by_contra hne
      exact hname (h.index_ne_nil_iff.mp hne)
    rw [phone, hindex]
    rfl

theorem ofGroups_eq_nasalVoiced :
    ofGroups "features" ["voi,voiced", "nasal"] 1 (-1) none = nasalVoiced := by
  have hperm : (canonical ["voi,voiced", "nasal"]).Perm ["nasal", "voi,voiced"] :=
    (perm_canonical _).trans (by decide)
  have hcanonical : canonical ["voi,voiced", "nasal"] = ["nasal", "voi,voiced"] :=
    hperm.eq_of_pairwise (fun _ _ _ _ => String.le_antisymm) (pairwise_canonical _) (by decide)
  rw [ofGroups, hcanonical]
  rfl

theorem hasName_nasalVoiced : nasalVoiced.HasName :=
  ⟨"nasal", .head _, "nasal", by decide, by decide⟩

theorem names_nasalVoiced {word : String} {dimension : Nat}
    (h : nasalVoiced.index.lookup (Text.upper word) = some dimension) :
    nasalVoiced.Names word dimension := by
  rw [← ofGroups_eq_nasalVoiced] at h ⊢
  exact lookup_eq_some_iff.mp h

/-- Of two specifications that contradict each other the later one counts, whatever is between
them. -/
theorem phone_readsExactly_contradicting :
    ofGroups "features" ["voi,voiced", "nasal"] 1 (-1) none = nasalVoiced ∧
      nasalVoiced.HasName ∧
      nasalVoiced.IsLast 1 [" +Voiced ", "nasal", "-foo", "-VOI", ""] ⟨false, "VOI"⟩ ∧
      (nasalVoiced.phone [" +Voiced ", "nasal", "-foo", "-VOI", ""]).phone[1]? =
        some nasalVoiced.minus ∧
      (nasalVoiced.phone [" +Voiced ", "nasal", "-foo", "-VOI", ""]).issues =
        [.invalidFeatureSpec "nasal", .unknownFeatureName "foo"] := by
  have hlast : nasalVoiced.IsLast 1 [" +Voiced ", "nasal", "-foo", "-VOI", ""] ⟨false, "VOI"⟩ := by
    refine ⟨[" +Voiced ", "nasal", "-foo"], "-VOI", [""], rfl, ⟨?_, ?_⟩, ?_⟩
    · exact ⟨by decide, by decide⟩
    · exact names_nasalVoiced (by rfl)
    · rintro later hlater other ⟨hother, -⟩
      obtain rfl := List.mem_singleton.mp hlater
      exact hother.trim_ne_empty (by decide)
  have hread := phone_readsExactly "features" ["voi,voiced", "nasal"] 1 (-1) none
    [" +Voiced ", "nasal", "-foo", "-VOI", ""]
  rw [ofGroups_eq_nasalVoiced] at hread
  obtain ⟨-, hcounts, -, -, hissues, -⟩ := hread.1 hasName_nasalVoiced
  exact ⟨ofGroups_eq_nasalVoiced, hasName_nasalVoiced, hlast, hcounts 1 _ hlast,
    hissues.trans (by rfl)⟩

end FeatureSet

end PhoneticSearch
