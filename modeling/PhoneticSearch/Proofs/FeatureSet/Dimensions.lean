import Mathlib.Data.List.Induction
import Mathlib.Order.Bounds.Basic
import PhoneticSearch.Proofs.FeatureSet.NameIndex

/-!
# Names and their dimensions

The dimensions of a feature set are its groups in sorted order. What a name leads to, and what is
wrong with the names, is said of the sorted groups alone, so the configured order does not matter.

* `FeatureSet.canonical_eq_of_perm`: the sorted groups.
* `FeatureSet.Names`: a name belongs to a dimension and to none before it;
  `FeatureSet.lookup_eq_some_iff`: this is what the index says.
* `FeatureSet.issueAfter?`: the issue of a name that is read after others;
  `FeatureSet.issues_bindAll`: all issues.
* `FeatureSet.ofGroups_isCanonical`: a feature set as a whole.
-/

namespace PhoneticSearch

namespace FeatureSet

variable {groups : List String}

/-! ## The order of the dimensions -/

theorem pairwise_canonical (groups : List String) : (canonical groups).Pairwise (· ≤ ·) := by
  have hsorted : (canonical groups).Pairwise fun a b => decide (a ≤ b) = true := by
    refine List.pairwise_mergeSort (fun a b c hab hbc => ?_) (fun a b => ?_) _
    · exact decide_eq_true (String.le_trans (of_decide_eq_true hab) (of_decide_eq_true hbc))
    · simpa using String.le_total a b
  exact hsorted.imp of_decide_eq_true

theorem perm_canonical (groups : List String) :
    (canonical groups).Perm (groups.map Text.trim) :=
  List.mergeSort_perm _ _

/-- A permutation of a sorted list that is sorted as well is the same list. -/
theorem canonical_eq_of_perm {other : List String} (h : groups.Perm other) :
    canonical other = canonical groups := by
  have hperm : (canonical other).Perm (canonical groups) :=
    (perm_canonical other).trans ((h.symm.map Text.trim).trans (perm_canonical groups).symm)
  exact hperm.eq_of_pairwise (fun _ _ _ _ => String.le_antisymm) (pairwise_canonical other)
    (pairwise_canonical groups)

/-! ## What a name leads to -/

/-- The group has a word that in upper case is the key. -/
def holds (key group : String) : Bool :=
  (aliases group).any fun word => isWord word && Text.upper word == key

theorem holds_iff {key group : String} :
    holds key group = true ↔
      ∃ word ∈ aliases group, isWord word = true ∧ Text.upper word = key := by
  simp [holds]

/-- The names of one group: the first that stands for the key, if there is any. -/
theorem find?_names (key group : String) (dimension : Nat) :
    (((aliases group).map fun name => (name, dimension)).find? (binds key)).map Prod.snd =
      if holds key group then some dimension else none := by
  rw [List.find?_map, Option.map_map]
  cases hfind : (aliases group).find? (binds key ∘ fun name => (name, dimension)) with
  | none =>
    have hholds : ¬ holds key group = true := by
      rw [holds_iff]
      rintro ⟨word, hmem, hword, hkey⟩
      have hnone := List.find?_eq_none.mp hfind word hmem
      simp [binds, hword, hkey] at hnone
    rw [if_neg hholds, Option.map_none]
  | some word =>
    have hbinds := List.find?_some hfind
    simp only [Function.comp_apply, binds, Bool.and_eq_true, beq_iff_eq] at hbinds
    have hholds : holds key group = true :=
      holds_iff.mpr ⟨word, List.mem_of_find?_eq_some hfind, hbinds⟩
    rw [if_pos hholds, Option.map_some, Function.comp_apply]

/-- A key leads to the first group that holds it. -/
theorem lookup_bindAll_eq_findIdx? (groups : List String) (key : String) :
    (bindAll groups).index.lookup key = groups.findIdx? (holds key) := by
  have hrun : ∀ first, (((groups.zipIdx first).flatMap fun entry =>
      (aliases entry.1).map fun name => (name, entry.2)).find? (binds key)).map Prod.snd =
        (groups.findIdx? (holds key)).map (· + first) := by
    induction groups with
    | nil => simp
    | cons group rest ih =>
      intro first
      rw [List.zipIdx_cons, List.flatMap_cons, List.find?_append, Option.map_or, find?_names, ih,
        List.findIdx?_cons]
      cases holds key group with
      | true => simp
      | false => simp [Function.comp_def, Nat.add_assoc, Nat.add_comm 1]
  rw [lookup_bindAll, namesOf, hrun 0]
  simp

/-- The name is a word of the dimension's group, in any case, and of no group before it. -/
def Names (set : FeatureSet) (name : String) (dimension : Nat) : Prop :=
  IsLeast {i | ∃ group, set.groups[i]? = some group ∧
    ∃ word ∈ aliases group, isWord word = true ∧ Text.upper word = Text.upper name} dimension

theorem Names.lt_dimensions {set : FeatureSet} {word : String} {dimension : Nat}
    (h : set.Names word dimension) : dimension < set.dimensions := by
  obtain ⟨group, hgroup, -⟩ := h.1
  exact (List.getElem?_eq_some_iff.mp hgroup).1

theorem findIdx?_eq_some_iff_isLeast {p : String → Bool} {i : Nat} :
    groups.findIdx? p = some i ↔
      IsLeast {j | ∃ group, groups[j]? = some group ∧ p group = true} i := by
  rw [List.findIdx?_eq_some_iff_getElem]
  constructor
  · rintro ⟨hi, hp, hfirst⟩
    refine ⟨⟨groups[i], List.getElem?_eq_getElem hi, hp⟩, ?_⟩
    rintro j ⟨group, hgroup, hj⟩
    obtain ⟨hlt, rfl⟩ := List.getElem?_eq_some_iff.mp hgroup
    exact Nat.le_of_not_lt fun hji => hfirst j hji hj
  · rintro ⟨⟨group, hgroup, hp⟩, hleast⟩
    obtain ⟨hi, rfl⟩ := List.getElem?_eq_some_iff.mp hgroup
    refine ⟨hi, hp, fun j hji hj => Nat.not_le_of_lt hji (hleast ⟨groups[j], ?_, hj⟩)⟩
    exact List.getElem?_eq_getElem (hji.trans hi)

section OfGroups

variable {name : String} {plus minus : Float} {unset : Option Float}

theorem lookup_eq_some_iff {word : String} {i : Nat} :
    (ofGroups name groups plus minus unset).index.lookup (Text.upper word) = some i ↔
      (ofGroups name groups plus minus unset).Names word i := by
  have hlookup : (ofGroups name groups plus minus unset).index.lookup (Text.upper word) =
      (canonical groups).findIdx? (holds (Text.upper word)) :=
    lookup_bindAll_eq_findIdx? _ _
  rw [hlookup, findIdx?_eq_some_iff_isLeast]
  simp only [holds_iff]
  rfl

theorem dimension?_eq_some_iff {text : String} {i : Nat} :
    (ofGroups name groups plus minus unset).dimension? text = some i ↔
      (ofGroups name groups plus minus unset).Names (Text.trim text) i :=
  lookup_eq_some_iff

end OfGroups

/-! ## What is wrong with the names -/

/-- The issue of a name that is read after others: it is no word, or a word that one of them is in
upper case. -/
def issueAfter? (earlier : List String) (name : String) : Option Issue :=
  if isWord name = true then
    if ∃ other ∈ earlier, isWord other = true ∧ Text.upper other = Text.upper name then
      some (.duplicateFeatureName name)
    else none
  else some (.invalidFeatureName name)

/-- The issues of names, each read after those before it. -/
def nameIssues (names : List String) : List Issue :=
  names.zipIdx.filterMap fun entry => issueAfter? (names.take entry.2) entry.1

theorem nameIssues_concat (names : List String) (last : String) :
    nameIssues (names ++ [last]) = nameIssues names ++ (issueAfter? names last).toList := by
  have hearlier : ∀ entry ∈ names.zipIdx,
      issueAfter? ((names ++ [last]).take entry.2) entry.1 =
        issueAfter? (names.take entry.2) entry.1 := by
    intro entry hentry
    rw [List.take_append_of_le_length (List.snd_lt_of_mem_zipIdx hentry).le]
  rw [nameIssues, List.zipIdx_append, List.filterMap_append, List.filterMap_congr hearlier]
  cases hissue : issueAfter? names last <;> simp [nameIssues, hissue]

theorem lookup_foldl_add_isSome_iff (names : List (String × Nat)) (issues : List Issue)
    (key : String) :
    ((names.foldl (fun (binding : Binding) entry => binding.add entry.1 entry.2)
        ⟨[], issues⟩).index.lookup key).isSome = true ↔
      ∃ other ∈ names.map Prod.fst, isWord other = true ∧ Text.upper other = key := by
  rw [lookup_foldl_add, List.lookup_nil, Option.none_or, Option.isSome_map, List.find?_isSome]
  simp [binds]

/-- One name: what the index knows of it are the words before it. -/
theorem Binding.issues_add {binding : Binding} {earlier : List String} {name : String}
    (dimension : Nat)
    (h : (binding.index.lookup (Text.upper name)).isSome = true ↔
      ∃ other ∈ earlier, isWord other = true ∧ Text.upper other = Text.upper name) :
    (binding.add name dimension).issues = binding.issues ++ (issueAfter? earlier name).toList := by
  unfold Binding.add issueAfter?
  cases isWord name with
  | false => simp
  | true =>
    rw [if_congr h.symm rfl rfl]
    cases hlookup : binding.index.lookup (Text.upper name) <;> simp [hlookup]

theorem issues_foldl_add (names : List (String × Nat)) (issues : List Issue) :
    (names.foldl (fun (binding : Binding) entry => binding.add entry.1 entry.2)
        ⟨[], issues⟩).issues =
      issues ++ nameIssues (names.map Prod.fst) := by
  induction names using List.reverseRecOn with
  | nil => simp [nameIssues]
  | append_singleton names last ih =>
    have hbound := lookup_foldl_add_isSome_iff names issues (Text.upper last.1)
    rw [List.foldl_concat, Binding.issues_add last.2 hbound, ih, List.map_append,
      List.map_singleton, nameIssues_concat, List.append_assoc]

theorem map_fst_namesOf (groups : List String) :
    (namesOf groups).map Prod.fst = groups.flatMap aliases := by
  rw [namesOf, List.map_flatMap]
  simp only [List.map_map, Function.comp_def, List.map_id']
  rw [← List.flatMap_map, List.zipIdx_map_fst]

theorem issues_bindAll (groups : List String) :
    (bindAll groups).issues =
      (if groups = [] then [Issue.noFeatures] else []) ++
        nameIssues (groups.flatMap aliases) := by
  rw [bindAll, issues_foldl_add, map_fst_namesOf]
  cases groups <;> rfl

/-! ## Feature sets -/

/-- A feature set depends on its groups but not on their order:

* permuted groups give the same set, with the groups sorted;
* a name leads to the first of the sorted groups with this word, in any case;
* what is wrong are the names that are no words and the words that are there before, in the order in
  which they are read, and if there are no groups this. -/
theorem ofGroups_isCanonical (name : String) (groups : List String) (plus minus : Float)
    (unset : Option Float) :
    let set := ofGroups name groups plus minus unset
    (∀ other, groups.Perm other → ofGroups name other plus minus unset = set) ∧
      (set.groups.Perm (groups.map Text.trim) ∧ set.groups.Pairwise (· ≤ ·)) ∧
      (∀ text i, set.dimension? text = some i ↔ set.Names (Text.trim text) i) ∧
      set.problems = ((if groups = [] then [Issue.noFeatures] else []) ++
        nameIssues (set.groups.flatMap aliases)).map fun issue => ⟨.featureSet name, issue⟩ := by
  intro set
  refine ⟨fun other hperm => ?_, ⟨perm_canonical groups, pairwise_canonical groups⟩,
    fun text i => dimension?_eq_some_iff, ?_⟩
  · have hcanonical : canonical other = canonical groups := canonical_eq_of_perm hperm
    simp only [set, ofGroups, hcanonical]
  · have hempty : canonical groups = [] ↔ groups = [] := by
      rw [← List.length_eq_zero_iff, (perm_canonical groups).length_eq, List.length_map,
        List.length_eq_zero_iff]
    have hissues : (bindAll (canonical groups)).issues = _ := issues_bindAll (canonical groups)
    simp only [hempty] at hissues
    exact congrArg (List.map fun issue => (⟨.featureSet name, issue⟩ : Problem)) hissues

/-- A word that an earlier group has, and a name that is no word, in groups out of order. -/
theorem ofGroups_isCanonical_overlapping :
    let set := ofGroups "features" ["hi-gh,Tall", "high", "tall,top"] 1 (-1) none
    ["hi-gh,Tall", "high", "tall,top"].Perm ["tall,top", "high", "hi-gh,Tall"] ∧
      ofGroups "features" ["tall,top", "high", "hi-gh,Tall"] 1 (-1) none = set ∧
      set.groups = ["hi-gh,Tall", "high", "tall,top"] ∧
      set.dimension? " TALL" = some 0 ∧
      set.problems = [⟨.featureSet "features", .invalidFeatureName "hi-gh"⟩,
        ⟨.featureSet "features", .duplicateFeatureName "tall"⟩] := by
  intro set
  have hperm : ["hi-gh,Tall", "high", "tall,top"].Perm ["tall,top", "high", "hi-gh,Tall"] := by
    decide
  obtain ⟨hsame, ⟨hgroups, hsorted⟩, hdimension, hproblems⟩ :=
    ofGroups_isCanonical "features" ["hi-gh,Tall", "high", "tall,top"] 1 (-1) none
  have heq : set.groups = ["hi-gh,Tall", "high", "tall,top"] :=
    hgroups.eq_of_pairwise (fun _ _ _ _ => String.le_antisymm) hsorted (by decide)
  refine ⟨hperm, hsame _ hperm, heq, (hdimension " TALL" 0).mpr ?_, ?_⟩
  · refine ⟨⟨"hi-gh,Tall", ?_, "Tall", by decide, by decide, by decide⟩, fun _ _ => Nat.zero_le _⟩
    rw [heq]
    rfl
  · rw [hproblems, heq]
    decide +kernel

end FeatureSet

end PhoneticSearch
