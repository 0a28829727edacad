import PhoneticSearch.Proofs.FeatureSet.Specifications

/-!
# Describing a phone and reading the description

A phone is described by the signed names of its components that are plus or minus. To read the
description gives the phone back, unless it sets a component that has no name: a blank group is a
dimension, and no issue tells of it.

* `FeatureSet.getElem?_phone_of_nameless`: a dimension that no name leads to stays unset, whatever
  the specifications.
* `FeatureSet.phone_describe`: each component with a name is found again.
* `FeatureSet.ofGroups_recovers_iff`: which phones are found again, and when all are.
-/

namespace PhoneticSearch

namespace FeatureSet

/-! ## What is found again -/

/-- The three values are numbers, and different ones. -/
structure Separated (set : FeatureSet) : Prop where
  plus : set.plus.isNaN = false
  minus : set.minus.isNaN = false
  unset : set.unset.isNaN = false
  plus_minus : (set.plus == set.minus) = false
  plus_unset : (set.plus == set.unset) = false
  minus_unset : (set.minus == set.unset) = false

/-- As a number, the value is plus, minus or unset. -/
abbrev HasValue (set : FeatureSet) (value : Float) : Prop :=
  (value == set.plus) = true ∨ (value == set.minus) = true ∨ (value == set.unset) = true

/-- A phone with one of the three values for each dimension. -/
structure HasValues (set : FeatureSet) (phone : Phone) : Prop where
  length : phone.length = set.dimensions
  value : ∀ value ∈ phone, set.HasValue value

/-- The description of a phone is read without an issue, and as this phone. -/
def Recovers (set : FeatureSet) (phone : Phone) : Prop :=
  List.Forall₂ (fun found value => (found == value) = true) (set.phone (set.describe phone)).phone
      phone ∧
    (set.phone (set.describe phone)).issues = []

variable {set : FeatureSet}

/-! ## Dimensions without a name -/

/-- A component that no name leads to is unset in whatever is described. -/
theorem getElem?_phone_of_nameless {i : Nat} (h : ∀ key, set.index.lookup key ≠ some i)
    (specs : List String) : (set.phone specs).phone[i]? = set.unsetPhone[i]? := by
  by_cases hindex : set.index = []
  · rw [phone, hindex]
    rfl
  · have hvalues : specs.filterMap (set.valueOf? i) = [] := by
      refine List.filterMap_eq_nil_iff.mpr fun text _ => ?_
      simp [valueOf?, h]
    rw [set.getElem?_phone hindex, hvalues]
    simp

/-! ## Components with a name -/

/-- The specification of one component. -/
def specOf (set : FeatureSet) (component : Float × String) : Option String :=
  if component.1 == set.plus then some (signText true ++ displayName component.2)
  else if component.1 == set.minus then some (signText false ++ displayName component.2)
  else none

theorem describe_eq (phone : Phone) :
    set.describe phone = (phone.zip set.groups).filterMap set.specOf := rfl

/-- The component is unset and not mentioned, or it is set and its name leads to its dimension. -/
def Mentioned (set : FeatureSet) (dimension : Nat) (component : Float × String) : Prop :=
  (set.specOf component = none ∧ (set.unset == component.1) = true) ∨
    ∃ positive, set.specOf component = some (signText positive ++ displayName component.2) ∧
      (set.signed positive == component.1) = true ∧ isWord (displayName component.2) = true ∧
      set.index.lookup (Text.upper (displayName component.2)) = some dimension

/-- One component: its specification, if it has one, sets just this component. -/
theorem exists_foldl_add_specOf {component : Float × String} {before : Phone}
    (h : set.Mentioned before.length component) (rest : List (Float × String)) (after : Phone) :
    ∃ found, (found == component.1) = true ∧
      ((component :: rest).filterMap set.specOf).foldl (Described.add set)
          ⟨before ++ set.unset :: after, []⟩ =
        (rest.filterMap set.specOf).foldl (Described.add set) ⟨before ++ found :: after, []⟩ := by
  obtain ⟨hspec, hvalue⟩ | ⟨positive, hspec, hvalue, hword, hlookup⟩ := h
  · exact ⟨set.unset, hvalue, by rw [List.filterMap_cons_none hspec]⟩
  · refine ⟨set.signed positive, hvalue, ?_⟩
    rw [List.filterMap_cons_some hspec, List.foldl_cons, add_sign hword hlookup]
    simp

/-- All components from one on, in the order of the groups. -/
theorem exists_foldl_add_describe (components : List (Float × String)) (before : Phone)
    (h : ∀ i component, components[i]? = some component →
      set.Mentioned (before.length + i) component) :
    ∃ found, List.Forall₂ (fun a b => (a == b) = true) found (components.map Prod.fst) ∧
      (components.filterMap set.specOf).foldl (Described.add set)
          ⟨before ++ List.replicate components.length set.unset, []⟩ = ⟨before ++ found, []⟩ := by
  induction components generalizing before with
  | nil => exact ⟨[], .nil, by simp⟩
  | cons component rest ih =>
    obtain ⟨value, hvalue, hstep⟩ := exists_foldl_add_specOf (h 0 component rfl) rest
      (List.replicate rest.length set.unset)
    obtain ⟨found, hfound, hrun⟩ := ih (before ++ [value]) fun i next hnext => by
      have hplace : (before ++ [value]).length + i = before.length + (i + 1) := by
        rw [List.length_append, List.length_singleton, Nat.add_assoc, Nat.add_comm 1 i]
      rw [hplace]
      exact h (i + 1) next hnext
    refine ⟨value :: found, .cons hvalue hfound, ?_⟩
    rw [List.length_cons, List.replicate_succ, hstep]
    simpa using hrun

/-- A phone is found again if each of its components is mentioned under its own name. -/
theorem phone_describe {phone : Phone} (hindex : set.index ≠ [])
    (hlength : phone.length = set.dimensions)
    (h : ∀ i component, (phone.zip set.groups)[i]? = some component → set.Mentioned i component) :
    set.Recovers phone := by
  obtain ⟨found, hfound, hrun⟩ := exists_foldl_add_describe (phone.zip set.groups) [] fun i => by
    simpa using h i
  have hcount : (phone.zip set.groups).length = set.dimensions := by
    rw [List.length_zip, hlength, dimensions, Nat.min_self]
  have hvalues : (phone.zip set.groups).map Prod.fst = phone :=
    List.map_fst_zip (Nat.le_of_eq hlength)
  have hread : set.phone (set.describe phone) = ⟨found, []⟩ := by
    have hnames : set.index.isEmpty = false := by simpa using hindex
    rw [FeatureSet.phone, hnames, if_neg Bool.false_ne_true, describe_eq, unsetPhone, ← hcount]
    simpa using hrun
  rw [Recovers, hread]
  rw [hvalues] at hfound
  exact ⟨hfound, rfl⟩

/-! ## Sets without problems -/

/-- What a set without problems knows: each group has a dimension, which its names lead to if it has
any. -/
structure Indexed (set : FeatureSet) : Prop where
  groups_ne_nil : set.groups ≠ []
  index_ne_nil_iff : set.index ≠ [] ↔ ∃ group ∈ set.groups, aliases group ≠ []
  named : ∀ {i group}, set.groups[i]? = some group → aliases group ≠ [] →
    isWord (displayName group) = true ∧
      set.index.lookup (Text.upper (displayName group)) = some i
  nameless : ∀ {i group}, set.groups[i]? = some group → aliases group = [] →
    ∀ key, set.index.lookup key ≠ some i

theorem indexed_ofGroups {name : String} {groups : List String} {plus minus : Float}
    {unset : Option Float} (h : (ofGroups name groups plus minus unset).problems = []) :
    (ofGroups name groups plus minus unset).Indexed := by
  have hissues : (bindAll (canonical groups)).issues = [] := List.map_eq_nil_iff.mp h
  exact
    { groups_ne_nil := (issues_bindAll_eq_nil_iff.mp hissues).1
      index_ne_nil_iff := index_bindAll_ne_nil_iff hissues
      named := lookup_displayName hissues
      nameless := lookup_ne_of_aliases_eq_nil }

/-- The component is unset, or it has a name. -/
def IsAddressed (set : FeatureSet) (component : Float × String) : Prop :=
  (component.1 == set.unset) = true ∨ aliases component.2 ≠ []

/-- A component of the three values has a specification just if it is not unset. -/
theorem Separated.specOf_cases (h : set.Separated) {component : Float × String}
    (hvalue : set.HasValue component.1) :
    (component.1 == set.unset) = true ∧ set.specOf component = none ∨
      (component.1 == set.unset) = false ∧
        ∃ positive, set.specOf component = some (signText positive ++ displayName component.2) ∧
          (set.signed positive == component.1) = true := by
  -- No component is equal to the unset value and to another one.
  have hapart : ∀ {other : Float}, (other == set.unset) = false → (component.1 == other) = true →
      (component.1 == set.unset) = false := by
    intro other hother hequal
    rw [Bool.eq_false_iff] at hother ⊢
    exact fun hunset => hother (BEq.trans (BEq.symm hequal) hunset)
  by_cases hplus : (component.1 == set.plus) = true
  · exact .inr ⟨hapart h.plus_unset hplus, true, by simp [specOf, hplus], BEq.symm hplus⟩
  · by_cases hminus : (component.1 == set.minus) = true
    · refine .inr ⟨hapart h.minus_unset hminus, false, ?_, BEq.symm hminus⟩
      simp [specOf, hplus, hminus]
    · refine .inl ⟨(hvalue.resolve_left hplus).resolve_left hminus, ?_⟩
      simp [specOf, hplus, hminus]

theorem Indexed.mentioned (h : set.Indexed) (hseparated : set.Separated) {i : Nat}
    {component : Float × String} (hgroup : set.groups[i]? = some component.2)
    (hvalue : set.HasValue component.1) (haddressed : set.IsAddressed component) :
    set.Mentioned i component := by
  obtain ⟨hunset, hspec⟩ | ⟨hset, positive, hspec, hsigned⟩ := hseparated.specOf_cases hvalue
  · exact .inl ⟨hspec, BEq.symm hunset⟩
  · have hnames : aliases component.2 ≠ [] := haddressed.resolve_left (by simp [hset])
    exact .inr ⟨positive, hspec, hsigned, h.named hgroup hnames⟩

/-- A phone that is found again sets no component without a name, since this would be unset. -/
theorem Indexed.isAddressed (h : set.Indexed) {phone : Phone} (hrecovers : set.Recovers phone)
    {i : Nat} {component : Float × String} (hvalue : phone[i]? = some component.1)
    (hgroup : set.groups[i]? = some component.2) : set.IsAddressed component := by
  by_cases hnames : aliases component.2 = []
  · left
    have hlt : i < set.dimensions := (List.getElem?_eq_some_iff.mp hgroup).1
    have hunset : (set.phone (set.describe phone)).phone[i]? = some set.unset := by
      rw [getElem?_phone_of_nameless (h.nameless hgroup hnames), unsetPhone,
        List.getElem?_replicate_of_lt hlt]
    obtain ⟨hfound, hunset⟩ := List.getElem?_eq_some_iff.mp hunset
    obtain ⟨hcomponent, hvalue⟩ := List.getElem?_eq_some_iff.mp hvalue
    have hequal := hrecovers.1.get hfound hcomponent
    rw [List.get_eq_getElem, List.get_eq_getElem, hunset, hvalue] at hequal
    exact BEq.symm hequal
  · exact .inr hnames

/-- A phone is found again just if the set knows any names, and all components that are not unset
have one. -/
theorem Indexed.recovers_iff (h : set.Indexed) (hseparated : set.Separated) {phone : Phone}
    (hphone : set.HasValues phone) :
    set.Recovers phone ↔ (∃ group ∈ set.groups, aliases group ≠ []) ∧
      ∀ component ∈ phone.zip set.groups, set.IsAddressed component := by
  rw [← h.index_ne_nil_iff]
  constructor
  · intro hrecovers
    refine ⟨fun hindex => ?_, fun component hmem => ?_⟩
    · have hissues := hrecovers.2
      rw [FeatureSet.phone, hindex] at hissues
      cases hissues
    · obtain ⟨i, hi⟩ := List.mem_iff_getElem?.mp hmem
      obtain ⟨hvalue, hgroup⟩ := List.getElem?_zip_eq_some.mp hi
      exact h.isAddressed hrecovers hvalue hgroup
  · rintro ⟨hindex, haddressed⟩
    refine phone_describe hindex hphone.length fun i component hi => ?_
    obtain ⟨hvalue, hgroup⟩ := List.getElem?_zip_eq_some.mp hi
    exact h.mentioned hseparated hgroup (hphone.value _ (List.mem_of_getElem? hvalue))
      (haddressed component (List.mem_of_getElem? hi))

theorem Indexed.dimension?_displayName_iff (h : set.Indexed) {i : Nat} {group : String}
    (hgroup : set.groups[i]? = some group) :
    set.dimension? (displayName group) = some i ↔ aliases group ≠ [] := by
  constructor
  · exact fun hdimension hnames => h.nameless hgroup hnames _ hdimension
  · intro hnames
    obtain ⟨hword, hlookup⟩ := h.named hgroup hnames
    rw [dimension?, trim_of_isWord hword, hlookup]

theorem Separated.hasValues_replicate_plus (h : set.Separated) :
    set.HasValues (List.replicate set.dimensions set.plus) where
  length := List.length_replicate
  value := by
    intro value hvalue
    obtain rfl := List.eq_of_mem_replicate hvalue
    exact .inl (beq_self_of_number h.plus)

/-- If a group has no names, the phone that has a plus everywhere is lost. -/
theorem Indexed.forall_recovers_iff (h : set.Indexed) (hseparated : set.Separated) :
    (∀ phone, set.HasValues phone → set.Recovers phone) ↔
      ∀ group ∈ set.groups, aliases group ≠ [] := by
  constructor
  · intro hall group hgroup
    have hplus := hseparated.hasValues_replicate_plus
    have haddressed := ((h.recovers_iff hseparated hplus).mp (hall _ hplus)).2
    obtain ⟨i, hi⟩ := List.mem_iff_getElem?.mp hgroup
    have hlt : i < set.dimensions := (List.getElem?_eq_some_iff.mp hi).1
    have hmem : (set.plus, group) ∈ (List.replicate set.dimensions set.plus).zip set.groups :=
      List.mem_iff_getElem?.mpr
        ⟨i, List.getElem?_zip_eq_some.mpr ⟨List.getElem?_replicate_of_lt hlt, hi⟩⟩
    exact (haddressed _ hmem).resolve_left (Bool.eq_false_iff.mp hseparated.plus_unset)
  · intro hnames phone hphone
    obtain ⟨group, hgroup⟩ := List.exists_mem_of_ne_nil _ h.groups_ne_nil
    refine (h.recovers_iff hseparated hphone).mpr ⟨⟨group, hgroup, hnames _ hgroup⟩, ?_⟩
    exact fun component hmem => .inr (hnames _ (List.of_mem_zip hmem).2)

/-- Of a set that is built without problems, and whose values are told apart:

* the phones that are found again from their descriptions are those with a name for every component
  that is not unset, if there are names at all;
* these are all phones just if no group is without names;
* the name that a dimension is shown under leads to it just if its group has names. -/
theorem ofGroups_recovers_iff {name : String} {groups : List String} {plus minus : Float}
    {unset : Option Float} (hproblems : (ofGroups name groups plus minus unset).problems = [])
    (hseparated : (ofGroups name groups plus minus unset).Separated) :
    let set := ofGroups name groups plus minus unset
    (∀ phone, set.HasValues phone →
        (set.Recovers phone ↔ (∃ group ∈ set.groups, aliases group ≠ []) ∧
          ∀ component ∈ phone.zip set.groups, set.IsAddressed component)) ∧
      ((∀ phone, set.HasValues phone → set.Recovers phone) ↔
        ∀ group ∈ set.groups, aliases group ≠ []) ∧
      (∀ i group, set.groups[i]? = some group →
        (set.dimension? (displayName group) = some i ↔ aliases group ≠ [])) := by
  intro set
  have hindexed : set.Indexed := indexed_ofGroups hproblems
  refine ⟨fun phone hphone => ?_, ?_, fun i group hgroup => ?_⟩
  · exact hindexed.recovers_iff hseparated hphone
  · exact hindexed.forall_recovers_iff hseparated
  · exact hindexed.dimension?_displayName_iff hgroup

/-! ## A group without names -/

/-- The first dimension has no name. -/
def partlyNamed : FeatureSet where
  name := "features"
  groups := ["", "voiced"]
  index := [("VOICED", 1)]
  plus := 1
  minus := -1
  unset := 0
  problems := []

/-- A blank group is a dimension, and nothing is reported. -/
theorem ofGroups_eq_partlyNamed : ofGroups "features" ["", "voiced"] 1 (-1) none = partlyNamed := by
  have hcanonical : canonical ["", "voiced"] = ["", "voiced"] := by
    have htrim : ["", "voiced"].map Text.trim = ["", "voiced"] := by decide
    rw [canonical, htrim]
    exact List.mergeSort_of_pairwise (by decide)
  rw [ofGroups, hcanonical]
  rfl

theorem separated_partlyNamed : partlyNamed.Separated where
  plus := by decide
  minus := by decide
  unset := by decide
  plus_minus := by decide
  plus_unset := by decide
  minus_unset := by decide

/-- Only the second component can be set. -/
theorem ofGroups_recovers_iff_partlyNamed :
    (ofGroups "features" ["", "voiced"] 1 (-1) none).problems = [] ∧ partlyNamed.Separated ∧
      partlyNamed.HasValues [0, -1] ∧ partlyNamed.Recovers [0, -1] ∧
      partlyNamed.dimension? "voiced" = some 1 := by
  have hproblems : (ofGroups "features" ["", "voiced"] 1 (-1) none).problems = [] := by
    rw [ofGroups_eq_partlyNamed]
    rfl
  have hseparated : (ofGroups "features" ["", "voiced"] 1 (-1) none).Separated := by
    rw [ofGroups_eq_partlyNamed]
    exact separated_partlyNamed
  obtain ⟨hrecovers, -, hdimension⟩ := ofGroups_recovers_iff hproblems hseparated
  rw [ofGroups_eq_partlyNamed] at hrecovers hdimension
  have hvalues : partlyNamed.HasValues [0, -1] := ⟨by decide, by decide⟩
  refine ⟨hproblems, separated_partlyNamed, hvalues, (hrecovers _ hvalues).mpr ⟨?_, ?_⟩, ?_⟩
  · exact ⟨"voiced", by decide, by decide⟩
  · intro component hmem
    obtain rfl | hmem := List.mem_cons.mp hmem
    · exact .inl (by decide)
    · obtain rfl := List.mem_singleton.mp hmem
      exact .inr (by decide)
  · exact (hdimension 1 "voiced" rfl).mpr (by decide)

/-- A plus in the first component is described as `+` alone, which is no specification, and its
display name leads nowhere. -/
theorem partlyNamed_not_recovers :
    ofGroups "features" ["", "voiced"] 1 (-1) none = partlyNamed ∧ partlyNamed.problems = [] ∧
      partlyNamed.Separated ∧ partlyNamed.HasValues [1, 1] ∧
      partlyNamed.describe [1, 1] = ["+", "+voiced"] ∧
      (partlyNamed.phone ["+", "+voiced"]).phone = [0, 1] ∧
      (partlyNamed.phone ["+", "+voiced"]).issues = [.invalidFeatureSpec "+"] ∧
      ¬ partlyNamed.Recovers [1, 1] ∧ partlyNamed.displayNames[0]? = some "" ∧
      partlyNamed.dimension? "" = none := by
  have hvalues : partlyNamed.HasValues [1, 1] := ⟨by decide, by decide⟩
  have hdescribe : partlyNamed.describe [1, 1] = ["+", "+voiced"] := by rfl
  have hissues : (partlyNamed.phone ["+", "+voiced"]).issues = [.invalidFeatureSpec "+"] := by rfl
  refine ⟨ofGroups_eq_partlyNamed, rfl, separated_partlyNamed, hvalues, hdescribe, by rfl, hissues,
    ?_, by rfl, by rfl⟩
  rintro ⟨-, hnone⟩
  rw [hdescribe, hissues] at hnone
  cases hnone

end FeatureSet

end PhoneticSearch
