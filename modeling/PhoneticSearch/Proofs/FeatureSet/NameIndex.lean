import Mathlib.Data.List.Nodup
import PhoneticSearch.Proofs.FeatureNames

/-!
# The index of names

All names of a feature set are bound in one pass over its groups.

* `FeatureSet.lookup_bindAll`: a key leads to the dimension of the first name that it stands for.
* `FeatureSet.issues_bindAll_eq_nil_iff`: what a set without problems is.
* `FeatureSet.lookup_of_mem_namesOf`: each name of such a set leads to its dimension.
* `FeatureSet.lookup_ne_of_aliases_eq_nil`: nothing leads to the dimension of a group without names.
-/

namespace PhoneticSearch

namespace FeatureSet

variable {groups : List String} {name key : String} {dimension : Nat}

theorem mem_namesOf :
    (name, dimension) ∈ namesOf groups ↔
      ∃ group, groups[dimension]? = some group ∧ name ∈ aliases group := by
  simp [namesOf, List.mem_zipIdx_iff_getElem?]

/-- A set shows a dimension under one of its names if it has any. -/
theorem displayName_mem_aliases {group : String} (h : aliases group ≠ []) :
    displayName group ∈ aliases group := by
  rw [displayName, List.getLast?_eq_some_getLast h, Option.getD_some]
  exact List.getLast_mem h

/-- The entry's name is a word, which in upper case is the key. -/
def binds (key : String) (entry : String × Nat) : Bool :=
  isWord entry.1 && Text.upper entry.1 == key

/-! ## One name -/

namespace Binding

variable (binding : Binding)

/-- The first binding of a key stays. -/
theorem lookup_add (entry : String × Nat) (key : String) :
    (binding.add entry.1 entry.2).index.lookup key =
      (binding.index.lookup key).or (if binds key entry then some entry.2 else none) := by
  obtain ⟨name, dimension⟩ := entry
  unfold add binds
  cases hword : isWord name with
  | false => simp
  | true =>
    by_cases hkey : Text.upper name = key
    · subst hkey
      cases hlookup : binding.index.lookup (Text.upper name) <;> simp [hlookup]
    · have hne : (key == Text.upper name) = false := by simpa using Ne.symm hkey
      cases hlookup : binding.index.lookup (Text.upper name) <;>
        simp [hlookup, hkey, List.lookup_cons, hne]

/-- A word takes its key and no other. -/
theorem lookup_add_eq_none_iff {entry : String × Nat} (hword : isWord entry.1 = true) :
    (binding.add entry.1 entry.2).index.lookup key = none ↔
      binding.index.lookup key = none ∧ Text.upper entry.1 ≠ key := by
  rw [binding.lookup_add, Option.or_eq_none_iff]
  simp [binds, hword]

theorem issues_add_eq_nil_iff (name : String) (dimension : Nat) :
    (binding.add name dimension).issues = [] ↔
      binding.issues = [] ∧ isWord name = true ∧ binding.index.lookup (Text.upper name) = none := by
  unfold add
  cases hword : isWord name with
  | false => simp
  | true => cases hlookup : binding.index.lookup (Text.upper name) <;> simp [hlookup]

end Binding

/-! ## All names -/

theorem lookup_foldl_add (names : List (String × Nat)) (binding : Binding) (key : String) :
    (names.foldl (fun binding entry => binding.add entry.1 entry.2) binding).index.lookup key =
      (binding.index.lookup key).or ((names.find? (binds key)).map Prod.snd) := by
  induction names generalizing binding with
  | nil => simp
  | cons first rest ih =>
    rw [List.foldl_cons, ih, binding.lookup_add first key, Option.or_assoc, List.find?_cons]
    cases binds key first <;> simp

theorem lookup_bindAll (groups : List String) (key : String) :
    (bindAll groups).index.lookup key =
      ((namesOf groups).find? (binds key)).map Prod.snd := by
  rw [bindAll, lookup_foldl_add, List.lookup_nil, Option.none_or]

theorem exists_of_lookup_bindAll (h : (bindAll groups).index.lookup key = some dimension) :
    ∃ name, (name, dimension) ∈ namesOf groups ∧ isWord name = true ∧ Text.upper name = key := by
  rw [lookup_bindAll, Option.map_eq_some_iff] at h
  obtain ⟨⟨name, _⟩, hfind, rfl⟩ := h
  have hbinds : binds key (name, _) = true := List.find?_some hfind
  rw [binds, Bool.and_eq_true, beq_iff_eq] at hbinds
  exact ⟨name, List.mem_of_find?_eq_some hfind, hbinds⟩

theorem issues_foldl_add_eq_nil_iff (names : List (String × Nat)) (binding : Binding) :
    (names.foldl (fun binding entry => binding.add entry.1 entry.2) binding).issues = [] ↔
      binding.issues = [] ∧
        (∀ entry ∈ names, isWord entry.1 = true ∧
          binding.index.lookup (Text.upper entry.1) = none) ∧
        (names.map fun entry => Text.upper entry.1).Nodup := by
  induction names generalizing binding with
  | nil => simp
  | cons first rest ih =>
    rw [List.foldl_cons, ih, binding.issues_add_eq_nil_iff, List.forall_mem_cons, List.map_cons,
      List.nodup_cons]
    constructor
    · rintro ⟨⟨hissues, hfirst⟩, hrest, hnodup⟩
      have hsplit : ∀ entry ∈ rest, binding.index.lookup (Text.upper entry.1) = none ∧
          Text.upper first.1 ≠ Text.upper entry.1 :=
        fun entry hentry => (binding.lookup_add_eq_none_iff hfirst.1).mp (hrest entry hentry).2
      refine ⟨hissues, ⟨hfirst, fun entry hentry => ?_⟩, ?_, hnodup⟩
      · exact ⟨(hrest entry hentry).1, (hsplit entry hentry).1⟩
      · intro hmem
        obtain ⟨entry, hentry, hkey⟩ := List.mem_map.mp hmem
        exact (hsplit entry hentry).2 hkey.symm
    · rintro ⟨hissues, ⟨hfirst, hrest⟩, hnew, hnodup⟩
      refine ⟨⟨hissues, hfirst⟩, fun entry hentry => ⟨(hrest entry hentry).1, ?_⟩, hnodup⟩
      refine (binding.lookup_add_eq_none_iff hfirst.1).mpr ⟨(hrest entry hentry).2, fun hkey => ?_⟩
      exact hnew (List.mem_map.mpr ⟨entry, hentry, hkey.symm⟩)

/-- No issue is met just if there is a group, and all names are words that differ in upper case. A
group may be without names. -/
theorem issues_bindAll_eq_nil_iff :
    (bindAll groups).issues = [] ↔
      groups ≠ [] ∧ (∀ entry ∈ namesOf groups, isWord entry.1 = true) ∧
        ((namesOf groups).map fun entry => Text.upper entry.1).Nodup := by
  rw [bindAll, issues_foldl_add_eq_nil_iff]
  cases groups <;> simp

theorem lookup_of_mem_namesOf (hissues : (bindAll groups).issues = [])
    (h : (name, dimension) ∈ namesOf groups) :
    (bindAll groups).index.lookup (Text.upper name) = some dimension := by
  obtain ⟨-, hword, hnodup⟩ := issues_bindAll_eq_nil_iff.mp hissues
  have hsome : ((namesOf groups).find? (binds (Text.upper name))).isSome = true := by
    rw [List.find?_isSome]
    exact ⟨(name, dimension), h, by simp [binds, hword _ h]⟩
  obtain ⟨found, hfound⟩ := Option.isSome_iff_exists.mp hsome
  have hbinds : binds (Text.upper name) found = true := List.find?_some hfound
  rw [binds, Bool.and_eq_true, beq_iff_eq] at hbinds
  obtain rfl : found = (name, dimension) :=
    List.inj_on_of_nodup_map hnodup (List.mem_of_find?_eq_some hfound) h hbinds.2
  rw [lookup_bindAll, hfound, Option.map_some]

/-- The dimension of a group with names is found under the name that it is shown under. -/
theorem lookup_displayName (hissues : (bindAll groups).issues = []) {group : String}
    (hgroup : groups[dimension]? = some group) (hnames : aliases group ≠ []) :
    isWord (displayName group) = true ∧
      (bindAll groups).index.lookup (Text.upper (displayName group)) = some dimension := by
  have hmem : (displayName group, dimension) ∈ namesOf groups :=
    mem_namesOf.mpr ⟨group, hgroup, displayName_mem_aliases hnames⟩
  have hwords := (issues_bindAll_eq_nil_iff.mp hissues).2.1
  exact ⟨hwords (displayName group, dimension) hmem, lookup_of_mem_namesOf hissues hmem⟩

/-- No key leads to the dimension of a group without names. -/
theorem lookup_ne_of_aliases_eq_nil {group : String} (hgroup : groups[dimension]? = some group)
    (hnames : aliases group = []) (key : String) :
    (bindAll groups).index.lookup key ≠ some dimension := by
  intro hlookup
  obtain ⟨word, hmem, -⟩ := exists_of_lookup_bindAll hlookup
  obtain ⟨other, hother, hword⟩ := mem_namesOf.mp hmem
  obtain rfl : group = other := Option.some.inj (hgroup.symm.trans hother)
  rw [hnames] at hword
  cases hword

/-- The index knows something just if some name is a word. -/
theorem index_bindAll_ne_nil_iff_exists_word :
    (bindAll groups).index ≠ [] ↔ ∃ entry ∈ namesOf groups, isWord entry.1 = true := by
  constructor
  · intro hindex
    obtain ⟨⟨key, i⟩, rest, hcons⟩ := List.exists_cons_of_ne_nil hindex
    have hlookup : (bindAll groups).index.lookup key = some i := by
      rw [hcons, List.lookup_cons_self]
    obtain ⟨word, hmem, hword, -⟩ := exists_of_lookup_bindAll hlookup
    exact ⟨(word, i), hmem, hword⟩
  · rintro ⟨entry, hmem, hword⟩ hindex
    have hnone := lookup_bindAll groups (Text.upper entry.1)
    rw [hindex, List.lookup_nil, eq_comm, Option.map_eq_none_iff] at hnone
    simpa [binds, hword] using List.find?_eq_none.mp hnone entry hmem

theorem index_bindAll_ne_nil_iff (hissues : (bindAll groups).issues = []) :
    (bindAll groups).index ≠ [] ↔ ∃ group ∈ groups, aliases group ≠ [] := by
  rw [index_bindAll_ne_nil_iff_exists_word]
  constructor
  · rintro ⟨⟨word, i⟩, hmem, -⟩
    obtain ⟨group, hgroup, hword⟩ := mem_namesOf.mp hmem
    exact ⟨group, List.mem_of_getElem? hgroup, List.ne_nil_of_mem hword⟩
  · rintro ⟨group, hmem, hnames⟩
    obtain ⟨i, hgroup⟩ := List.mem_iff_getElem?.mp hmem
    have hname : (displayName group, i) ∈ namesOf groups :=
      mem_namesOf.mpr ⟨group, hgroup, displayName_mem_aliases hnames⟩
    exact ⟨_, hname, (lookup_displayName hissues hgroup hnames).1⟩

/-- A name that is a word has no blanks around it. -/
theorem trim_of_isWord (h : isWord name = true) : Text.trim name = name := by
  simp only [isWord, Bool.and_eq_true, List.all_eq_true] at h
  rw [Text.trim, Text.trimChars_eq_self, String.ofList_toList]
  exact fun c hc => Text.isBlank_eq_false_of_isWordChar (h.2 c hc)

end FeatureSet

end PhoneticSearch
