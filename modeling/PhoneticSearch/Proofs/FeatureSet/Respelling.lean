import PhoneticSearch.Proofs.FeatureSet.Description

/-!
# Specifications written anew

A list of specifications that is read as a phone and described again has one specification for each
dimension it speaks of, in the order of the dimensions and under their display names.

* `FeatureSet.byDimension`: specifications in the order of their dimensions.
* `FeatureSet.Resolves.phone_of_distinct`: the phone of a list that speaks of no dimension twice.
* `FeatureSet.describe_phone_byDimension`: reading and describing puts a list in this order.
-/

namespace PhoneticSearch

namespace FeatureSet

/-- The specifications of dimensions below `count`, in the order of the dimensions. -/
def byDimension (count : Nat) (named : List (Spec × Nat)) : List (Spec × Nat) :=
  (List.range count).filterMap fun i => named.find? fun entry => entry.2 == i

section ByDimension

variable {count : Nat} {named : List (Spec × Nat)}

theorem find?_of_mem (hdistinct : (named.map Prod.snd).Nodup) {entry : Spec × Nat}
    (h : entry ∈ named) : named.find? (fun other => other.2 == entry.2) = some entry := by
  have hsome : (named.find? fun other => other.2 == entry.2).isSome = true := by
    rw [List.find?_isSome]
    exact ⟨entry, h, beq_self_eq_true _⟩
  obtain ⟨found, hfound⟩ := Option.isSome_iff_exists.mp hsome
  have hsame : found.2 = entry.2 := by simpa using List.find?_some hfound
  rw [hfound, List.inj_on_of_nodup_map hdistinct (List.mem_of_find?_eq_some hfound) h hsame]

theorem pairwise_byDimension : (byDimension count named).Pairwise fun a b => a.2 < b.2 := by
  refine List.Pairwise.filterMap _ ?_ List.pairwise_lt_range
  intro i j hlt a ha b hb
  have hi : a.2 = i := by simpa using List.find?_some ha
  have hj : b.2 = j := by simpa using List.find?_some hb
  rwa [hi, hj]

theorem perm_byDimension (hdistinct : (named.map Prod.snd).Nodup)
    (hcount : ∀ entry ∈ named, entry.2 < count) : (byDimension count named).Perm named := by
  have hnodup : (byDimension count named).Nodup :=
    pairwise_byDimension.imp fun {a b} hlt heq => by
      rw [heq] at hlt
      exact Nat.lt_irrefl _ hlt
  refine (List.perm_ext_iff_of_nodup hnodup (.of_map _ hdistinct)).mpr fun entry => ?_
  rw [byDimension, List.mem_filterMap]
  constructor
  · rintro ⟨i, -, hfind⟩
    exact List.mem_of_find?_eq_some hfind
  · intro hmem
    exact ⟨entry.2, List.mem_range.mpr (hcount entry hmem), find?_of_mem hdistinct hmem⟩

/-- The last entry of a dimension is the only one. -/
theorem getLast?_filter_eq_find? (hdistinct : (named.map Prod.snd).Nodup) (i : Nat) :
    (named.filter fun entry => entry.2 == i).getLast? = named.find? fun entry => entry.2 == i := by
  cases hlast : (named.filter fun entry => entry.2 == i).getLast? with
  | none =>
    have hnone := List.filter_eq_nil_iff.mp (List.getLast?_eq_none_iff.mp hlast)
    exact (List.find?_eq_none.mpr hnone).symm
  | some entry =>
    obtain ⟨hmem, hi⟩ := List.mem_filter.mp (List.mem_of_getLast? hlast)
    obtain rfl := eq_of_beq hi
    exact (find?_of_mem hdistinct hmem).symm

end ByDimension

variable {set : FeatureSet} {texts : List String} {named : List (Spec × Nat)}

/-- Each text is the specification at its place, of the dimension there. -/
abbrev Spell (set : FeatureSet) : List String → List (Spec × Nat) → Prop :=
  List.Forall₂ fun text entry => set.Specifies entry.2 text entry.1

/-! ## Reading -/

/-- What the specifications make of a dimension. -/
def component (set : FeatureSet) (named : List (Spec × Nat)) (i : Nat) : Float :=
  (named.find? fun entry => entry.2 == i).elim set.unset fun entry => set.signed entry.1.positive

namespace Resolves

variable (h : set.Resolves)

include h

theorem valueOf?_of_specifies {dimension : Nat} {text : String} {spec : Spec}
    (hspec : set.Specifies dimension text spec) (i : Nat) :
    set.valueOf? i text = if dimension == i then some (set.signed spec.positive) else none := by
  split
  · next hi =>
    obtain rfl := eq_of_beq hi
    exact h.valueOf?_eq_some_iff.mpr ⟨spec, hspec, rfl⟩
  · next hi =>
    rw [h.valueOf?_eq_none_iff]
    rintro other ⟨hother, hnames⟩
    obtain rfl := hspec.1.unique hother
    exact hi (beq_iff_eq.mpr (hspec.2.unique hnames))

theorem filterMap_valueOf? (hread : set.Spell texts named) (i : Nat) :
    texts.filterMap (set.valueOf? i) =
      (named.filter fun entry => entry.2 == i).map fun entry => set.signed entry.1.positive := by
  induction hread with
  | nil => rfl
  | @cons text entry _ _ hspec _ ih =>
    have hvalue := h.valueOf?_of_specifies hspec i
    by_cases hi : (entry.2 == i) = true
    · rw [if_pos hi] at hvalue
      rw [List.filterMap_cons_some hvalue, List.filter_cons, if_pos hi, List.map_cons, ih]
    · rw [if_neg hi] at hvalue
      rw [List.filterMap_cons_none hvalue, List.filter_cons, if_neg hi, ih]

/-- Each component is set by the one specification of its dimension, if there is one. -/
theorem phone_of_distinct (hname : set.HasName) (hread : set.Spell texts named)
    (hdistinct : (named.map Prod.snd).Nodup) :
    (set.phone texts).phone =
      set.groups.zipIdx.map fun place => set.component named place.2 := by
  refine List.ext_getElem? fun i => ?_
  have hunset : set.unsetPhone = set.groups.map fun _ => set.unset := by
    rw [unsetPhone, dimensions, List.map_const']
  rw [set.getElem?_phone (h.index_ne_nil_iff.mpr hname), h.filterMap_valueOf? hread,
    List.getLast?_map, getLast?_filter_eq_find? hdistinct, hunset, List.getElem?_map,
    List.getElem?_map, List.getElem?_zipIdx, Option.map_map, Option.map_map, Nat.zero_add]
  refine congrArg (Option.map · set.groups[i]?) (funext fun group => ?_)
  dsimp only [Function.comp_apply, component]
  cases named.find? fun entry => entry.2 == i <;> rfl

theorem issues_phone_of_spell (hname : set.HasName) (hread : set.Spell texts named) :
    (set.phone texts).issues = [] := by
  rw [set.issues_phone (h.index_ne_nil_iff.mpr hname)]
  induction hread with
  | nil => rfl
  | @cons text entry _ _ hspec _ ih =>
    have hissue : set.issue? text = none := by
      rw [Option.eq_none_iff_forall_ne_some]
      intro issue hissue
      exact (h.issue?_eq_some_iff.mp hissue).not_specifies _ _ hspec
    rw [List.filterMap_cons_none hissue, ih]

end Resolves

/-! ## Describing -/

theorem Separated.specOf_signed (h : set.Separated) (positive : Bool) (group : String) :
    set.specOf (set.signed positive, group) = some (signText positive ++ displayName group) := by
  have hplus := beq_self_of_number h.plus
  have hminus := beq_self_of_number h.minus
  have hapart : (set.minus == set.plus) = false := by rw [BEq.comm, h.plus_minus]
  cases positive <;> simp [specOf, signed, hplus, hminus, hapart]

theorem Separated.specOf_unset (h : set.Separated) (group : String) :
    set.specOf (set.unset, group) = none := by
  have hplus : (set.unset == set.plus) = false := by rw [BEq.comm, h.plus_unset]
  have hminus : (set.unset == set.minus) = false := by rw [BEq.comm, h.minus_unset]
  simp [specOf, hplus, hminus]

/-- The specification is shown with its sign, under the display name of its dimension. -/
def Shows (set : FeatureSet) (entry : Spec × Nat) (shown : String) : Prop :=
  ∃ display, set.displayNames[entry.2]? = some display ∧
    shown = signText entry.1.positive ++ display

theorem Resolves.describe_phone_of_distinct (h : set.Resolves) (hseparated : set.Separated)
    (hname : set.HasName) (hread : set.Spell texts named)
    (hdistinct : (named.map Prod.snd).Nodup) :
    set.describe (set.phone texts).phone = set.groups.zipIdx.filterMap fun place =>
      (named.find? fun entry => entry.2 == place.2).map fun entry =>
        signText entry.1.positive ++ displayName place.1 := by
  have hzip : (set.groups.zipIdx.map fun place => set.component named place.2).zip set.groups =
      set.groups.zipIdx.map fun place => (set.component named place.2, place.1) := by
    rw [← List.zip_map', List.zipIdx_map_fst]
  rw [describe_eq, h.phone_of_distinct hname hread hdistinct, hzip, List.filterMap_map]
  refine List.filterMap_congr fun place _ => ?_
  dsimp only [Function.comp_apply, component]
  cases named.find? fun entry => entry.2 == place.2 with
  | none => exact hseparated.specOf_unset _
  | some entry => exact hseparated.specOf_signed _ _

theorem byDimension_eq : byDimension set.dimensions named =
    set.groups.zipIdx.filterMap fun place => named.find? fun entry => entry.2 == place.2 := by
  have hrange : List.range set.dimensions = set.groups.zipIdx.map Prod.snd := by
    rw [List.zipIdx_map_snd, dimensions, List.range_eq_range']
  rw [byDimension, hrange, List.filterMap_map]
  rfl

theorem Resolves.shows_describe_phone (h : set.Resolves) (hseparated : set.Separated)
    (hname : set.HasName) (hread : set.Spell texts named)
    (hdistinct : (named.map Prod.snd).Nodup) :
    List.Forall₂ set.Shows (byDimension set.dimensions named)
      (set.describe (set.phone texts).phone) := by
  rw [byDimension_eq, h.describe_phone_of_distinct hseparated hname hread hdistinct]
  have hplaces : List.Forall₂ (fun place other => place = other ∧
      set.groups[place.2]? = some place.1) set.groups.zipIdx set.groups.zipIdx :=
    List.forall₂_same.mpr fun place hplace => ⟨rfl, List.mem_zipIdx_iff_getElem?.mp hplace⟩
  refine List.rel_filterMap ?_ hplaces
  rintro place _ ⟨rfl, hgroup⟩
  dsimp only
  cases hfind : named.find? fun entry => entry.2 == place.2 with
  | none => exact .none
  | some entry =>
    have hplace : entry.2 = place.2 := by simpa using List.find?_some hfind
    refine .some ⟨displayName place.1, ?_, rfl⟩
    rw [hplace, displayNames, List.getElem?_map, hgroup]
    rfl

/-- The dimensions that are specified are dimensions of the set. -/
theorem lt_dimensions_of_spell (hread : set.Spell texts named) :
    ∀ entry ∈ named, entry.2 < set.dimensions := by
  induction hread with
  | nil => simp
  | cons hspec _ ih => exact List.forall_mem_cons.mpr ⟨hspec.2.lt_dimensions, ih⟩

/-- Specifications of different dimensions, under any of their names and in any order, are read
without an issue; the description has each of them once, in the order of the dimensions, with its
sign and under the display name. -/
theorem describe_phone_byDimension {name : String} {groups : List String} {plus minus : Float}
    {unset : Option Float} (hname : (ofGroups name groups plus minus unset).HasName)
    (hseparated : (ofGroups name groups plus minus unset).Separated) {texts : List String}
    {named : List (Spec × Nat)} (hread : (ofGroups name groups plus minus unset).Spell texts named)
    (hdistinct : (named.map Prod.snd).Nodup) :
    let set := ofGroups name groups plus minus unset
    (set.phone texts).issues = [] ∧
      ∃ sorted : List (Spec × Nat), sorted.Perm named ∧
        sorted.Pairwise (fun entry next => entry.2 < next.2) ∧
        List.Forall₂ set.Shows sorted (set.describe (set.phone texts).phone) := by
  intro set
  have h : set.Resolves := resolves_ofGroups name groups plus minus unset
  refine ⟨h.issues_phone_of_spell hname hread, byDimension set.dimensions named, ?_, ?_, ?_⟩
  · exact perm_byDimension hdistinct (lt_dimensions_of_spell hread)
  · exact pairwise_byDimension
  · exact h.shows_describe_phone hseparated hname hread hdistinct

theorem separated_nasalVoiced : nasalVoiced.Separated where
  plus := by decide
  minus := by decide
  unset := by decide
  plus_minus := by decide
  plus_unset := by decide
  minus_unset := by decide

/-- The second dimension comes first in the text, in upper case and under its first name. -/
theorem describe_phone_byDimension_backwards :
    ofGroups "features" ["voi,voiced", "nasal"] 1 (-1) none = nasalVoiced ∧
      nasalVoiced.HasName ∧ nasalVoiced.Separated ∧
      nasalVoiced.Spell ["-VOI ", "+nasal"] [(⟨false, "VOI"⟩, 1), (⟨true, "nasal"⟩, 0)] ∧
      (nasalVoiced.phone ["-VOI ", "+nasal"]).issues = [] ∧
      nasalVoiced.describe (nasalVoiced.phone ["-VOI ", "+nasal"]).phone = ["+nasal", "-voiced"] ∧
      ∃ sorted : List (Spec × Nat), sorted.Perm [(⟨false, "VOI"⟩, 1), (⟨true, "nasal"⟩, 0)] ∧
        sorted.Pairwise (fun entry next => entry.2 < next.2) ∧
        List.Forall₂ nasalVoiced.Shows sorted ["+nasal", "-voiced"] := by
  have hread : nasalVoiced.Spell ["-VOI ", "+nasal"]
      [(⟨false, "VOI"⟩, 1), (⟨true, "nasal"⟩, 0)] := by
    refine .cons ⟨⟨by decide, by decide⟩, ?_⟩ (.cons ⟨⟨by decide, by decide⟩, ?_⟩ .nil)
    · exact names_nasalVoiced (by rfl)
    · exact names_nasalVoiced (by rfl)
  have hdescribe : nasalVoiced.describe (nasalVoiced.phone ["-VOI ", "+nasal"]).phone =
      ["+nasal", "-voiced"] := by rfl
  have hset := ofGroups_eq_nasalVoiced
  obtain ⟨hissues, hsorted⟩ := describe_phone_byDimension (hset ▸ hasName_nasalVoiced)
    (hset ▸ separated_nasalVoiced) (hset ▸ hread) (by decide)
  rw [hset] at hissues hsorted
  rw [hdescribe] at hsorted
  exact ⟨hset, hasName_nasalVoiced, separated_nasalVoiced, hread, hissues, hdescribe, hsorted⟩

end FeatureSet

end PhoneticSearch
