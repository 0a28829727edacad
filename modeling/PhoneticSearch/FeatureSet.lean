import PhoneticSearch.Issue
import PhoneticSearch.Text.Pieces
import PhoneticSearch.Text.Uppercase
import PhoneticSearch.Text.WordChar

/-!
# Feature sets

A feature set names the dimensions of its phones and fixes their order once.

* `Phone`: one number for each dimension.
* `FeatureSet.ofGroups`: the set with one dimension for each group of names.
* `FeatureSet.phone`: the phone that a list of `+name` and `-name` describes; `describe` goes back.
* `FeatureSet.override`: a phone laid over another one.
-/

namespace PhoneticSearch

/-- One number for each dimension of a feature set. -/
abbrev Phone := List Float

/-- The named dimensions of phones, in sorted order. -/
structure FeatureSet where
  name : String
  groups : List String
  /-- The dimension of each usable name in upper case. -/
  index : List (String × Nat)
  plus : Float
  minus : Float
  unset : Float
  problems : List Problem

namespace FeatureSet

def canonical (groups : List String) : List String :=
  (groups.map Text.trim).mergeSort fun a b => decide (a ≤ b)

/-- The names of a group, as they are separated by commas. -/
def aliases (group : String) : List String :=
  ((Text.pieces (· == ',') group.toList).map fun piece =>
    String.ofList (Text.trimChars piece)).filter (· ≠ "")

/-- A dimension is shown under its last name. -/
def displayName (group : String) : String := (aliases group).getLast?.getD group

def isWord (name : String) : Bool := !name.toList.isEmpty && name.toList.all Text.isWordChar

/-- Names bound so far, and the issues met while binding them. -/
structure Binding where
  index : List (String × Nat)
  issues : List Issue

/-- Binds a name to a dimension; a name that is no word or is bound already is an issue. -/
def Binding.add (binding : Binding) (name : String) (dimension : Nat) : Binding :=
  if !isWord name then { binding with issues := binding.issues ++ [.invalidFeatureName name] }
  else
    let key := Text.upper name
    if (binding.index.lookup key).isSome then
      { binding with issues := binding.issues ++ [.duplicateFeatureName name] }
    else { binding with index := (key, dimension) :: binding.index }

/-- All names with their dimensions, in the order in which they are bound. -/
def namesOf (groups : List String) : List (String × Nat) :=
  groups.zipIdx.flatMap fun entry => (aliases entry.1).map fun name => (name, entry.2)

def bindAll (groups : List String) : Binding :=
  (namesOf groups).foldl (fun binding entry => binding.add entry.1 entry.2)
    ⟨[], if groups.isEmpty then [.noFeatures] else []⟩

/-- The feature set with one dimension for each group. What is neither plus nor minus lies half
way between them, unless `unset` says otherwise. -/
def ofGroups (name : String) (groups : List String) (plus minus : Float) (unset : Option Float) :
    FeatureSet :=
  let sorted := canonical groups
  let binding := bindAll sorted
  { name
    groups := sorted
    index := binding.index
    plus
    minus
    unset := unset.getD ((plus + minus) / 2)
    problems := binding.issues.map fun issue => ⟨.featureSet name, issue⟩ }

def defaultName : String := "features"

def defaultPlus : Float := 1

def defaultMinus : Float := -1

def displayNames (set : FeatureSet) : List String := set.groups.map displayName

def dimensions (set : FeatureSet) : Nat := set.groups.length

/-- The dimension with a name, in any case and with blanks around it. -/
def dimension? (set : FeatureSet) (name : String) : Option Nat :=
  set.index.lookup (Text.upper (Text.trim name))

def unsetPhone (set : FeatureSet) : Phone := List.replicate set.dimensions set.unset

structure Spec where
  positive : Bool
  name : String
deriving Repr, DecidableEq

/-- Reads a sign followed by a word. -/
def Spec.ofText? (text : String) : Option Spec :=
  match text.toList with
  | '+' :: name => if isWord (String.ofList name) then some ⟨true, String.ofList name⟩ else none
  | '-' :: name => if isWord (String.ofList name) then some ⟨false, String.ofList name⟩ else none
  | _ => none

def signed (set : FeatureSet) (positive : Bool) : Float := if positive then set.plus else set.minus

structure Described where
  phone : Phone
  issues : List Issue

/-- Takes one specification into account; a bad one changes no component. -/
def Described.add (set : FeatureSet) (described : Described) (spec : String) : Described :=
  let spec := Text.trim spec
  if spec == "" then described
  else
    match Spec.ofText? spec with
    | none => { described with issues := described.issues ++ [.invalidFeatureSpec spec] }
    | some ⟨positive, name⟩ =>
      match set.index.lookup (Text.upper name) with
      | none => { described with issues := described.issues ++ [.unknownFeatureName name] }
      | some dimension =>
        { described with phone := described.phone.set dimension (set.signed positive) }

/-- The phone that a list of specifications describes; of two that contradict each other the later
one counts. -/
def phone (set : FeatureSet) (specs : List String) : Described :=
  if set.index.isEmpty then ⟨set.unsetPhone, [.noFeatures]⟩
  else specs.foldl (Described.add set) ⟨set.unsetPhone, []⟩

/-- The specifications of the components that are plus or minus. -/
def describe (set : FeatureSet) (phone : Phone) : List String :=
  (phone.zip set.groups).filterMap fun (value, group) =>
    if value == set.plus then some ("+" ++ displayName group)
    else if value == set.minus then some ("-" ++ displayName group)
    else none

/-- The components of `overlay` that are set, over those of `base`. -/
def override (set : FeatureSet) : Phone → Phone → Phone
  | [], _ => []
  | base, [] => base
  | base :: bases, value :: values =>
    (if value != set.unset then value else base) :: set.override bases values

end FeatureSet

end PhoneticSearch
