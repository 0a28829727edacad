import PhoneticSearch.Files.Loading

/-!
# Problems

A defect of a configuration or of its data never stops the work: whoever finds it records it and
goes on without the defective part.

* `Issue`: what is wrong; `Issue.message` is the only place with its wording.
* `Owner`: whose problem it is.
* `Problem`: an issue with its owner.
-/

namespace PhoneticSearch

inductive ReferenceKind where
  | featureSet
  | encoding
  | lexiconKind
  | lexicon
  | hypotheses
  | feature
deriving Repr, DecidableEq

def ReferenceKind.text : ReferenceKind → String
  | .featureSet => "feature set"
  | .encoding => "encoding"
  | .lexiconKind => "lexicon kind"
  | .lexicon => "lexicon"
  | .hypotheses => "hypotheses"
  | .feature => "feature"

inductive Issue where
  | noFeatures
  | invalidFeatureName (name : String)
  | duplicateFeatureName (name : String)
  | invalidFeatureSpec (spec : String)
  | unknownFeatureName (name : String)
  | emptyInput
  | missingPhones (input : String)
  | ambiguousPhones (input : String)
  | patternFeature (input : String) (issue : Issue)
  | noIpaEncoding (input : String)
  /-- The IPA encoding is over a feature set of another size. -/
  | dimensionMismatch (features : String) (expected ipa : Nat)
  | emptyIpa (input ipa : String)
  | multipleWildcards (input : String)
  | duplicateHeadword (headword : String)
  | lexiconUnread (fault : LoadFault)
  | noPronunciation (line : Nat) (word : String)
  | unknownReference (kind : ReferenceKind) (id : String)
  | unloaded (fault : LoadFault)
  | duplicateId (kind : ReferenceKind) (id : String)
deriving Repr, DecidableEq

namespace Issue

def message : Issue → String
  | noFeatures => "no features are defined"
  | invalidFeatureName name => s!"invalid feature name '{name}'; must be only word characters"
  | duplicateFeatureName name => s!"duplicate feature name '{name}'"
  | invalidFeatureSpec spec => s!"invalid feature specification '{spec}'"
  | unknownFeatureName name => s!"unknown feature name '{name}'"
  | emptyInput => "empty input template"
  | missingPhones input => s!"no feature specification or IPA string for '{input}'"
  | ambiguousPhones input => s!"both feature specification and IPA string given for '{input}'"
  | patternFeature input issue =>
    let inner := message issue
    s!"error in feature spec for '{input}': {inner}"
  | noIpaEncoding input => s!"IPA string given for '{input}' but no 'ipa' encoding is available"
  | dimensionMismatch features expected ipa =>
    s!"'ipa' encoding has {ipa} dimensions but feature set '{features}' has {expected}"
  | emptyIpa input ipa => s!"IPA string '{ipa}' for '{input}' produced no phones"
  | multipleWildcards input =>
    s!"template '{input}' has more than one wildcard; treated as a literal replacement"
  | duplicateHeadword headword => s!"duplicate lemma '{headword}'"
  | lexiconUnread fault =>
    let reason := fault.message
    s!"unable to load lexicon: {reason}"
  | noPronunciation line word => s!"line {line}: no pronunciation for '{word}'"
  | unknownReference kind id =>
    let kind := kind.text
    s!"unknown {kind} '{id}'"
  | unloaded fault => fault.message
  | duplicateId kind id =>
    let kind := kind.text
    s!"duplicate {kind} id '{id}'"

end Issue

inductive Owner where
  | configuration
  | featureSet (name : String)
  | encoding (name : String)
  | lexicon (name : String)
  | hypotheses (name : String)
  | matcher
  | input
deriving Repr, DecidableEq

def Owner.text : Owner → String
  | .configuration => "configuration"
  | .featureSet name => s!"feature set '{name}'"
  | .encoding name => s!"encoding '{name}'"
  | .lexicon name => s!"lexicon '{name}'"
  | .hypotheses name => s!"hypotheses '{name}'"
  | .matcher => "matcher"
  | .input => "input"

structure Problem where
  owner : Owner
  issue : Issue
deriving Repr, DecidableEq

def Problem.message (problem : Problem) : String :=
  problem.owner.text ++ ": " ++ problem.issue.message

end PhoneticSearch
