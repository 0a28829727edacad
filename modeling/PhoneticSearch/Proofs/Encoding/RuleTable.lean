import PhoneticSearch.Encoding.Encoder
import PhoneticSearch.Proofs.Pattern.Automaton
import PhoneticSearch.Proofs.StableSort

/-!
# Rule tables

* `RuleTable.replacements_ofPatterns`, `RuleTable.templates_ofPatterns`: the rules are the patterns
  that are not inert, by kind, in their order.
* `RuleTable.mem_modifiers_ofPatterns`: the modifiers are the literal characters of the templates.
* `Encoding.find?_byLength`: the first pattern of one length is the same before and after sorting.
-/

namespace PhoneticSearch

namespace Pattern

/-- Whether a character is a literal one of a template that is not inert. -/
def modifies (pattern : Pattern) (c : Char) : Bool :=
  !pattern.isInert && !pattern.isReplacement && pattern.template.contains c && c != wildcard

theorem literals_set_any (template : List Char) :
    (((template.map Transition.literal).set (template.idxOf wildcard) .any).filterMap fun
      | .literal c => some c
      | .any => none) = template.erase wildcard := by
  induction template with
  | nil => rfl
  | cons c rest ih =>
    rw [List.idxOf_cons, List.erase_cons]
    cases c == wildcard with
    | true => simp [List.filterMap_map]
    | false =>
      rw [cond_false, List.map_cons, List.set_cons_succ, List.filterMap_cons]
      simp only [ih]
      rfl

theorem literals_compile (pattern : Pattern) (hlive : pattern.isInert = false)
    (h : pattern.isReplacement = false) :
    pattern.compile.literals = pattern.template.erase wildcard := by
  have hcount := pattern.count_wildcard h
  have hlt : pattern.template.idxOf wildcard < pattern.template.length :=
    List.idxOf_lt_length_of_mem (List.count_pos_iff.mp (by omega))
  rw [compile, hlive, if_neg Bool.false_ne_true, wildcardOffset, if_pos hcount]
  simp only [Automaton.template?, if_pos hlt, Option.getD_some, Automaton.literals]
  exact literals_set_any pattern.template

theorem mem_literals_compile (pattern : Pattern) (hlive : pattern.isInert = false)
    (h : pattern.isReplacement = false) (c : Char) :
    c ∈ pattern.compile.literals ↔ c ∈ pattern.template ∧ c ≠ wildcard := by
  have hcount := pattern.count_wildcard h
  rw [pattern.literals_compile hlive h]
  by_cases hc : c = wildcard
  · subst hc
    have hzero : (pattern.template.erase wildcard).count wildcard = 0 := by
      rw [List.count_erase_self, hcount]
    simpa using List.count_eq_zero.mp hzero
  · rw [List.mem_erase_of_ne hc]
    simp [hc]

end Pattern

namespace Rule

@[simp] theorem pattern_ofPattern (pattern : Pattern) : (ofPattern pattern).pattern = pattern := rfl

@[simp] theorem automaton_ofPattern (pattern : Pattern) :
    (ofPattern pattern).automaton = pattern.compile := rfl

end Rule

namespace RuleTable

variable (patterns : List Pattern)

theorem replacements_ofPatterns :
    (ofPatterns patterns).replacements =
      (patterns.filter fun pattern => pattern.isReplacement && !pattern.isInert).map
        Rule.ofPattern := by
  simp only [ofPatterns, List.filter_map, List.filter_filter]
  congr 2
  funext pattern
  simp [Pattern.isInert_compile]

theorem templates_ofPatterns :
    (ofPatterns patterns).templates =
      (patterns.filter fun pattern => !pattern.isReplacement && !pattern.isInert).map
        Rule.ofPattern := by
  simp only [ofPatterns, List.filter_map, List.filter_filter]
  congr 2
  funext pattern
  simp [Pattern.isInert_compile]

theorem mem_modifiers_ofPatterns (c : Char) :
    c ∈ (ofPatterns patterns).modifiers ↔ ∃ pattern ∈ patterns, pattern.modifies c = true := by
  have hmodifiers : (ofPatterns patterns).modifiers =
      (ofPatterns patterns).templates.flatMap fun rule => rule.automaton.literals := rfl
  rw [hmodifiers, templates_ofPatterns]
  simp only [List.flatMap_map, List.mem_flatMap, List.mem_filter, Bool.and_eq_true,
    Bool.not_eq_true', Pattern.modifies, List.contains_iff_mem, bne_iff_ne, ne_eq]
  constructor
  · rintro ⟨pattern, ⟨hmem, hkind, hlive⟩, hc⟩
    obtain ⟨htemplate, hne⟩ := (pattern.mem_literals_compile hlive hkind c).mp hc
    exact ⟨pattern, hmem, ⟨⟨⟨hlive, hkind⟩, htemplate⟩, hne⟩⟩
  · rintro ⟨pattern, hmem, ⟨⟨⟨hlive, hkind⟩, htemplate⟩, hne⟩⟩
    exact ⟨pattern, ⟨hmem, hkind, hlive⟩,
      (pattern.mem_literals_compile hlive hkind c).mpr ⟨htemplate, hne⟩⟩

end RuleTable

namespace Encoding

variable (patterns : List Pattern)

theorem perm_byLength : (byLength patterns).Perm patterns := List.mergeSort_perm _ _

theorem filter_byLength (n : Nat) :
    (byLength patterns).filter (fun pattern => pattern.length == n) =
      patterns.filter fun pattern => pattern.length == n := by
  apply filter_mergeSort
  · intro a b c hab hbc
    simp only [decide_eq_true_eq] at hab hbc ⊢
    exact hbc.trans hab
  · intro a b
    simpa using Nat.le_total b.length a.length
  · intro a b ha hb
    simp only [beq_iff_eq] at ha hb
    simp [ha, hb]

theorem find?_byLength (p : Pattern → Bool) (n : Nat) :
    ((byLength patterns).find? fun pattern => pattern.length == n && p pattern) =
      patterns.find? fun pattern => pattern.length == n && p pattern := by
  have h := congrArg (List.find? p) (filter_byLength patterns n)
  simpa only [List.find?_filter, Bool.decide_and, Bool.decide_eq_true] using h

end Encoding
end PhoneticSearch
