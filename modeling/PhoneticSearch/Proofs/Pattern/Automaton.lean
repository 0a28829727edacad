import PhoneticSearch.Pattern.Basic

/-!
# What automata accept

* `Automaton.agrees`: whether the characters of a text agree with the first places of a template.
* `Automaton.run_eq`: the state after a text counts its characters as long as they agree.
* `Pattern.matchesText_compile`: a replacement accepts its input and nothing else.
-/

namespace PhoneticSearch

namespace Automaton

/-- Each character of a text is what the template asks for at its place. -/
def agrees : List Transition → List Char → Bool
  | _, [] => true
  | [], _ :: _ => false
  | transition :: transitions, c :: rest => transition.accepts c && agrees transitions rest

theorem agrees_literal (template text : List Char) :
    agrees (template.map .literal) text = text.isPrefixOf template := by
  induction template generalizing text with
  | nil => cases text <;> rfl
  | cons t template ih =>
    cases text with
    | nil => rfl
    | cons c rest =>
      rw [List.map_cons, agrees, ih, List.isPrefixOf, Transition.accepts, Bool.beq_comm]

variable (automaton : Automaton)

/-- The state from the place `k` of a template on. -/
theorem foldl_step_active (k : Nat) (text : List Char) :
    text.foldl automaton.step (.active k) =
      if agrees (automaton.transitions.toList.drop k) text then .active (k + text.length)
      else .failed := by
  induction text generalizing k with
  | nil => simp [agrees]
  | cons c rest ih =>
    rw [List.foldl_cons, step, ← Array.getElem?_toList]
    cases hk : automaton.transitions.toList[k]? with
    | none =>
      have hdrop : automaton.transitions.toList.drop k = [] := by
        rw [List.drop_eq_nil_iff]
        exact List.getElem?_eq_none_iff.mp hk
      rw [hdrop, agrees]
      exact foldl_step_failed automaton rest
    | some transition =>
      have hdrop : automaton.transitions.toList.drop k =
          transition :: automaton.transitions.toList.drop (k + 1) := by
        obtain ⟨hlt, rfl⟩ := List.getElem?_eq_some_iff.mp hk
        exact List.drop_eq_getElem_cons hlt
      rw [hdrop, agrees]
      cases hc : transition.accepts c with
      | false => simpa [hc] using foldl_step_failed automaton rest
      | true =>
        simp only [hc, if_true, Bool.true_and]
        rw [ih, List.length_cons, Nat.add_assoc, Nat.add_comm 1]

theorem run_of_isInert (h : automaton.isInert = true) (text : List Char) :
    automaton.run text = .failed := by
  rw [run, start, if_pos h, foldl_step_failed]

theorem run_eq (h : automaton.isInert = false) (text : List Char) :
    automaton.run text =
      if agrees automaton.transitions.toList text then .active text.length else .failed := by
  rw [run, start, h, if_neg Bool.false_ne_true, foldl_step_active, List.drop_zero, Nat.zero_add]

theorem matchesText_iff (text : List Char) :
    automaton.matchesText text = true ↔
      automaton.isInert = false ∧ agrees automaton.transitions.toList text = true ∧
        text.length = automaton.length := by
  rw [matchesText, accepts, Bool.and_eq_true, Bool.not_eq_true']
  constructor
  · rintro ⟨hlive, hstate⟩
    rw [run_eq automaton hlive] at hstate
    split at hstate
    · next hagrees => exact ⟨hlive, hagrees, by simpa using hstate⟩
    · cases hstate
  · rintro ⟨hlive, hagrees, hlength⟩
    refine ⟨hlive, ?_⟩
    rw [run_eq automaton hlive, if_pos hagrees, hlength]
    exact beq_self_eq_true _

end Automaton

namespace Pattern

variable (pattern : Pattern)

theorem wildcardOffset_lt {offset : Nat} (h : pattern.wildcardOffset = some offset) :
    offset < pattern.template.length := by
  rw [wildcardOffset] at h
  split at h
  · next hcount =>
    cases h
    exact List.idxOf_lt_length_of_mem (List.count_pos_iff.mp (by omega))
  · cases h

theorem count_wildcard (h : pattern.isReplacement = false) :
    pattern.template.count wildcard = 1 := by
  rw [isReplacement, wildcardOffset] at h
  split at h
  · next hcount => exact hcount
  · cases h

theorem isInert_compile : pattern.compile.isInert = pattern.isInert := by
  rw [compile]
  split
  · next h => rw [h]; rfl
  · next h =>
    have hne : pattern.template ≠ [] := by
      intro hnil
      exact h (by rw [isInert, hnil]; rfl)
    rw [Bool.not_eq_true] at h
    rw [h]
    split
    · simpa [Automaton.isInert, Automaton.literal] using hne
    · next offset hoffset =>
      rw [Automaton.template?, if_pos (pattern.wildcardOffset_lt hoffset)]
      simpa [Automaton.isInert] using hne

theorem compile_of_isReplacement (hlive : pattern.isInert = false)
    (h : pattern.isReplacement = true) : pattern.compile = .literal pattern.template := by
  have hnone : pattern.wildcardOffset = none := by simpa [isReplacement] using h
  rw [compile, hlive, if_neg Bool.false_ne_true, hnone]

theorem matchesText_compile (h : pattern.isReplacement = true) (text : List Char) :
    pattern.compile.matchesText text = true ↔
      pattern.isInert = false ∧ text = pattern.template := by
  rw [Automaton.matchesText_iff, isInert_compile]
  constructor
  · rintro ⟨hlive, hagrees, hlength⟩
    rw [pattern.compile_of_isReplacement hlive h] at hagrees hlength
    simp only [Automaton.literal, Automaton.agrees_literal, Automaton.length, List.size_toArray,
      List.length_map, List.isPrefixOf_iff_prefix] at hagrees hlength
    exact ⟨hlive, hagrees.eq_of_length hlength⟩
  · rintro ⟨hlive, rfl⟩
    rw [pattern.compile_of_isReplacement hlive h]
    simp [Automaton.literal, Automaton.agrees_literal, Automaton.length, hlive]

end Pattern
end PhoneticSearch
