import PhoneticSearch.Proofs.Pattern.Automaton

/-!
# Where templates match

* `Pattern.covers`: whether a text begins as a template says, where a wildcard takes any character.
* `Pattern.overlies`: the same for a pattern that is a template and not inert.
* `Pattern.matchesText_take_template`: the automaton of a template accepts the texts that begin so.
-/

namespace PhoneticSearch
namespace Pattern

/-- Each character of a template is met by the text at its place; a wildcard is met by any one. -/
def covers : List Char → List Char → Bool
  | [], _ => true
  | _ :: _, [] => false
  | t :: template, c :: text => (t == wildcard || t == c) && covers template text

/-- Whether a template matches what a text begins with. -/
def overlies (pattern : Pattern) (text : List Char) : Bool :=
  !pattern.isInert && !pattern.isReplacement && covers pattern.template text

theorem length_le_of_covers {template text : List Char} (h : covers template text = true) :
    template.length ≤ text.length := by
  induction template generalizing text with
  | nil => exact Nat.zero_le _
  | cons t template ih =>
    cases text with
    | nil => cases h
    | cons c text =>
      rw [covers, Bool.and_eq_true] at h
      exact Nat.succ_le_succ (ih h.2)

theorem covers_take {template text : List Char} {n : Nat} (h : template.length ≤ n) :
    covers template (text.take n) = covers template text := by
  induction template generalizing text n with
  | nil => rw [covers, covers]
  | cons t template ih =>
    obtain ⟨n, rfl⟩ : ∃ m, n = m + 1 := ⟨n - 1, by simp at h; omega⟩
    cases text with
    | nil => rfl
    | cons c text => rw [List.take_succ_cons, covers, covers, ih (Nat.le_of_succ_le_succ h)]

/-- What the automaton of a template asks for at the place of a character. -/
def place (t : Char) : Transition := if t == wildcard then .any else .literal t

theorem set_any_eq_map_place {template : List Char} (h : template.count wildcard ≤ 1) :
    (template.map Transition.literal).set (template.idxOf wildcard) .any = template.map place := by
  induction template with
  | nil => rfl
  | cons t template ih =>
    rw [List.idxOf_cons]
    by_cases ht : t = wildcard
    · have hrest : ∀ c ∈ template, Transition.literal c = place c := by
        intro c hc
        have hne : c ≠ wildcard := by
          rintro rfl
          have := List.count_pos_iff.mpr hc
          rw [ht, List.count_cons_self] at h
          omega
        simp [place, hne]
      simp [ht, place, List.map_inj_left.mpr hrest]
    · rw [List.count_cons_of_ne ht] at h
      have hfalse : (t == wildcard) = false := by simpa using ht
      rw [hfalse, cond_false, List.map_cons, List.set_cons_succ, ih h]
      simp [place, ht]

theorem agrees_map_place {template text : List Char} (h : text.length = template.length) :
    Automaton.agrees (template.map place) text = covers template text := by
  induction template generalizing text with
  | nil =>
    rw [List.eq_nil_of_length_eq_zero h]
    rfl
  | cons t template ih =>
    cases text with
    | nil => cases h
    | cons c text =>
      have hplace : (place t).accepts c = (t == wildcard || t == c) := by
        rw [place]
        cases t == wildcard <;> rfl
      rw [List.map_cons, Automaton.agrees, covers, hplace, ih (Nat.succ.inj h)]

variable {pattern : Pattern}

theorem idxOf_wildcard_lt (h : pattern.isReplacement = false) :
    pattern.template.idxOf wildcard < pattern.length := by
  have hcount := pattern.count_wildcard h
  exact List.idxOf_lt_length_of_mem (List.count_pos_iff.mp (by omega))

theorem compile_template (hlive : pattern.isInert = false) (h : pattern.isReplacement = false) :
    pattern.compile =
      ⟨(pattern.template.map place).toArray, some (pattern.template.idxOf wildcard)⟩ := by
  have hcount := pattern.count_wildcard h
  have hlt : pattern.template.idxOf wildcard < pattern.template.length := idxOf_wildcard_lt h
  rw [compile, hlive, if_neg Bool.false_ne_true, wildcardOffset, if_pos hcount]
  simp only [Automaton.template?, if_pos hlt, Option.getD_some]
  rw [set_any_eq_map_place (Nat.le_of_eq hcount)]

theorem length_le_of_overlies {text : List Char} (h : pattern.overlies text = true) :
    0 < pattern.length ∧ pattern.length ≤ text.length := by
  simp only [overlies, Bool.and_eq_true, Bool.not_eq_true'] at h
  obtain ⟨⟨hlive, -⟩, hcovers⟩ := h
  refine ⟨?_, length_le_of_covers hcovers⟩
  have hne : pattern.template ≠ [] := by
    intro hnil
    simp [isInert, hnil] at hlive
  exact List.length_pos_iff.mpr hne

/-- A template matches the first `n` characters of a text if it overlies it and has this length. -/
theorem matchesText_take_template (hlive : pattern.isInert = false)
    (h : pattern.isReplacement = false) {text : List Char} {n : Nat} (hn : n ≤ text.length) :
    pattern.compile.matchesText (text.take n) =
      (pattern.length == n && pattern.overlies text) := by
  have htake : (text.take n).length = n := by rw [List.length_take, Nat.min_eq_left hn]
  have hlength : pattern.compile.length = pattern.length := by
    simp [compile_template hlive h, Automaton.length, length]
  have hagrees : pattern.length = n →
      Automaton.agrees pattern.compile.transitions.toList (text.take n) =
        covers pattern.template text := by
    intro hn
    rw [compile_template hlive h, agrees_map_place (htake.trans hn.symm),
      covers_take (Nat.le_of_eq hn)]
  rw [Bool.eq_iff_iff, Automaton.matchesText_iff, isInert_compile, hlength, htake]
  simp only [overlies, hlive, h, Bool.not_false, Bool.true_and, Bool.and_eq_true, beq_iff_eq,
    true_and]
  constructor
  · rintro ⟨htext, hlen⟩
    exact ⟨hlen.symm, hagrees hlen.symm ▸ htext⟩
  · rintro ⟨hlen, hcovers⟩
    exact ⟨(hagrees hlen).trans hcovers, hlen.symm⟩

end Pattern
end PhoneticSearch
