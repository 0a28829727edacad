import Mathlib.Data.List.Forall2
import Mathlib.Order.Bounds.Defs
import PhoneticSearch.Proofs.Pattern.Automaton
import PhoneticSearch.Proofs.Pattern.LongestMatch

/-!
# The first of the longest matches

* `Automaton.Spells`: a text has the characters that a template asks for, told without scanning.
* `MatchesPrefix`: a rule matches what a row begins with.
* `matching?_eq_some_iff`: the first rule that matches a text is the one at the least place.
* `longestMatch_isGreatest`: the search that runs all rules side by side finds the greatest length of
  a prefix that some rule matches and, of the rules that match this prefix, the first one.
-/

namespace PhoneticSearch

namespace Automaton

/-- Each place of a template takes the character of a text at this place, and no place and no
character is left. No template takes the empty text. -/
def Spells (automaton : Automaton) (text : List Char) : Prop :=
  text ≠ [] ∧
    List.Forall₂ (fun transition c => transition = .any ∨ transition = .literal c)
      automaton.transitions.toList text

theorem accepts_iff (transition : Transition) (c : Char) :
    transition.accepts c = true ↔ transition = .any ∨ transition = .literal c := by
  cases transition with
  | literal expected => simp [Transition.accepts]
  | any => simp [Transition.accepts]

theorem agrees_iff_forall₂ (transitions : List Transition) (text : List Char) :
    agrees transitions text = true ∧ text.length = transitions.length ↔
      List.Forall₂ (fun transition c => transition = .any ∨ transition = .literal c) transitions
        text := by
  induction transitions generalizing text with
  | nil => cases text <;> simp [agrees]
  | cons transition transitions ih =>
    cases text with
    | nil => simp
    | cons c rest =>
      rw [List.forall₂_cons, ← ih, ← accepts_iff, agrees, Bool.and_eq_true, List.length_cons,
        List.length_cons, Nat.add_right_cancel_iff, and_assoc]

theorem matchesText_iff_spells (automaton : Automaton) (text : List Char) :
    automaton.matchesText text = true ↔ automaton.Spells text := by
  have hlength : automaton.length = automaton.transitions.toList.length := rfl
  rw [matchesText_iff, hlength, agrees_iff_forall₂, Spells]
  refine and_congr_left fun h => ?_
  have hempty : automaton.isInert = true ↔ text = [] := by
    rw [isInert, ← List.length_eq_zero_iff, ← h.length_eq]
    simp
  rw [← Bool.not_eq_true, hempty]

end Automaton

namespace Segment

variable {ρ α : Type} (automaton : ρ → Automaton) (rules : List ρ)

/-- A rule matches the first `length` items of a row. -/
def MatchesPrefix (char : α → Char) (row : List α) (rule : ρ) (length : Nat) : Prop :=
  length ≤ row.length ∧ (automaton rule).Spells ((row.take length).map char)

theorem matchesText_take_iff (char : α → Char) (row : List α) (rule : ρ) {length : Nat}
    (h : length ≤ row.length) :
    (automaton rule).matchesText ((row.map char).take length) = true ↔
      MatchesPrefix automaton char row rule length := by
  rw [Automaton.matchesText_iff_spells, ← List.map_take, MatchesPrefix]
  exact (and_iff_right h).symm

theorem MatchesPrefix.pos {automaton : ρ → Automaton} {char : α → Char} {row : List α} {rule : ρ}
    {length : Nat} (h : MatchesPrefix automaton char row rule length) : 0 < length := by
  obtain ⟨-, hne, -⟩ := h
  cases length with
  | zero => exact absurd rfl hne
  | succ n => exact Nat.succ_pos n

theorem matching?_eq_some_iff (text : List Char) (rule : ρ) :
    matching? automaton rules text = some rule ↔
      ∃ i : Nat, rules[i]? = some rule ∧
        IsLeast {j | ∃ other, rules[j]? = some other ∧ (automaton other).matchesText text = true}
          i := by
  rw [matching?, List.find?_eq_some_iff_getElem]
  constructor
  · rintro ⟨hmatch, i, hi, rfl, hbefore⟩
    have hget : rules[i]? = some rules[i] := List.getElem?_eq_getElem hi
    refine ⟨i, hget, ⟨_, hget, hmatch⟩, ?_⟩
    rintro j ⟨other, hother, hmatch'⟩
    apply Nat.le_of_not_lt
    intro hlt
    obtain ⟨hj, rfl⟩ := List.getElem?_eq_some_iff.mp hother
    have hnot := hbefore j hlt
    rw [hmatch'] at hnot
    cases hnot
  · rintro ⟨i, hget, ⟨other, hother, hmatch⟩, hleast⟩
    rw [hget, Option.some.injEq] at hother
    subst hother
    obtain ⟨hi, rfl⟩ := List.getElem?_eq_some_iff.mp hget
    refine ⟨hmatch, i, hi, rfl, ?_⟩
    intro j hj
    rw [Bool.not_eq_true', Bool.eq_false_iff]
    intro hmatch'
    exact Nat.not_le_of_lt hj (hleast ⟨rules[j], List.getElem?_eq_getElem _, hmatch'⟩)

theorem matching?_eq_none_iff (text : List Char) :
    matching? automaton rules text = none ↔
      ∀ rule ∈ rules, ¬ (automaton rule).matchesText text = true := by
  rw [matching?, List.find?_eq_none]

theorem longestMatch_eq_some_iff (char : α → Char) (row : List α) (rule : ρ) (length : Nat) :
    longestMatch automaton rules char row = some (rule, length) ↔
      IsGreatest {n | ∃ other ∈ rules, MatchesPrefix automaton char row other n} length ∧
        ∃ i : Nat, rules[i]? = some rule ∧
          IsLeast {j | ∃ other, rules[j]? = some other ∧
            MatchesPrefix automaton char row other length} i := by
  rw [longestMatch_eq, longestUpTo_eq_some_iff, matching?_eq_some_iff]
  simp only [matching?_eq_none_iff]
  constructor
  · rintro ⟨-, hle, ⟨i, hget, hleast⟩, hlonger⟩
    simp only [matchesText_take_iff automaton char row _ hle] at hleast
    obtain ⟨other, hother, hmatch⟩ := hleast.1
    refine ⟨⟨⟨other, List.mem_of_getElem? hother, hmatch⟩, ?_⟩, i, hget, hleast⟩
    rintro n ⟨longer, hmem, hmatch'⟩
    apply Nat.le_of_not_lt
    intro hlt
    exact hlonger n hlt hmatch'.1 longer hmem
      ((matchesText_take_iff automaton char row longer hmatch'.1).mpr hmatch')
  · rintro ⟨⟨⟨other, hmem, hmatch⟩, hgreatest⟩, i, hget, hleast⟩
    refine ⟨hmatch.pos, hmatch.1, ⟨i, hget, ?_⟩, ?_⟩
    · simpa only [matchesText_take_iff automaton char row _ hmatch.1] using hleast
    · intro n hlt hn longer hmem hmatch'
      rw [matchesText_take_iff automaton char row longer hn] at hmatch'
      exact Nat.not_le_of_lt hlt (hgreatest ⟨longer, hmem, hmatch'⟩)

theorem longestMatch_eq_none_iff (char : α → Char) (row : List α) :
    longestMatch automaton rules char row = none ↔
      ∀ rule ∈ rules, ∀ length, ¬ MatchesPrefix automaton char row rule length := by
  rw [longestMatch_eq, longestUpTo_eq_none_iff]
  simp only [matching?_eq_none_iff]
  constructor
  · intro h rule hmem length hmatch
    exact h length hmatch.pos hmatch.1 rule hmem
      ((matchesText_take_iff automaton char row rule hmatch.1).mpr hmatch)
  · intro h length hpos hle rule hmem hmatch
    exact h rule hmem length ((matchesText_take_iff automaton char row rule hle).mp hmatch)

/-- The search finds the greatest length of a prefix that some rule matches, and of the rules that
match this prefix the one at the least place. It finds nothing just if no rule matches any prefix:
neither the stop when no rule is left nor a longer rule that stays unfinished loses a match. -/
theorem longestMatch_isGreatest (char : α → Char) (row : List α) :
    (∀ (rule : ρ) (length : Nat),
      longestMatch automaton rules char row = some (rule, length) ↔
        0 < length ∧
        IsGreatest {n | ∃ other ∈ rules, MatchesPrefix automaton char row other n} length ∧
        ∃ i : Nat, rules[i]? = some rule ∧
          IsLeast {j | ∃ other, rules[j]? = some other ∧
            MatchesPrefix automaton char row other length} i) ∧
    (longestMatch automaton rules char row = none ↔
      ∀ rule ∈ rules, ∀ length, ¬ MatchesPrefix automaton char row rule length) ∧
    ∀ rule ∈ rules, ∀ length, MatchesPrefix automaton char row rule length →
      ∃ found longest, longestMatch automaton rules char row = some (found, longest) ∧
        length ≤ longest := by
  refine ⟨?_, longestMatch_eq_none_iff automaton rules char row, ?_⟩
  · intro rule length
    rw [longestMatch_eq_some_iff, iff_and_self]
    rintro ⟨⟨⟨other, -, hmatch⟩, -⟩, -⟩
    exact hmatch.pos
  · intro rule hmem length hmatch
    cases hfound : longestMatch automaton rules char row with
    | none =>
      rw [longestMatch_eq_none_iff] at hfound
      exact absurd hmatch (hfound rule hmem length)
    | some found =>
      obtain ⟨found, longest⟩ := found
      obtain ⟨hgreatest, -⟩ := (longestMatch_eq_some_iff ..).mp hfound
      exact ⟨found, longest, rfl, hgreatest.2 ⟨rule, hmem, hmatch⟩⟩

/-- The first rule has read three characters when the row ends, the second one had matched two. -/
theorem longestMatch_isGreatest_unfinished :
    let rules : List Automaton := [.literal ['a', 'b', 'c', 'd'], .literal ['a', 'b']]
    .literal ['a', 'b'] ∈ rules ∧
      MatchesPrefix id id ['a', 'b', 'c'] (.literal ['a', 'b']) 2 ∧
      ∃ found longest, longestMatch id rules id ['a', 'b', 'c'] = some (found, longest) ∧
        2 ≤ longest := by
  intro rules
  have hmem : .literal ['a', 'b'] ∈ rules := by simp [rules]
  have hmatch : MatchesPrefix id id ['a', 'b', 'c'] (.literal ['a', 'b']) 2 := by
    simp [MatchesPrefix, Automaton.Spells, Automaton.literal]
  exact ⟨hmem, hmatch, (longestMatch_isGreatest id rules id _).2.2 _ hmem 2 hmatch⟩

end Segment
end PhoneticSearch
