import Mathlib.Data.List.Forall2
import PhoneticSearch.Proofs.Pattern.Automaton
import PhoneticSearch.Proofs.Pattern.LongestMatch

/-!
# Rows cut by positions

The loop that cuts a row into segments, told with positions in the row and numbers of rules, where
each could lie out of range.

* `steps?`: the loop, which gives up if the row has not ended after so many steps.
* `IsStep`: a step and the segment that is cut off there. All its numbers are in range.
* `mem_and_le_of_longestMatch`: a match is not empty and ends within the row.
* `exists_forall₂_isStep`: no more steps are needed than there are items, and they cut off the
  segments of the row.
-/

namespace PhoneticSearch
namespace Segment

variable {ρ σ α : Type}

/-- A position, and what is found there: the number of a rule and the length of its match. -/
structure Step where
  start : Nat
  found : Option (Nat × Nat)

/-- The longest match at the start of a row, by the number of its rule. -/
def longestNumber? (automata : List Automaton) (char : α → Char) (row : List α) :
    Option (Nat × Nat) :=
  (longestMatch Prod.fst automata.zipIdx char row).map fun found => (found.1.2, found.2)

/-- Goes on from a position until the end of the row, past a match or else past one item. -/
def steps? (automata : List Automaton) (char : α → Char) (row : List α) :
    Nat → Nat → Option (List Step)
  | 0, start => if start < row.length then none else some []
  | bound + 1, start =>
    if start < row.length then
      match longestNumber? automata char (row.drop start) with
      | some (number, length) =>
        (steps? automata char row bound (start + length)).map (⟨start, some (number, length)⟩ :: ·)
      | none => (steps? automata char row bound (start + 1)).map (⟨start, none⟩ :: ·)
    else some []

/-! ## Matches -/

/-- A match has the length of its rule, which is at least one, and ends within the row. -/
theorem mem_and_le_of_longestMatch {automaton : ρ → Automaton} {rules : List ρ} {char : α → Char}
    {row : List α} {rule : ρ} {length : Nat}
    (h : longestMatch automaton rules char row = some (rule, length)) :
    rule ∈ rules ∧ 1 ≤ length ∧ length ≤ row.length ∧ (automaton rule).length = length := by
  rw [longestMatch_eq, longestUpTo_eq_some_iff] at h
  obtain ⟨hpos, hle, hmatch, -⟩ := h
  rw [matching?] at hmatch
  have htext : (automaton rule).matchesText ((row.map char).take length) = true := by
    simpa using List.find?_some hmatch
  obtain ⟨-, -, hlength⟩ := (Automaton.matchesText_iff _ _).mp htext
  rw [List.length_take_of_le (by rwa [List.length_map])] at hlength
  exact ⟨List.mem_of_find?_eq_some hmatch, hpos, hle, hlength.symm⟩

theorem matching?_map (automaton : σ → Automaton) (f : ρ → σ) (rules : List ρ)
    (text : List Char) :
    matching? automaton (rules.map f) text =
      (matching? (fun rule => automaton (f rule)) rules text).map f := List.find?_map

theorem longestMatch_map (automaton : σ → Automaton) (f : ρ → σ) (rules : List ρ)
    (char : α → Char) (row : List α) :
    longestMatch automaton (rules.map f) char row =
      (longestMatch (fun rule => automaton (f rule)) rules char row).map fun found =>
        (f found.1, found.2) := by
  rw [longestMatch_eq, longestMatch_eq]
  induction row.length with
  | zero => rfl
  | succ n ih =>
    rw [longestUpTo, longestUpTo, matching?_map]
    cases matching? (fun rule => automaton (f rule)) rules ((row.map char).take (n + 1)) with
    | none => exact ih
    | some rule => rfl

/-- A search among numbered rules finds the same match as one among the rules themselves. -/
theorem longestMatch_zipIdx (automaton : ρ → Automaton) (rules : List ρ) (char : α → Char)
    (row : List α) :
    longestMatch automaton rules char row =
        (longestMatch (fun entry => automaton entry.1) rules.zipIdx char row).map
          (fun found => (found.1.1, found.2)) ∧
      longestNumber? (rules.map automaton) char row =
        (longestMatch (fun entry => automaton entry.1) rules.zipIdx char row).map
          fun found => (found.1.2, found.2) := by
  constructor
  · rw [← longestMatch_map automaton Prod.fst, List.zipIdx_map_fst]
  · rw [longestNumber?, List.zipIdx_map, longestMatch_map, Option.map_map]
    rfl

theorem longestNumber?_eq_some {automaton : ρ → Automaton} {rules : List ρ} {char : α → Char}
    {row : List α} {rule : ρ} {length : Nat}
    (h : longestMatch automaton rules char row = some (rule, length)) :
    ∃ number, rules[number]? = some rule ∧
      longestNumber? (rules.map automaton) char row = some (number, length) := by
  obtain ⟨hrule, hnumber⟩ := longestMatch_zipIdx automaton rules char row
  rw [hrule, Option.map_eq_some_iff] at h
  obtain ⟨⟨⟨found, number⟩, _⟩, hfound, heq⟩ := h
  cases heq
  have hmem := (mem_and_le_of_longestMatch hfound).1
  exact ⟨number, List.mem_zipIdx_iff_getElem?.mp hmem, by rw [hnumber, hfound]; rfl⟩

theorem longestNumber?_eq_none {automaton : ρ → Automaton} {rules : List ρ} {char : α → Char}
    {row : List α} (h : longestMatch automaton rules char row = none) :
    longestNumber? (rules.map automaton) char row = none := by
  obtain ⟨hrule, hnumber⟩ := longestMatch_zipIdx automaton rules char row
  rw [hrule, Option.map_eq_none_iff] at h
  rw [hnumber, h]
  rfl

/-! ## The loop -/

/-- A step of the loop cuts off a segment. The rule is the one of its number, and its match ends
within the row. -/
inductive IsStep (automaton : ρ → Automaton) (rules : List ρ) (row : List α) :
    Step → Segment ρ α → Prop where
  | covered {start number length : Nat} {rule : ρ} (hrule : rules[number]? = some rule)
      (hpos : 1 ≤ length) (hle : start + length ≤ row.length)
      (hlength : (automaton rule).length = length) :
      IsStep automaton rules row ⟨start, some (number, length)⟩
        (.covered rule ((row.drop start).take length))
  | bare {start : Nat} {item : α} (hitem : row[start]? = some item) :
      IsStep automaton rules row ⟨start, none⟩ (.bare item)

/-- Each step goes on by at least one item, so as many steps as there are items left suffice. -/
theorem exists_forall₂_isStep (automaton : ρ → Automaton) (rules : List ρ) (char : α → Char)
    {row : List α} {bound start : Nat} (hbound : row.length ≤ start + bound) :
    ∃ steps, steps? (rules.map automaton) char row bound start = some steps ∧
      List.Forall₂ (IsStep automaton rules row) steps
        (segments automaton rules char (row.drop start)) := by
  induction bound generalizing start with
  | zero =>
    have hend : row.length ≤ start := hbound
    rw [steps?, if_neg (Nat.not_lt.mpr hend), List.drop_eq_nil_of_le hend, segments]
    exact ⟨[], rfl, .nil⟩
  | succ bound ih =>
    by_cases hstart : start < row.length
    · have hdrop : row.drop start = row[start] :: row.drop (start + 1) :=
        List.drop_eq_getElem_cons hstart
      rw [steps?, if_pos hstart]
      cases hmatch : longestMatch automaton rules char (row.drop start) with
      | none =>
        have hrest : row.length ≤ start + 1 + bound := by omega
        obtain ⟨steps, hsteps, hall⟩ := ih hrest
        rw [longestNumber?_eq_none hmatch, hsteps]
        rw [hdrop] at hmatch
        rw [hdrop, segments, hmatch]
        exact ⟨_, rfl, .cons (.bare (List.getElem?_eq_getElem hstart)) hall⟩
      | some found =>
        obtain ⟨rule, length⟩ := found
        obtain ⟨number, hrule, hnumber⟩ := longestNumber?_eq_some hmatch
        obtain ⟨-, hpos, hle, hlength⟩ := mem_and_le_of_longestMatch hmatch
        rw [List.length_drop] at hle
        have hrest : row.length ≤ start + length + bound := by omega
        obtain ⟨steps, hsteps, hall⟩ := ih hrest
        have htail : (row.drop (start + 1)).drop (length - 1) = row.drop (start + length) := by
          rw [List.drop_drop]
          congr 1
          omega
        rw [hnumber]
        simp only [hsteps]
        refine ⟨_, rfl, ?_⟩
        have hstep : IsStep automaton rules row ⟨start, some (number, length)⟩
            (.covered rule ((row.drop start).take length)) :=
          .covered hrule hpos (by omega) hlength
        rw [hdrop] at hmatch hstep
        rw [hdrop, segments, hmatch]
        simp only [htail]
        exact .cons hstep hall
    · rw [steps?, if_neg hstart, List.drop_eq_nil_of_le (Nat.not_lt.mp hstart), segments]
      exact ⟨[], rfl, .nil⟩

end Segment
end PhoneticSearch
