import PhoneticSearch.Pattern.Segment

/-!
# The longest match

* `matching?`, `longestUpTo`: the first rule that matches a text, and the longest match among its
  prefixes, tried from the longest on.
* `longestMatch_eq`: running all rules side by side, with an early stop, finds this match.
* `longestUpTo_eq_some_iff`, `longestUpTo_eq_none_iff`: what it means to be found.
-/

namespace PhoneticSearch
namespace Segment

variable {ρ α : Type} (automaton : ρ → Automaton) (rules : List ρ)

/-- The first rule that matches a whole text. -/
def matching? (text : List Char) : Option ρ :=
  rules.find? fun rule => (automaton rule).matchesText text

/-- The longest match among the prefixes of at most so many characters, which are not empty. -/
def longestUpTo (text : List Char) : Nat → Option (ρ × Nat)
  | 0 => none
  | length + 1 =>
    match matching? automaton rules (text.take (length + 1)) with
    | some rule => some (rule, length + 1)
    | none => longestUpTo text length

theorem longestUpTo_succ (text : List Char) (length : Nat) :
    longestUpTo automaton rules text (length + 1) =
      match matching? automaton rules (text.take (length + 1)) with
      | some rule => some (rule, length + 1)
      | none => longestUpTo automaton rules text length := rfl

/-! ## The rules that are still running -/

/-- The rules that agree with a text, each with its state. -/
def running (text : List Char) : List (ρ × Scan) :=
  (rules.map fun rule => (rule, (automaton rule).run text)).filter fun run => !run.2.isFailed

theorem starts_eq_running : starts automaton rules = running automaton rules [] := rfl

theorem running_cons (rule : ρ) (text : List Char) :
    running automaton (rule :: rules) text =
      if ((automaton rule).run text).isFailed then running automaton rules text
      else (rule, (automaton rule).run text) :: running automaton rules text := by
  rw [running, List.map_cons, List.filter_cons]
  cases ((automaton rule).run text).isFailed <;> rfl

theorem run_concat (rule : ρ) (text : List Char) (c : Char) :
    (automaton rule).run (text ++ [c]) =
      (automaton rule).step ((automaton rule).run text) c := by
  rw [Automaton.run_append, List.foldl_cons, List.foldl_nil]

theorem advance_running (text : List Char) (c : Char) :
    advance automaton c (running automaton rules text) =
      running automaton rules (text ++ [c]) := by
  induction rules with
  | nil => rfl
  | cons rule rest ih =>
    rw [running_cons, running_cons, run_concat]
    cases hrun : (automaton rule).run text with
    | failed => exact ih
    | active consumed =>
      rw [if_neg (by simp [Scan.isFailed]), advance]
      cases (automaton rule).step (.active consumed) c with
      | failed => exact ih
      | active next => simp only [ih]; rfl

theorem complete?_running (text : List Char) :
    complete? automaton (running automaton rules text) = matching? automaton rules text := by
  unfold complete? matching?
  induction rules with
  | nil => rfl
  | cons rule rest ih =>
    rw [running_cons, List.find?_cons, Automaton.matchesText]
    cases hrun : (automaton rule).run text with
    | failed =>
      have haccepts : (automaton rule).accepts .failed = false := by simp [Automaton.accepts]
      rw [haccepts]
      exact ih
    | active consumed =>
      rw [if_neg (by simp [Scan.isFailed]), List.find?_cons]
      cases (automaton rule).accepts (.active consumed) with
      | true => rfl
      | false => exact ih

theorem matching?_eq_none {text : List Char} (h : running automaton rules text = [])
    (more : List Char) : matching? automaton rules (text ++ more) = none := by
  have hmore : running automaton rules (text ++ more) = [] := by
    induction more generalizing text with
    | nil => rwa [List.append_nil]
    | cons c more ih =>
      rw [← List.singleton_append, ← List.append_assoc]
      apply ih
      rw [← advance_running, h]
      rfl
  rw [← complete?_running, hmore]
  rfl

/-! ## The search -/

theorem longestUpTo_eq_of_running {done more : List Char}
    (h : running automaton rules done = []) (n : Nat) :
    longestUpTo automaton rules (done ++ more) (done.length + n) =
      longestUpTo automaton rules (done ++ more) done.length := by
  induction n with
  | zero => rfl
  | succ n ih =>
    have htake : (done ++ more).take (done.length + n + 1) = done ++ more.take (n + 1) := by
      rw [Nat.add_assoc, List.take_length_add_append]
    rw [← Nat.add_assoc, longestUpTo, htake, matching?_eq_none automaton rules h, ih]

theorem longestFrom_eq (char : α → Char) (row : List α) (done : List Char) :
    longestFrom automaton char row (running automaton rules done) done.length
        (longestUpTo automaton rules (done ++ row.map char) done.length) =
      longestUpTo automaton rules (done ++ row.map char) (done.length + row.length) := by
  induction row generalizing done with
  | nil => rw [longestFrom]; rfl
  | cons item rest ih =>
    have hdone : done ++ (item :: rest).map char = done ++ [char item] ++ rest.map char := by
      rw [List.map_cons, List.append_assoc, List.singleton_append]
    have hlength : (done ++ [char item]).length = done.length + 1 := by simp
    have htake : (done ++ [char item] ++ rest.map char).take (done.length + 1) =
        done ++ [char item] := by
      rw [← hlength, List.take_left']
      rfl
    have hbest :=
      longestUpTo_succ automaton rules (done ++ [char item] ++ rest.map char) done.length
    rw [htake, ← complete?_running] at hbest
    have hsum : done.length + (item :: rest).length =
        (done ++ [char item]).length + rest.length := by
      rw [hlength, List.length_cons]
      omega
    rw [longestFrom, advance_running, hdone, hsum]
    simp only [List.isEmpty_iff]
    split
    · next hnone =>
      rw [longestUpTo_eq_of_running automaton rules hnone, hlength]
      exact hbest.symm
    · rw [← ih (done ++ [char item]), hlength]
      exact congrArg _ hbest.symm

theorem longestMatch_eq (char : α → Char) (row : List α) :
    longestMatch automaton rules char row =
      longestUpTo automaton rules (row.map char) row.length := by
  have h := longestFrom_eq automaton rules char row []
  rw [List.nil_append, List.length_nil, Nat.zero_add] at h
  rw [longestMatch, starts_eq_running]
  exact h

/-! ## What is found -/

/-- The found match is the longest one, by its first rule. -/
theorem longestUpTo_eq_some_iff (text : List Char) (n : Nat) (rule : ρ) (length : Nat) :
    longestUpTo automaton rules text n = some (rule, length) ↔
      0 < length ∧ length ≤ n ∧ matching? automaton rules (text.take length) = some rule ∧
        ∀ longer, length < longer → longer ≤ n →
          matching? automaton rules (text.take longer) = none := by
  induction n with
  | zero =>
    constructor
    · intro h
      cases h
    · rintro ⟨hpos, hle, -⟩
      omega
  | succ n ih =>
    rw [longestUpTo]
    cases hlast : matching? automaton rules (text.take (n + 1)) with
    | some found =>
      simp only [Option.some.injEq, Prod.mk.injEq]
      constructor
      · rintro ⟨rfl, rfl⟩
        exact ⟨Nat.succ_pos n, Nat.le_refl _, hlast, fun longer h h' => by omega⟩
      · rintro ⟨hpos, hle, hmatch, hlonger⟩
        rcases Nat.lt_or_eq_of_le hle with hlt | rfl
        · rw [hlonger (n + 1) hlt (Nat.le_refl _)] at hlast
          cases hlast
        · rw [hlast] at hmatch
          exact ⟨Option.some.inj hmatch, rfl⟩
    | none =>
      simp only [ih]
      constructor
      · rintro ⟨hpos, hle, hmatch, hlonger⟩
        refine ⟨hpos, Nat.le_succ_of_le hle, hmatch, fun longer h h' => ?_⟩
        rcases Nat.lt_or_eq_of_le h' with hlt | rfl
        · exact hlonger longer h (Nat.le_of_lt_succ hlt)
        · exact hlast
      · rintro ⟨hpos, hle, hmatch, hlonger⟩
        refine ⟨hpos, ?_, hmatch, fun longer h h' => hlonger longer h (Nat.le_succ_of_le h')⟩
        rcases Nat.lt_or_eq_of_le hle with hlt | rfl
        · exact Nat.le_of_lt_succ hlt
        · rw [hlast] at hmatch
          cases hmatch

theorem longestUpTo_eq_none_iff (text : List Char) (n : Nat) :
    longestUpTo automaton rules text n = none ↔
      ∀ length, 0 < length → length ≤ n →
        matching? automaton rules (text.take length) = none := by
  induction n with
  | zero =>
    constructor
    · intro _ length hpos hle
      omega
    · intro _
      rfl
  | succ n ih =>
    rw [longestUpTo]
    cases hlast : matching? automaton rules (text.take (n + 1)) with
    | some found =>
      constructor
      · intro h
        cases h
      · intro h
        rw [h (n + 1) (Nat.succ_pos n) (Nat.le_refl _)] at hlast
        cases hlast
    | none =>
      simp only [ih]
      constructor
      · intro h length hpos hle
        rcases Nat.lt_or_eq_of_le hle with hlt | rfl
        · exact h length hpos (Nat.le_of_lt_succ hlt)
        · exact hlast
      · exact fun h length hpos hle => h length hpos (Nat.le_succ_of_le hle)

end Segment
end PhoneticSearch
