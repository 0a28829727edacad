import PhoneticSearch.Proofs.Pattern.Template

/-!
# What compiled patterns accept

* `Pattern.Admits`: a text is, place by place, what the input of a pattern asks for. Only a wildcard
  without a second one takes any character.
* `Pattern.agrees_compile`: the transitions of a compiled pattern agree with just these texts.
* `Pattern.isInert_iff_forall_matchesText`: just the inert patterns match nothing.
* `Automaton.getElem?_trace`: the states of a scan are those of the runs over the text's prefixes.
* `Pattern.compile_trace`: a compiled pattern counts the characters of a text as long as the pattern
  admits them, fails for good after that, and accepts the admitted texts of its own length.
-/

namespace PhoneticSearch

namespace Automaton

theorem agrees_iff_getElem? (transitions : List Transition) (text : List Char) :
    agrees transitions text = true ↔
      ∀ (i : Nat) (c : Char), text[i]? = some c →
        ∃ transition, transitions[i]? = some transition ∧ transition.accepts c = true := by
  induction transitions generalizing text with
  | nil =>
    cases text with
    | nil => simp [agrees]
    | cons c rest =>
      rw [agrees]
      constructor
      · intro h
        cases h
      · intro h
        obtain ⟨transition, hnone, -⟩ := h 0 c rfl
        cases hnone
  | cons transition transitions ih =>
    cases text with
    | nil => simp [agrees]
    | cons c rest =>
      rw [agrees, Bool.and_eq_true, ih]
      constructor
      · rintro ⟨hfirst, hrest⟩ i d hd
        cases i with
        | zero =>
          cases hd
          exact ⟨transition, rfl, hfirst⟩
        | succ i => exact hrest i d hd
      · intro h
        refine ⟨?_, fun i => h (i + 1)⟩
        obtain ⟨other, hother, hfirst⟩ := h 0 c rfl
        cases hother
        exact hfirst

theorem getElem?_traceFrom (automaton : Automaton) (scan : Scan) {text : List Char} {k : Nat}
    (h : k ≤ text.length) :
    (automaton.traceFrom scan text)[k]? = some ((text.take k).foldl automaton.step scan) := by
  induction text generalizing scan k with
  | nil =>
    obtain rfl : k = 0 := Nat.le_zero.mp h
    rfl
  | cons c rest ih =>
    cases k with
    | zero => rfl
    | succ k => exact ih (automaton.step scan c) (Nat.le_of_succ_le_succ h)

theorem getElem?_trace (automaton : Automaton) {text : List Char} {k : Nat} (h : k ≤ text.length) :
    (automaton.trace text)[k]? = some (automaton.run (text.take k)) :=
  automaton.getElem?_traceFrom _ h

theorem run_take_failed (automaton : Automaton) {text : List Char} {k l : Nat} (hle : k ≤ l)
    (h : automaton.run (text.take k) = .failed) : automaton.run (text.take l) = .failed := by
  obtain ⟨more, rfl⟩ := Nat.exists_eq_add_of_le hle
  rw [List.take_add, run_append, h, foldl_step_failed]

end Automaton

namespace Pattern

variable (pattern : Pattern)

/-- Each character of a text is the one of the input at its place, or any one where the input has
its only wildcard. -/
def Admits (text : List Char) : Prop :=
  ∀ (i : Nat) (c : Char), text[i]? = some c →
    pattern.template[i]? = some c ∨
      pattern.template.count wildcard = 1 ∧ pattern.template[i]? = some wildcard

theorem isReplacement_eq_false_iff :
    pattern.isReplacement = false ↔ pattern.template.count wildcard = 1 := by
  refine ⟨pattern.count_wildcard, fun h => ?_⟩
  rw [isReplacement, wildcardOffset, if_pos h]
  rfl

theorem literal_accepts_iff (t c : Char) : (Transition.literal t).accepts c = true ↔ t = c := by
  rw [Transition.accepts, beq_iff_eq]

theorem place_accepts_iff (t c : Char) : (place t).accepts c = true ↔ t = c ∨ t = wildcard := by
  rw [place]
  by_cases h : t = wildcard <;> simp [h, Transition.accepts]

/-- What holds of the transition for a character at a place. -/
theorem exists_getElem?_map_iff {template : List Char} {f : Char → Transition} {i : Nat}
    {P : Transition → Prop} :
    (∃ transition, (template.map f)[i]? = some transition ∧ P transition) ↔
      ∃ t, template[i]? = some t ∧ P (f t) := by
  simp only [List.getElem?_map, Option.map_eq_some_iff]
  constructor
  · rintro ⟨_, ⟨t, ht, rfl⟩, h⟩
    exact ⟨t, ht, h⟩
  · rintro ⟨t, ht, h⟩
    exact ⟨f t, ⟨t, ht, rfl⟩, h⟩

variable {pattern}

/-- At each place a compiled pattern takes what the pattern admits there. -/
theorem exists_transition_iff (hlive : pattern.isInert = false) (i : Nat) (c : Char) :
    (∃ transition, pattern.compile.transitions.toList[i]? = some transition ∧
        transition.accepts c = true) ↔
      pattern.template[i]? = some c ∨
        pattern.template.count wildcard = 1 ∧ pattern.template[i]? = some wildcard := by
  cases hkind : pattern.isReplacement with
  | true =>
    have hcount : ¬ pattern.template.count wildcard = 1 := by
      rw [← isReplacement_eq_false_iff, hkind]
      exact Bool.noConfusion
    rw [compile_of_isReplacement pattern hlive hkind, Automaton.literal, exists_getElem?_map_iff]
    simp [literal_accepts_iff, hcount]
  | false =>
    have hcount := pattern.count_wildcard hkind
    rw [compile_template hlive hkind, exists_getElem?_map_iff]
    simp only [place_accepts_iff, hcount, true_and]
    constructor
    · rintro ⟨t, ht, rfl | rfl⟩
      · exact .inl ht
      · exact .inr ht
    · rintro (ht | ht)
      · exact ⟨c, ht, .inl rfl⟩
      · exact ⟨wildcard, ht, .inr rfl⟩

theorem agrees_compile (hlive : pattern.isInert = false) (text : List Char) :
    Automaton.agrees pattern.compile.transitions.toList text = true ↔ pattern.Admits text := by
  simp only [Automaton.agrees_iff_getElem?, exists_transition_iff hlive, Admits]

variable (pattern)

theorem length_compile (hlive : pattern.isInert = false) :
    pattern.compile.length = pattern.length := by
  cases hkind : pattern.isReplacement with
  | true => simp [compile_of_isReplacement pattern hlive hkind, Automaton.literal,
      Automaton.length, length]
  | false => simp [compile_template hlive hkind, Automaton.length, length]

/-- The state after a text has counted its characters just if the pattern admits them. -/
theorem run_compile (text : List Char) :
    (pattern.compile.run text = .active text.length ↔
        pattern.isInert = false ∧ pattern.Admits text) ∧
      (pattern.compile.run text = .failed ↔ ¬ (pattern.isInert = false ∧ pattern.Admits text)) := by
  cases hlive : pattern.isInert with
  | true =>
    rw [Automaton.run_of_isInert _ (pattern.isInert_compile.trans hlive)]
    simp
  | false =>
    rw [Automaton.run_eq _ (pattern.isInert_compile.trans hlive), ← agrees_compile hlive]
    cases Automaton.agrees pattern.compile.transitions.toList text <;> simp

/-- A pattern that is not inert accepts its own input, whose wildcards stand for themselves. -/
theorem isInert_iff_forall_matchesText :
    pattern.isInert = true ↔ ∀ text, pattern.compile.matchesText text = false := by
  constructor
  · intro hinert text
    rw [← Bool.not_eq_true, Automaton.matchesText_iff, isInert_compile, hinert]
    exact fun h => Bool.noConfusion h.1
  · intro h
    rw [← Bool.not_eq_false]
    intro hlive
    have hown := h pattern.template
    rw [← Bool.not_eq_true, Automaton.matchesText_iff, isInert_compile, agrees_compile hlive,
      length_compile pattern hlive] at hown
    exact hown ⟨hlive, fun _ _ => .inl, rfl⟩

theorem wildcard_compile_lt {offset : Nat} (h : pattern.compile.wildcard = some offset) :
    offset < pattern.compile.length := by
  cases hlive : pattern.isInert with
  | true =>
    rw [compile, hlive] at h
    cases h
  | false =>
    cases hkind : pattern.isReplacement with
    | true =>
      rw [compile_of_isReplacement pattern hlive hkind] at h
      cases h
    | false =>
      rw [length_compile pattern hlive]
      rw [compile_template hlive hkind, Option.some.injEq] at h
      exact h ▸ idxOf_wildcard_lt hkind

/-- A compiled pattern accepts the texts of its length that it admits. After `k` characters it is in
the state `k` as long as it admits these, else it has failed, and it stays so. -/
theorem compile_trace (text : List Char) :
    (pattern.compile.matchesText text = true ↔
      pattern.isInert = false ∧ text.length = pattern.length ∧ pattern.Admits text) ∧
    (∀ k ≤ text.length,
      ((pattern.compile.trace text)[k]? = some (.active k) ↔
        pattern.isInert = false ∧ pattern.Admits (text.take k)) ∧
      ((pattern.compile.trace text)[k]? = some .failed ↔
        ¬ (pattern.isInert = false ∧ pattern.Admits (text.take k)))) ∧
    (∀ k l, k ≤ l → l ≤ text.length → (pattern.compile.trace text)[k]? = some .failed →
      (pattern.compile.trace text)[l]? = some .failed) ∧
    (∀ offset, pattern.compile.wildcard = some offset → offset < pattern.compile.length) ∧
    ∀ offset, pattern.wildcardOffset = some offset → offset < pattern.length := by
  refine ⟨?_, ?_, ?_, fun _ => pattern.wildcard_compile_lt, fun _ => pattern.wildcardOffset_lt⟩
  · rw [Automaton.matchesText_iff, isInert_compile]
    refine and_congr_right fun hlive => ?_
    rw [agrees_compile hlive, pattern.length_compile hlive, and_comm]
  · intro k hk
    have hlength : (text.take k).length = k := List.length_take_of_le hk
    have hrun := pattern.run_compile (text.take k)
    rw [hlength] at hrun
    rw [Automaton.getElem?_trace _ hk, Option.some.injEq, Option.some.injEq]
    exact hrun
  · intro k l hle hl hfailed
    rw [Automaton.getElem?_trace _ (Nat.le_trans hle hl), Option.some.injEq] at hfailed
    rw [Automaton.getElem?_trace _ hl, Automaton.run_take_failed _ hle hfailed]

def aspirated : Pattern := ofParts "_h" [[1]] none none

/-- The wildcard of a template takes the first character; the third one is too many. -/
theorem compile_trace_aspirated :
    1 ≤ ['t', 'h', 'e'].length ∧ 3 ≤ ['t', 'h', 'e'].length ∧ aspirated.isInert = false ∧
      aspirated.Admits ['t'] ∧ ¬ aspirated.Admits ['t', 'h', 'e'] ∧
      (aspirated.compile.trace ['t', 'h', 'e'])[1]? = some (.active 1) ∧
      (aspirated.compile.trace ['t', 'h', 'e'])[3]? = some .failed := by
  have hlive : aspirated.isInert = false := by decide
  have hfirst : aspirated.Admits ['t'] := by
    intro i c h
    obtain rfl : i = 0 := by simpa using (List.getElem?_eq_some_iff.mp h).1
    exact .inr ⟨by decide, by decide⟩
  have hthird : ¬ aspirated.Admits ['t', 'h', 'e'] := by
    intro h
    have hlast := h 2 'e' rfl
    revert hlast
    decide
  have hscan := (aspirated.compile_trace ['t', 'h', 'e']).2.1
  exact ⟨by decide, by decide, hlive, hfirst, hthird,
    (hscan 1 (by decide)).1.mpr ⟨hlive, hfirst⟩,
    (hscan 3 (by decide)).2.mpr fun h => hthird h.2⟩

end Pattern
end PhoneticSearch
