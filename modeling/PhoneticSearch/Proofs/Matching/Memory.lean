import Mathlib.Data.Finset.Card
import PhoneticSearch.Matching.Matcher

/-!
# What a matcher remembers

* `Call`, `Remembering.run`: tokens that are looked up and memories that are cleared, one after the
  other.
* `sinceClear`, `firstPhones?`, `askedTokens`: the calls since the last clear, and what they ask
  for.
* `Remembering.Holds`: the invariant of a run: a memory has the answer for each token that was asked
  for since the last clear, for the phones that came first with it.
* `Remembering.run_answers`: so the answers of a run depend on the phones of these calls only.
-/

namespace PhoneticSearch

/-- A call to a matcher that remembers its answers. -/
inductive Call where
  | matchToken (token : String) (phones : List Phone)
  | clear

def Call.isClear : Call → Bool
  | .matchToken _ _ => false
  | .clear => true

/-- The token and the phones that are looked up. -/
def Call.request? : Call → Option (String × List Phone)
  | .matchToken token phones => some (token, phones)
  | .clear => none

/-- The calls after the last clear. -/
def sinceClear (history : List Call) : List Call :=
  (history.reverse.takeWhile fun call => !call.isClear).reverse

/-- The phones that come with a token when it is first looked up since the last clear. -/
def firstPhones? (history : List Call) (token : String) : Option (List Phone) :=
  ((sinceClear history).filterMap Call.request?).lookup token

/-- The different tokens looked up since the last clear. -/
def askedTokens (history : List Call) : Finset String :=
  (((sinceClear history).filterMap Call.request?).map Prod.fst).toFinset

/-- A matcher with what it remembers. -/
structure Remembering where
  matcher : Matcher
  memo : Memo

namespace Remembering

/-- One call; a clear has no answer. -/
def call (state : Remembering) : Call → Option (List Candidate) × Remembering
  | .matchToken token phones =>
    let (answer, memo) := state.matcher.matchToken state.memo token phones
    (some answer, { state with memo })
  | .clear => (none, { state with memo := [] })

/-- The answers to some calls, and the state after them. -/
def run (state : Remembering) : List Call → List (Option (List Candidate)) × Remembering
  | [] => ([], state)
  | first :: rest =>
    let (answer, state) := state.call first
    let (answers, state) := state.run rest
    (answer :: answers, state)

end Remembering

/-! ## The history of calls -/

theorem sinceClear_concat_clear (history : List Call) : sinceClear (history ++ [.clear]) = [] := by
  simp [sinceClear, Call.isClear]

theorem sinceClear_concat_matchToken (history : List Call) (token : String) (phones : List Phone) :
    sinceClear (history ++ [.matchToken token phones]) =
      sinceClear history ++ [.matchToken token phones] := by
  simp [sinceClear, Call.isClear]

theorem firstPhones?_concat_matchToken (history : List Call) (token asked : String)
    (phones : List Phone) :
    firstPhones? (history ++ [.matchToken token phones]) asked =
      (firstPhones? history asked).or (if asked = token then some phones else none) := by
  have hone : List.lookup asked [(token, phones)] =
      if asked = token then some phones else none := by
    rw [List.lookup_cons]
    by_cases h : asked = token
    · simp [h]
    · have hne : (asked == token) = false := by simpa using h
      rw [hne, if_neg h]
      rfl
  rw [firstPhones?, sinceClear_concat_matchToken, List.filterMap_append, List.lookup_append]
  exact congrArg _ hone

theorem askedTokens_concat_matchToken (history : List Call) (token : String)
    (phones : List Phone) :
    askedTokens (history ++ [.matchToken token phones]) =
      insert token (askedTokens history) := by
  rw [askedTokens, sinceClear_concat_matchToken, List.filterMap_append, List.map_append,
    List.toFinset_append]
  ext asked
  simp [askedTokens, Call.request?]

theorem firstPhones?_eq_none_iff (history : List Call) (token : String) :
    firstPhones? history token = none ↔ token ∉ askedTokens history := by
  simp only [firstPhones?, List.lookup_eq_none_iff, askedTokens, List.mem_toFinset, List.mem_map,
    bne_iff_ne, ne_eq]
  constructor
  · rintro h ⟨request, hmem, rfl⟩
    exact h request hmem rfl
  · rintro h request hmem rfl
    exact h ⟨request, hmem, rfl⟩

/-- The phones that come first with a token are those of some call for it. -/
theorem mem_of_firstPhones? {history : List Call} {token : String} {phones : List Phone}
    (h : firstPhones? history token = some phones) : .matchToken token phones ∈ history := by
  induction history using List.reverseRecOn with
  | nil => cases h
  | append_singleton history call ih =>
    cases call with
    | clear =>
      rw [firstPhones?, sinceClear_concat_clear] at h
      cases h
    | matchToken asked given =>
      rw [firstPhones?_concat_matchToken, Option.or_eq_some_iff] at h
      rcases h with h | ⟨-, h⟩
      · exact List.mem_append_left _ (ih h)
      · split at h
        · next heq =>
          cases h
          rw [heq]
          simp
        · cases h

/-! ## The invariant -/

namespace Remembering

/-- The matcher has not changed, and the memory holds the answers for just the tokens asked for
since the last clear. -/
structure Holds (matcher : Matcher) (history : List Call) (state : Remembering) : Prop where
  matcher_eq : state.matcher = matcher
  lookup_eq : ∀ token, state.memo.lookup token =
    (firstPhones? history token).map (matcher.rank token)
  length_eq : state.memo.length = (askedTokens history).card

variable {matcher : Matcher} {history : List Call} {state : Remembering}

theorem holds_empty (matcher : Matcher) : Holds matcher [] ⟨matcher, []⟩ where
  matcher_eq := rfl
  lookup_eq _ := rfl
  length_eq := rfl

theorem Holds.clear (h : Holds matcher history state) :
    Holds matcher (history ++ [.clear]) (state.call .clear).2 where
  matcher_eq := h.matcher_eq
  lookup_eq token := by
    rw [firstPhones?, sinceClear_concat_clear]
    rfl
  length_eq := by
    rw [askedTokens, sinceClear_concat_clear]
    rfl

/-- A token that was asked for has its answer in the memory, which stays as it is. -/
theorem Holds.matchToken_known (h : Holds matcher history state) {token : String}
    {first : List Phone} (hfirst : firstPhones? history token = some first) (phones : List Phone) :
    state.call (.matchToken token phones) = (some (matcher.rank token first), state) ∧
      Holds matcher (history ++ [.matchToken token phones]) state := by
  have hlookup := h.lookup_eq token
  rw [hfirst, Option.map_some] at hlookup
  have hasked : token ∈ askedTokens history := by
    by_contra hnot
    rw [(firstPhones?_eq_none_iff history token).mpr hnot] at hfirst
    cases hfirst
  refine ⟨by rw [Remembering.call, Matcher.matchToken, hlookup], h.matcher_eq, ?_, ?_⟩
  · intro asked
    rw [h.lookup_eq, firstPhones?_concat_matchToken]
    by_cases heq : asked = token
    · simp [heq, hfirst]
    · simp [heq]
  · rw [askedTokens_concat_matchToken, Finset.insert_eq_of_mem hasked]
    exact h.length_eq

/-- A new token is answered for its phones, and the answer is put into the memory. -/
theorem Holds.matchToken_new (h : Holds matcher history state) {token : String}
    (hfirst : firstPhones? history token = none) (phones : List Phone) :
    let next : Remembering := ⟨matcher, (token, matcher.rank token phones) :: state.memo⟩
    state.call (.matchToken token phones) = (some (matcher.rank token phones), next) ∧
      Holds matcher (history ++ [.matchToken token phones]) next := by
  intro next
  have hlookup := h.lookup_eq token
  rw [hfirst, Option.map_none] at hlookup
  refine ⟨by rw [Remembering.call, Matcher.matchToken, hlookup, h.matcher_eq], rfl, ?_, ?_⟩
  · intro asked
    rw [firstPhones?_concat_matchToken, List.lookup_cons, h.lookup_eq]
    by_cases heq : asked = token
    · simp [heq, hfirst]
    · have hne : (asked == token) = false := by simpa using heq
      rw [hne]
      simp [heq]
  · rw [askedTokens_concat_matchToken, List.length_cons, h.length_eq,
      Finset.card_insert_of_notMem ((firstPhones?_eq_none_iff history token).mp hfirst)]

/-- One call preserves the invariant, and its answer is the one for the phones that came first. -/
theorem Holds.call (h : Holds matcher history state) (next : Call) :
    Holds matcher (history ++ [next]) (state.call next).2 ∧
      ∀ token phones, next = .matchToken token phones →
        (state.call next).1 =
          (firstPhones? (history ++ [next]) token).map (matcher.rank token) := by
  cases next with
  | clear => exact ⟨h.clear, fun token phones heq => by cases heq⟩
  | matchToken token phones =>
    cases hfirst : firstPhones? history token with
    | some first =>
      obtain ⟨hcall, hholds⟩ := h.matchToken_known hfirst phones
      rw [hcall]
      refine ⟨hholds, ?_⟩
      rintro _ _ ⟨rfl, rfl⟩
      rw [firstPhones?_concat_matchToken, hfirst]
      rfl
    | none =>
      obtain ⟨hcall, hholds⟩ := h.matchToken_new hfirst phones
      rw [hcall]
      refine ⟨hholds, ?_⟩
      rintro _ _ ⟨rfl, rfl⟩
      rw [firstPhones?_concat_matchToken, hfirst]
      simp

/-- A run preserves the invariant, and each of its answers is the one for the phones that came
first. -/
theorem Holds.run (h : Holds matcher history state) (calls : List Call) :
    Holds matcher (history ++ calls) (state.run calls).2 ∧
      ∀ n token phones, calls[n]? = some (.matchToken token phones) →
        (state.run calls).1[n]? =
          some ((firstPhones? (history ++ calls.take (n + 1)) token).map (matcher.rank token)) := by
  induction calls generalizing history state with
  | nil =>
    refine ⟨by simpa [Remembering.run] using h, ?_⟩
    intro n token phones hget
    cases hget
  | cons first rest ih =>
    obtain ⟨hfirst, hanswer⟩ := h.call first
    obtain ⟨hrest, hanswers⟩ := ih hfirst
    rw [List.append_assoc, List.singleton_append] at hrest
    refine ⟨hrest, ?_⟩
    intro n token phones hget
    cases n with
    | zero => exact congrArg some (hanswer token phones (Option.some.inj hget))
    | succ n =>
      have hnext := hanswers n token phones hget
      rw [List.append_assoc, List.singleton_append] at hnext
      exact hnext

/-- A matcher answers each call as if it knew but the phones that first came with the token since
the last clear; the number of answers that it remembers is that of the tokens asked for since then.
When the phones are a function of the token, all calls before are of no account. -/
theorem run_answers (matcher : Matcher) (calls : List Call) :
    let answers := (run ⟨matcher, []⟩ calls).1
    let state := (run ⟨matcher, []⟩ calls).2
    state.matcher = matcher ∧ state.memo.length = (askedTokens calls).card ∧
      (∀ (n : Nat) (token : String) (phones : List Phone),
        calls[n]? = some (.matchToken token phones) →
          ∃ first, firstPhones? (calls.take (n + 1)) token = some first ∧
            answers[n]? = some (some (matcher.rank token first))) ∧
      ∀ phonesOf : String → List Phone,
        (∀ token phones, .matchToken token phones ∈ calls → phones = phonesOf token) →
          ∀ (n : Nat) (token : String) (phones : List Phone),
            calls[n]? = some (.matchToken token phones) →
              answers[n]? = some (some (matcher.rank token phones)) := by
  intro answers state
  obtain ⟨hholds, hanswers⟩ := (holds_empty matcher).run calls
  have hfirst : ∀ n token phones, calls[n]? = some (.matchToken token phones) →
      ∃ first, firstPhones? (calls.take (n + 1)) token = some first ∧
        answers[n]? = some (some (matcher.rank token first)) := by
    intro n token phones hget
    have hasked : token ∈ askedTokens (calls.take (n + 1)) := by
      rw [List.take_add_one, hget, Option.toList_some, askedTokens_concat_matchToken]
      exact Finset.mem_insert_self _ _
    obtain ⟨first, hsome⟩ : ∃ first, firstPhones? (calls.take (n + 1)) token = some first := by
      rw [← Option.ne_none_iff_exists', Ne, firstPhones?_eq_none_iff, not_not]
      exact hasked
    have hanswer := hanswers n token phones hget
    rw [List.nil_append, hsome, Option.map_some] at hanswer
    exact ⟨first, hsome, hanswer⟩
  refine ⟨hholds.matcher_eq, hholds.length_eq, hfirst, ?_⟩
  intro phonesOf hphones n token phones hget
  obtain ⟨first, hsome, hanswer⟩ := hfirst n token phones hget
  have hmem : .matchToken token first ∈ calls := List.mem_of_mem_take (mem_of_firstPhones? hsome)
  rw [hphones token phones (List.mem_of_getElem? hget), ← hphones token first hmem]
  exact hanswer

/-- A token that comes back with other phones, before and after a clear; and calls that always give
a token the same phones. -/
theorem run_answers_returning :
    let features := FeatureSet.ofGroups "features" ["voice"] 1 (-1) none
    let encoder := Encoder.ofEncoding (Encoding.ofPatterns "none" features [])
    let words := Lexicon.ofEntries "words" encoder [.ofPhones "A" [[1]], .ofPhones "B" [[-1]]]
    let matcher := Matcher.ofLexicons [words] 1 0 none none
    let returning : List Call :=
      [.matchToken "tok" [[1]], .matchToken "tok" [[-1]], .clear, .matchToken "tok" [[-1]]]
    let steady : List Call := [.matchToken "tok" [[1]], .clear, .matchToken "tok" [[1]]]
    (returning[1]? = some (.matchToken "tok" [[-1]]) ∧
        (run ⟨matcher, []⟩ returning).1[1]? = some (some (matcher.rank "tok" [[1]]))) ∧
      (returning[3]? = some (.matchToken "tok" [[-1]]) ∧
        (run ⟨matcher, []⟩ returning).1[3]? = some (some (matcher.rank "tok" [[-1]]))) ∧
      (∀ token phones, .matchToken token phones ∈ steady → phones = [[1]]) ∧
        steady[2]? = some (.matchToken "tok" [[1]]) ∧
          (run ⟨matcher, []⟩ steady).1[2]? = some (some (matcher.rank "tok" [[1]])) := by
  intro features encoder words matcher returning steady
  have hreturning := (run_answers matcher returning).2.2.1
  obtain ⟨first, hfirst, hanswer⟩ := hreturning 1 "tok" [[-1]] rfl
  obtain ⟨last, hlast, hanswer'⟩ := hreturning 3 "tok" [[-1]] rfl
  have hfirst' : firstPhones? (returning.take 2) "tok" = some [[1]] := rfl
  have hlast' : firstPhones? (returning.take 4) "tok" = some [[-1]] := rfl
  rw [hfirst', Option.some.injEq] at hfirst
  rw [hlast', Option.some.injEq] at hlast
  rw [← hfirst] at hanswer
  rw [← hlast] at hanswer'
  have hsteady : ∀ token phones, .matchToken token phones ∈ steady → phones = [[1]] := by
    intro token phones hmem
    simp only [steady, List.mem_cons, List.not_mem_nil, or_false, reduceCtorEq, false_or] at hmem
    rcases hmem with h | h <;> exact (Call.matchToken.inj h).2
  exact ⟨⟨rfl, hanswer⟩, ⟨rfl, hanswer'⟩, hsteady, rfl,
    (run_answers matcher steady).2.2.2 (fun _ => [[1]]) hsteady 2 "tok" [[1]] rfl⟩

end Remembering
end PhoneticSearch
