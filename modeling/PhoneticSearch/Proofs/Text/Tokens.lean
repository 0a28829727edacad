import PhoneticSearch.Proofs.Text.Runs
import PhoneticSearch.Text.Tokens

/-!
# The tokens of a line

* `Text.IsRun`: a run at its place in a text, in words of the text alone.
* `Text.Locates`: a list of all places of runs, from the left to the right.
* `Text.exists_locates`: the runs of a text are those at such places.
* `Joins`: tokens put together with separators between them.
* `tokenize_runs`: the tokens of a line are its maximal runs, nothing but separators is lost, and the
  tokens are found again in any text that joins them.
-/

namespace PhoneticSearch

namespace Text

variable {isSeparator : Char → Bool}

/-- A run of a text, with what stands before it: a stretch without separators that is as long as it
can be, with a separator or an end of the text on either side. -/
structure IsRun (isSeparator : Char → Bool) (text before run : List Char) : Prop where
  ne_nil : run ≠ []
  letters : ∀ c ∈ run, isSeparator c = false
  starts : ∀ c ∈ before.getLast?, isSeparator c = true
  ends : ∃ after, text = before ++ run ++ after ∧ ∀ c ∈ after.head?, isSeparator c = true

/-- All places of runs of a text, in their order. -/
structure Locates (isSeparator : Char → Bool) (text : List Char)
    (places : List (List Char × List Char)) : Prop where
  ordered : places.Pairwise fun place later => place.1.length < later.1.length
  mem_iff : ∀ before run, (before, run) ∈ places ↔ IsRun isSeparator text before run

theorem eq_nil_of_getLast? {text : List Char} (h : ∀ c ∈ text, isSeparator c = false)
    (hlast : ∀ c ∈ text.getLast?, isSeparator c = true) : text = [] := by
  rw [← List.getLast?_eq_none_iff, Option.eq_none_iff_forall_not_mem]
  intro c hc
  have hletter := h c (List.mem_of_mem_getLast? hc)
  rw [hlast c hc] at hletter
  cases hletter

theorem eq_nil_of_head? {text : List Char} (h : ∀ c ∈ text, isSeparator c = false)
    (hhead : ∀ c ∈ text.head?, isSeparator c = true) : text = [] := by
  rw [← List.head?_eq_none_iff, Option.eq_none_iff_forall_not_mem]
  intro c hc
  have hletter := h c (List.mem_of_mem_head? hc)
  rw [hhead c hc] at hletter
  cases hletter

/-- Without separators a text is one run. -/
theorem isRun_iff_of_forall {text before run : List Char}
    (h : ∀ c ∈ text, isSeparator c = false) :
    IsRun isSeparator text before run ↔ before = [] ∧ run = text ∧ text ≠ [] := by
  constructor
  · rintro ⟨hne, -, hstarts, after, rfl, hends⟩
    obtain rfl : before = [] := eq_nil_of_getLast? (fun c hc => h c (by simp [hc])) hstarts
    obtain rfl : after = [] := eq_nil_of_head? (fun c hc => h c (by simp [hc])) hends
    simp [hne]
  · rintro ⟨rfl, rfl, hne⟩
    exact ⟨hne, h, by simp, [], by simp, by simp⟩

theorem forall_mem_getLast?_append_cons {c : Char} (hc : isSeparator c = true)
    (first rest : List Char) :
    (∀ d ∈ (first ++ c :: rest).getLast?, isSeparator d = true) ↔
      ∀ d ∈ rest.getLast?, isSeparator d = true := by
  cases hlast : rest.getLast? with
  | none => simp [List.getLast?_append, List.getLast?_cons, hlast, hc]
  | some d => simp [List.getLast?_append, List.getLast?_cons, hlast]

/-- A run that begins a text is the stretch before its first separator. -/
theorem eq_of_append_eq_append_cons {first run after text : List Char} {c : Char}
    (hfirst : ∀ d ∈ first, isSeparator d = false) (hc : isSeparator c = true)
    (hletters : ∀ d ∈ run, isSeparator d = false) (hends : ∀ d ∈ after.head?, isSeparator d = true)
    (h : run ++ after = first ++ c :: text) : run = first := by
  obtain ⟨left, rfl, rfl⟩ | ⟨more, rfl, hmore⟩ := List.append_eq_append_iff.mp h
  · -- the run ends within the stretch, where a letter would follow it
    cases left with
    | nil => simp
    | cons d left =>
      have hletter := hfirst d (by simp)
      rw [hends d (by simp)] at hletter
      cases hletter
  · -- the run reaches beyond the stretch, where the separator is
    cases more with
    | nil => simp
    | cons d more =>
      obtain ⟨rfl, -⟩ := List.cons.inj hmore
      have hletter := hletters c (by simp)
      rw [hc] at hletter
      cases hletter

/-- The runs of a text are the stretch before its first separator, unless it is empty, and those of
the rest. -/
theorem isRun_append_cons_iff {first : List Char} {c : Char}
    (hfirst : ∀ d ∈ first, isSeparator d = false) (hc : isSeparator c = true)
    (text before run : List Char) :
    IsRun isSeparator (first ++ c :: text) before run ↔
      (before = [] ∧ run = first ∧ first ≠ []) ∨
        ∃ rest, before = first ++ c :: rest ∧ IsRun isSeparator text rest run := by
  constructor
  · rintro ⟨hne, hletters, hstarts, after, hsplit, hends⟩
    rw [List.append_assoc] at hsplit
    by_cases hbefore : before = []
    · subst hbefore
      obtain rfl := eq_of_append_eq_append_cons hfirst hc hletters hends hsplit.symm
      exact .inl ⟨rfl, rfl, hne⟩
    · -- what stands before the run ends with a separator, and so reaches beyond the stretch
      obtain ⟨passed, rfl, hpassed⟩ | ⟨left, rfl, -⟩ := List.append_eq_append_iff.mp hsplit
      · cases passed with
        | nil => exact absurd (eq_nil_of_getLast? (by simpa using hfirst) hstarts) hbefore
        | cons d rest =>
          obtain ⟨rfl, rfl⟩ := List.cons.inj hpassed
          rw [forall_mem_getLast?_append_cons hc] at hstarts
          exact .inr ⟨rest, rfl, hne, hletters, hstarts, after, by simp, hends⟩
      · exact absurd (eq_nil_of_getLast? (fun d hd => hfirst d (by simp [hd])) hstarts) hbefore
  · rintro (⟨rfl, rfl, hne⟩ | ⟨rest, rfl, hne, hletters, hstarts, after, rfl, hends⟩)
    · exact ⟨hne, hfirst, by simp, c :: text, by simp, by simpa using hc⟩
    · refine ⟨hne, hletters, ?_, after, by simp, hends⟩
      rwa [forall_mem_getLast?_append_cons hc]

/-- The place of a run at the start of a text. -/
def atStart (run : List Char) : List (List Char × List Char) := if run = [] then [] else [([], run)]

theorem mem_atStart {run before found : List Char} :
    (before, found) ∈ atStart run ↔ before = [] ∧ found = run ∧ run ≠ [] := by
  rw [atStart]
  split <;> simp_all

theorem Locates.of_forall {text : List Char} (h : ∀ c ∈ text, isSeparator c = false) :
    Locates isSeparator text (atStart text) where
  ordered := by
    rw [atStart]
    split <;> simp
  mem_iff before run := by rw [mem_atStart, isRun_iff_of_forall h]

/-- Behind a separator the places are those of the rest, moved by what is before it. -/
theorem Locates.append_cons {first : List Char} {c : Char}
    (hfirst : ∀ d ∈ first, isSeparator d = false) (hc : isSeparator c = true) {text : List Char}
    {places : List (List Char × List Char)} (h : Locates isSeparator text places) :
    Locates isSeparator (first ++ c :: text)
      (atStart first ++ places.map fun place => (first ++ c :: place.1, place.2)) where
  ordered := by
    rw [List.pairwise_append]
    refine ⟨(Locates.of_forall hfirst).ordered, ?_, ?_⟩
    · rw [List.pairwise_map]
      exact h.ordered.imp fun hlt => by simpa using hlt
    · rintro ⟨before, run⟩ hstart later hlater
      obtain ⟨rfl, -, -⟩ := mem_atStart.mp hstart
      obtain ⟨place, -, rfl⟩ := List.mem_map.mp hlater
      simp only [List.length_nil, List.length_append, List.length_cons]
      omega
  mem_iff before run := by
    rw [List.mem_append, mem_atStart, isRun_append_cons_iff hfirst hc, List.mem_map]
    refine or_congr Iff.rfl ⟨?_, ?_⟩
    · rintro ⟨⟨rest, found⟩, hplace, heq⟩
      obtain ⟨rfl, rfl⟩ := Prod.mk.inj heq
      exact ⟨rest, rfl, (h.mem_iff rest found).mp hplace⟩
    · rintro ⟨rest, rfl, hrun⟩
      exact ⟨(rest, run), (h.mem_iff rest run).mpr hrun, rfl⟩

theorem map_snd_atStart {run : List Char} (h : ∀ c ∈ run, isSeparator c = false) :
    (atStart run).map Prod.snd = runs isSeparator run := by
  rw [atStart]
  split
  · next hnil => rw [hnil, runs_nil, List.map_nil]
  · next hne => rw [runs_of_forall hne h, List.map_singleton]

/-- The runs of a text are what stands at the places of runs, from the left to the right. -/
theorem exists_locates (isSeparator : Char → Bool) (text : List Char) :
    ∃ places, Locates isSeparator text places ∧ runs isSeparator text = places.map Prod.snd := by
  induction text using cut_induction isSeparator with
  | last run hrun => exact ⟨atStart run, .of_forall hrun, (map_snd_atStart hrun).symm⟩
  | ended run c rest hrun hc ih =>
    obtain ⟨places, hplaces, hruns⟩ := ih
    refine ⟨_, hplaces.append_cons hrun hc, ?_⟩
    rw [runs_append_cons hc, hruns, List.map_append, map_snd_atStart hrun, List.map_map]
    rfl

end Text

open Text

/-- A text of some tokens in their order, with separators between any two of them. -/
inductive Joins (isSeparator : Char → Bool) : List String → String → Prop where
  | nothing : Joins isSeparator [] ""
  | single (token : String) : Joins isSeparator [token] token
  | cons (token : String) {gap next joined : String} {tokens : List String} :
      gap ≠ "" → (∀ c ∈ gap.toList, isSeparator c = true) →
        Joins isSeparator (next :: tokens) joined →
          Joins isSeparator (token :: next :: tokens) (token ++ gap ++ joined)

theorem Joins.runs_eq {isSeparator : Char → Bool} {tokens : List String} {joined : String}
    (h : Joins isSeparator tokens joined)
    (htokens : ∀ token ∈ tokens, token ≠ "" ∧ ∀ c ∈ token.toList, isSeparator c = false) :
    runs isSeparator joined.toList = tokens.map String.toList := by
  induction h with
  | nothing => rfl
  | single token =>
    obtain ⟨hne, hletters⟩ := htokens token List.mem_cons_self
    exact runs_of_forall (mt String.toList_eq_nil_iff.mp hne) hletters
  | cons token hgap hseparators _ ih =>
    obtain ⟨hne, hletters⟩ := htokens token List.mem_cons_self
    have hfollowing := ih fun other hother => htokens other (.tail _ hother)
    rw [String.toList_append, String.toList_append, List.append_assoc,
      runs_append_gap (mt String.toList_eq_nil_iff.mp hne) hletters
        (mt String.toList_eq_nil_iff.mp hgap) hseparators,
      hfollowing, ← List.map_cons]

theorem tokenize_eq_iff {line delimiters : String} {tokens : List String} :
    tokenize line delimiters = tokens ↔
      runs (separates delimiters.toList) line.toList = tokens.map String.toList := by
  constructor
  · rintro rfl
    simp [tokenize]
  · intro h
    rw [tokenize, h, List.map_map]
    simp

theorem map_toList_tokenize (line delimiters : String) :
    (tokenize line delimiters).map String.toList =
      runs (separates delimiters.toList) line.toList :=
  (tokenize_eq_iff.mp rfl).symm

theorem token_of_mem_tokenize {line delimiters token : String}
    (h : token ∈ tokenize line delimiters) :
    token ≠ "" ∧ ∀ c ∈ token.toList, separates delimiters.toList c = false := by
  have hrun : token.toList ∈ runs (separates delimiters.toList) line.toList := by
    rw [← map_toList_tokenize]
    exact List.mem_map_of_mem h
  refine ⟨mt String.toList_eq_nil_iff.mpr (ne_nil_of_mem_runs hrun), ?_⟩
  exact not_isSeparator_of_mem_pieces (List.mem_filter.mp hrun).1

/-- The tokens of a line are what stands at the places of its runs, each of them once and from the
left to the right: no token is empty or has a separator, and nothing but the separators is lost. A
separator cuts a line in two, with tokens of their own. Any text that joins the tokens of a line,
between any separators, has the same tokens. -/
theorem tokenize_runs (line delimiters : String) :
    let isSeparator := separates delimiters.toList
    (∃ places, Locates isSeparator line.toList places ∧
        tokenize line delimiters = places.map fun place => String.ofList place.2) ∧
      (∀ token ∈ tokenize line delimiters,
        token ≠ "" ∧ ∀ c ∈ token.toList, isSeparator c = false) ∧
      String.join (tokenize line delimiters) =
        String.ofList (line.toList.filter fun c => !isSeparator c) ∧
      (∀ before c after, isSeparator c = true →
        tokenize (before ++ String.singleton c ++ after) delimiters =
          tokenize before delimiters ++ tokenize after delimiters) ∧
      ∀ leading joined trailing, (∀ c ∈ leading.toList, isSeparator c = true) →
        Joins isSeparator (tokenize line delimiters) joined →
          (∀ c ∈ trailing.toList, isSeparator c = true) →
            tokenize (leading ++ joined ++ trailing) delimiters = tokenize line delimiters := by
  intro isSeparator
  refine ⟨?_, fun token => token_of_mem_tokenize, ?_, ?_, ?_⟩
  · obtain ⟨places, hplaces, hruns⟩ := exists_locates isSeparator line.toList
    refine ⟨places, hplaces, ?_⟩
    rw [tokenize, hruns, List.map_map]
    rfl
  · rw [← String.toList_inj, String.toList_join, String.toList_ofList, List.flatMap_def,
      map_toList_tokenize, flatten_runs]
  · intro before c after hc
    rw [tokenize_eq_iff, String.toList_append, String.toList_append, String.toList_singleton,
      List.append_assoc, List.singleton_append, runs_append_cons hc, List.map_append,
      map_toList_tokenize, map_toList_tokenize]
  · intro leading joined trailing hleading hjoined htrailing
    rw [tokenize_eq_iff, String.toList_append, String.toList_append,
      runs_append_of_forall_right htrailing, runs_append_of_forall_isSeparator hleading]
    exact hjoined.runs_eq fun token => token_of_mem_tokenize

/-- A line with two delimiters in a row and a wide space, and its tokens between other separators. -/
theorem tokenize_runs_spaced :
    let line := "ka.-lo\u3000pa"
    let isSeparator := separates ".-".toList
    tokenize line ".-" = ["ka", "lo", "pa"] ∧
      ("lo" ∈ tokenize line ".-" ∧ ∀ c ∈ "lo".toList, isSeparator c = false) ∧
      (isSeparator '\u3000' = true ∧
        tokenize ("ka.-lo" ++ String.singleton '\u3000' ++ "pa") ".-" =
          tokenize "ka.-lo" ".-" ++ tokenize "pa" ".-") ∧
      Joins isSeparator ["ka", "lo", "pa"] ("ka" ++ "\t" ++ ("lo" ++ "- ." ++ "pa")) ∧
        tokenize (" " ++ ("ka" ++ "\t" ++ ("lo" ++ "- ." ++ "pa")) ++ ".") ".-" =
          tokenize line ".-" := by
  intro line isSeparator
  have htokens : tokenize line ".-" = ["ka", "lo", "pa"] := by decide +kernel
  have hmem : "lo" ∈ tokenize line ".-" := by
    rw [htokens]
    decide
  have hwide : isSeparator '\u3000' = true := by decide
  have hjoins : Joins isSeparator ["ka", "lo", "pa"]
      ("ka" ++ "\t" ++ ("lo" ++ "- ." ++ "pa")) := by
    refine .cons "ka" (by decide) (List.all_eq_true.mp (by decide)) ?_
    exact .cons "lo" (by decide) (List.all_eq_true.mp (by decide)) (.single "pa")
  obtain ⟨-, hletters, -, hcut, hagain⟩ := tokenize_runs line ".-"
  refine ⟨htokens, ⟨hmem, (hletters "lo" hmem).2⟩, ⟨hwide, hcut _ _ _ hwide⟩, hjoins, ?_⟩
  exact hagain " " _ "." (List.all_eq_true.mp (by decide)) (htokens ▸ hjoins)
    (List.all_eq_true.mp (by decide))

end PhoneticSearch
