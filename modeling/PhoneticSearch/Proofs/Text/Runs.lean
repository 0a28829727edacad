import PhoneticSearch.Text.Pieces

/-!
# Runs between separators

* `cut_induction`: a text has no separator, or it is a stretch without one, a separator and the
  rest.
* `runs_append_gap`, `runs_intercalate`: joined runs are found again.
* `flatten_runs`: the runs of a text have all of it but its separators.
* `CutInto`: a text and its runs, in words of the text alone.
* `cutInto_iff`: a text is cut into the list of its runs and into no other.
-/

namespace PhoneticSearch.Text

variable {isSeparator : Char → Bool}

theorem cut_induction (isSeparator : Char → Bool) {motive : List Char → Prop}
    (last : ∀ run, (∀ c ∈ run, isSeparator c = false) → motive run)
    (ended : ∀ run c rest, (∀ d ∈ run, isSeparator d = false) → isSeparator c = true →
      motive rest → motive (run ++ c :: rest))
    (text : List Char) : motive text := by
  -- the induction carries the stretch that it has passed since the last separator
  have hpassed : ∀ (text passed : List Char), (∀ c ∈ passed, isSeparator c = false) →
      motive (passed ++ text) := by
    intro text
    induction text with
    | nil =>
      intro passed hpassed
      rw [List.append_nil]
      exact last passed hpassed
    | cons c text ih =>
      intro passed hpassed
      cases hc : isSeparator c with
      | true => exact ended passed c text hpassed hc (ih [] (by simp))
      | false =>
        have hmore : ∀ d ∈ passed ++ [c], isSeparator d = false := by
          intro d hd
          obtain hd | rfl := List.mem_append.mp hd |>.imp_right List.mem_singleton.mp
          · exact hpassed d hd
          · exact hc
        have h := ih (passed ++ [c]) hmore
        rwa [List.append_assoc] at h
  exact hpassed text [] (by simp)

/-- A text that begins with a template without `c` does so before its first `c`. -/
theorem isPrefixOf_append_cons {template : List Char} {c : Char} (hc : c ∉ template)
    (text rest : List Char) :
    template.isPrefixOf (text ++ c :: rest) = template.isPrefixOf text := by
  rw [Bool.eq_iff_iff, List.isPrefixOf_iff_prefix, List.isPrefixOf_iff_prefix]
  constructor
  · intro hprefix
    rcases Nat.lt_or_ge text.length template.length with hlt | hle
    · -- a longer template would reach over `c`
      have hpart : text ++ [c] <+: text ++ c :: rest := by
        rw [List.prefix_append_right_inj]
        exact ⟨rest, rfl⟩
      have hlength : (text ++ [c]).length ≤ template.length := by
        rw [List.length_append]
        exact hlt
      have hover := List.prefix_of_prefix_length_le hpart hprefix hlength
      exact absurd (hover.subset (by simp)) hc
    · exact List.prefix_of_prefix_length_le hprefix (List.prefix_append text _) hle
  · intro hprefix
    exact hprefix.trans (List.prefix_append text _)

theorem pieces_of_forall {text : List Char} (h : ∀ c ∈ text, isSeparator c = false) :
    pieces isSeparator text = [text] := by
  induction text with
  | nil => rfl
  | cons c text ih =>
    have hc : isSeparator c = false := h c List.mem_cons_self
    have htext : pieces isSeparator text = [text] := ih fun d hd => h d (List.mem_cons_of_mem _ hd)
    rw [pieces_cons, htext]
    simp [consPiece, hc]

theorem runs_of_forall {text : List Char} (hne : text ≠ [])
    (h : ∀ c ∈ text, isSeparator c = false) : runs isSeparator text = [text] := by
  rw [runs, pieces_of_forall h]
  simp [hne]

theorem runs_nil : runs isSeparator [] = [] := rfl

theorem runs_cons {c : Char} (h : isSeparator c = true) (text : List Char) :
    runs isSeparator (c :: text) = runs isSeparator text := by
  have hruns := runs_append_cons h [] text
  rwa [List.nil_append, runs_nil, List.nil_append] at hruns

theorem runs_append_of_forall_isSeparator {gap : List Char} (h : ∀ c ∈ gap, isSeparator c = true)
    (text : List Char) : runs isSeparator (gap ++ text) = runs isSeparator text := by
  induction gap with
  | nil => rfl
  | cons c gap ih =>
    rw [List.cons_append, runs_cons (h c List.mem_cons_self)]
    exact ih fun d hd => h d (List.mem_cons_of_mem _ hd)

theorem mem_gap_or_mem_of_mem_intercalate {gap : List Char} {found : List (List Char)} {c : Char}
    (h : c ∈ gap.intercalate found) : c ∈ gap ∨ ∃ run ∈ found, c ∈ run := by
  induction found with
  | nil => cases h
  | cons run found ih =>
    cases found with
    | nil =>
      rw [List.intercalate_singleton] at h
      exact .inr ⟨run, List.mem_cons_self, h⟩
    | cons next found =>
      rw [List.intercalate_cons_cons, List.mem_append, List.mem_append] at h
      obtain (hrun | hgap) | hrest := h
      · exact .inr ⟨run, List.mem_cons_self, hrun⟩
      · exact .inl hgap
      · obtain hgap | ⟨other, hother, hc⟩ := ih hrest
        · exact .inl hgap
        · exact .inr ⟨other, List.mem_cons_of_mem _ hother, hc⟩

/-- A run ends where separators follow. -/
theorem runs_append_gap {run gap : List Char} (hrun : run ≠ [])
    (hletters : ∀ c ∈ run, isSeparator c = false) (hne : gap ≠ [])
    (hgap : ∀ c ∈ gap, isSeparator c = true) (rest : List Char) :
    runs isSeparator (run ++ (gap ++ rest)) = run :: runs isSeparator rest := by
  obtain ⟨c, others, rfl⟩ := List.exists_cons_of_ne_nil hne
  have hothers : ∀ d ∈ others, isSeparator d = true := fun d hd => hgap d (.tail _ hd)
  rw [List.cons_append, runs_append_cons (hgap c List.mem_cons_self), runs_of_forall hrun hletters,
    runs_append_of_forall_isSeparator hothers, List.singleton_append]

/-- Runs with the same separators between any two of them. -/
theorem runs_intercalate {gap : List Char} (hne : gap ≠ []) (hgap : ∀ c ∈ gap, isSeparator c = true)
    {found : List (List Char)}
    (hfound : ∀ run ∈ found, run ≠ [] ∧ ∀ c ∈ run, isSeparator c = false) :
    runs isSeparator (gap.intercalate found) = found := by
  induction found with
  | nil => rfl
  | cons run found ih =>
    obtain ⟨hrun, hletters⟩ := hfound run List.mem_cons_self
    cases found with
    | nil =>
      rw [List.intercalate_singleton]
      exact runs_of_forall hrun hletters
    | cons next found =>
      have hfollowing := ih fun other hother => hfound other (.tail _ hother)
      rw [List.intercalate_cons_cons, List.append_assoc, runs_append_gap hrun hletters hne hgap,
        hfollowing]

/-- A text and its runs: each is a stretch without separators that nothing but a separator or the
end of the text may follow. -/
inductive CutInto (isSeparator : Char → Bool) : List Char → List (List Char) → Prop where
  | done : CutInto isSeparator [] []
  | skip {c : Char} {text : List Char} {found : List (List Char)} :
      isSeparator c = true → CutInto isSeparator text found →
        CutInto isSeparator (c :: text) found
  | last {run : List Char} :
      run ≠ [] → (∀ c ∈ run, isSeparator c = false) → CutInto isSeparator run [run]
  | run {run : List Char} {c : Char} {text : List Char} {found : List (List Char)} :
      run ≠ [] → (∀ d ∈ run, isSeparator d = false) → isSeparator c = true →
        CutInto isSeparator text found →
          CutInto isSeparator (run ++ c :: text) (run :: found)

theorem cutInto_runs (text : List Char) : CutInto isSeparator text (runs isSeparator text) := by
  induction text using cut_induction isSeparator with
  | last run hrun =>
    by_cases hne : run = []
    · rw [hne, runs_nil]
      exact .done
    · rw [runs_of_forall hne hrun]
      exact .last hne hrun
  | ended run c rest hrun hc ih =>
    by_cases hne : run = []
    · rw [hne, List.nil_append, runs_cons hc]
      exact .skip hc ih
    · rw [runs_append_cons hc, runs_of_forall hne hrun, List.singleton_append]
      exact .run hne hrun hc ih

theorem CutInto.runs_eq {text : List Char} {found : List (List Char)}
    (h : CutInto isSeparator text found) : runs isSeparator text = found := by
  induction h with
  | done => rfl
  | skip hc _ ih => rw [runs_cons hc, ih]
  | last hne hrun => exact runs_of_forall hne hrun
  | run hne hrun hc _ ih =>
    rw [runs_append_cons hc, runs_of_forall hne hrun, ih, List.singleton_append]

theorem cutInto_iff {text : List Char} {found : List (List Char)} :
    CutInto isSeparator text found ↔ runs isSeparator text = found := by
  constructor
  · exact CutInto.runs_eq
  · rintro rfl
    exact cutInto_runs text

theorem CutInto.forall_of_nil {text : List Char} (h : CutInto isSeparator text []) :
    ∀ c ∈ text, isSeparator c = true := by
  generalize hfound : [] = found at h
  induction h with
  | done => simp
  | skip hc _ ih => exact List.forall_mem_cons.mpr ⟨hc, ih hfound⟩
  | last => cases hfound
  | run => cases hfound

theorem runs_eq_nil_iff {text : List Char} :
    runs isSeparator text = [] ↔ ∀ c ∈ text, isSeparator c = true := by
  constructor
  · intro h
    exact (cutInto_iff.mpr h).forall_of_nil
  · intro h
    have hruns := runs_append_of_forall_isSeparator h []
    rwa [List.append_nil, runs_nil] at hruns

theorem runs_append_of_forall_right {gap : List Char} (h : ∀ c ∈ gap, isSeparator c = true)
    (text : List Char) : runs isSeparator (text ++ gap) = runs isSeparator text := by
  cases gap with
  | nil => rw [List.append_nil]
  | cons c gap =>
    have hgap : runs isSeparator gap = [] := runs_eq_nil_iff.mpr fun d hd => h d (.tail _ hd)
    rw [runs_append_cons (h c List.mem_cons_self), hgap, List.append_nil]

theorem filter_of_forall {text : List Char} (h : ∀ c ∈ text, isSeparator c = false) :
    (text.filter fun c => !isSeparator c) = text := by
  rw [List.filter_eq_self]
  intro c hc
  rw [h c hc]
  rfl

/-- The runs of a text have all of it but its separators. -/
theorem flatten_runs (isSeparator : Char → Bool) (text : List Char) :
    (runs isSeparator text).flatten = text.filter fun c => !isSeparator c := by
  have hflat : ∀ run : List Char, (∀ c ∈ run, isSeparator c = false) →
      (runs isSeparator run).flatten = run := by
    intro run hrun
    by_cases hne : run = []
    · rw [hne, runs_nil, List.flatten_nil]
    · rw [runs_of_forall hne hrun, List.flatten_singleton]
  induction text using cut_induction isSeparator with
  | last run hrun => rw [hflat run hrun, filter_of_forall hrun]
  | ended run c rest hrun hc ih =>
    rw [runs_append_cons hc, List.flatten_append, hflat run hrun, ih, List.filter_append,
      filter_of_forall hrun, List.filter_cons_of_neg (by simp [hc])]

end PhoneticSearch.Text
