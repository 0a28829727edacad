import Mathlib.Data.List.Induction
import Mathlib.Data.List.Nodup
import PhoneticSearch.Lexicon.Basic

/-!
# What a lexicon shows of its source

* `firsts`, `repeats`: the entries of a source whose headword is new, and the others.
* `Contents.Sifted.Holds`: the invariant of the loop that sorts the entries of a source: its list,
  the places of headwords in the list and the repeated headwords fit together.
* `Supply.reply`: what a lexicon is to answer, said of the entries that the source gave.
* `LazyLexicon.run`: accesses one after the other, while the source may change.
* `LazyLexicon.run_replies`: nothing of the source is seen before the first question, and ever after
  it is what the source supplied for that question.
-/

namespace PhoneticSearch

/-- Whether some entry has a headword. -/
def occurs (given : List Entry) (headword : String) : Bool :=
  given.any fun entry => entry.headword == headword

/-- The entries whose headword does, or does not, occur before them. -/
def entriesWhere (repeated : Bool) (given : List Entry) : List Entry :=
  (given.zipIdx.filter fun (entry, place) =>
    occurs (given.take place) entry.headword == repeated).map Prod.fst

def firsts (given : List Entry) : List Entry := entriesWhere false given

def repeats (given : List Entry) : List Entry := entriesWhere true given

def firstWith? (given : List Entry) (headword : String) : Option Entry :=
  given.find? fun entry => entry.headword == headword

namespace Supply

/-- The entries of a source; one that fails gives none. -/
def given (supply : Supply) : List Entry :=
  match supply.entries with
  | .ok entries => entries
  | .error _ => []

/-- The issues of the source, and then its failure or an issue for each repeated entry. -/
def noted (supply : Supply) : List Issue :=
  match supply.entries with
  | .ok entries =>
    supply.issues ++ (repeats entries).map fun entry => .duplicateHeadword entry.headword
  | .error fault => supply.issues ++ [.lexiconUnread fault]

/-- What a lexicon of this name is to answer. -/
def reply (name : String) (supply : Supply) : LazyLexicon.Question → LazyLexicon.Reply
  | .size => .size (firsts supply.given).length
  | .isEmpty => .flag (firsts supply.given).isEmpty
  | .find headword => .found (firstWith? supply.given headword)
  | .problems => .problems (supply.noted.map fun issue => ⟨.lexicon name, issue⟩)
  | .entries => .entries (firsts supply.given)

end Supply

namespace LazyLexicon

/-- What is seen of a lexicon from outside, by its size if it is loaded. -/
def glanced (lexicon : Lexicon) (size : Option Nat) : Glance → Reply
  | .isLoaded => .flag size.isSome
  | .summary => .text (summaryOf lexicon.name lexicon.encoder.encoding.name size)
  | .names => .names lexicon.name lexicon.encoder.encoding.name

/-- What is seen of a lexicon once it is loaded. -/
def shown (lexicon : Lexicon) (supply : Supply) : Access → Reply
  | .glance glance => glanced lexicon (some (firsts supply.given).length) glance
  | .ask question => supply.reply lexicon.name question

/-- Accesses one after the other, each with what the source would supply at its time. -/
def run (lazy : LazyLexicon) : List (Thunk Supply × Access) → List Reply × LazyLexicon
  | [] => ([], lazy)
  | (supply, access) :: rest =>
    let (reply, lazy) := lazy.access supply access
    let (replies, lazy) := lazy.run rest
    (reply :: replies, lazy)

end LazyLexicon

/-! ## First and repeated entries -/

theorem occurs_eq_isSome (given : List Entry) (headword : String) :
    occurs given headword = (firstWith? given headword).isSome := by
  rw [occurs, firstWith?, List.isSome_find?]

theorem occurs_eq_false_iff {given : List Entry} {headword : String} :
    occurs given headword = false ↔ headword ∉ given.map Entry.headword := by
  simp [occurs]

theorem entriesWhere_concat (repeated : Bool) (given : List Entry) (entry : Entry) :
    entriesWhere repeated (given ++ [entry]) =
      entriesWhere repeated given ++
        if occurs given entry.headword = repeated then [entry] else [] := by
  have hbefore : (given.zipIdx.filter fun (item, place) =>
        occurs ((given ++ [entry]).take place) item.headword == repeated) =
      given.zipIdx.filter fun (item, place) =>
        occurs (given.take place) item.headword == repeated := by
    apply List.filter_congr
    rintro ⟨item, place⟩ hitem
    have hplace : place < given.length := (List.mem_zipIdx' hitem).1
    simp only [List.take_append_of_le_length (Nat.le_of_lt hplace)]
  rw [entriesWhere, List.zipIdx_append, List.filter_append, hbefore, List.map_append, entriesWhere]
  congr 1
  by_cases h : occurs given entry.headword = repeated
  · simp [h]
  · simp [h]

theorem firstWith?_concat (given : List Entry) (entry : Entry) (headword : String) :
    firstWith? (given ++ [entry]) headword =
      (firstWith? given headword).or (if entry.headword = headword then some entry else none) := by
  rw [firstWith?, List.find?_append, firstWith?]
  congr 1
  by_cases h : entry.headword = headword
  · simp [h]
  · simp [h]

/-- A repeated entry is not found. -/
theorem firstWith?_concat_repeated {given : List Entry} {entry : Entry}
    (hold : occurs given entry.headword = true) (headword : String) :
    firstWith? (given ++ [entry]) headword = firstWith? given headword := by
  rw [firstWith?_concat]
  by_cases hsame : entry.headword = headword
  · rw [occurs_eq_isSome, hsame, Option.isSome_iff_exists] at hold
    obtain ⟨found, hfound⟩ := hold
    rw [hfound, Option.some_or]
  · rw [if_neg hsame, Option.or_none]

/-- The first entries are among those given, in their order. -/
theorem firsts_sublist (given : List Entry) : (firsts given).Sublist given := by
  have h : (firsts given).Sublist (given.zipIdx.map Prod.fst) :=
    List.filter_sublist.map Prod.fst
  rwa [List.zipIdx_map_fst] at h

/-- Every entry is a first or a repeated one. -/
theorem length_firsts_add_repeats (given : List Entry) :
    (firsts given).length + (repeats given).length = given.length := by
  induction given using List.reverseRecOn with
  | nil => rfl
  | append_singleton given entry ih =>
    rw [firsts, repeats, entriesWhere_concat, entriesWhere_concat, List.length_append,
      List.length_append, List.length_append, List.length_singleton]
    rw [firsts, repeats] at ih
    cases occurs given entry.headword with
    | true =>
      simp
      omega
    | false =>
      simp
      omega

/-- Later entries do not change which of the earlier ones come first. -/
theorem firsts_isPrefix {given all : List Entry} (h : given <+: all) :
    firsts given <+: firsts all := by
  obtain ⟨more, rfl⟩ := h
  induction more using List.reverseRecOn with
  | nil => simp
  | append_singleton more entry ih =>
    have hlast : firsts (given ++ (more ++ [entry])) =
        firsts (given ++ more) ++
          if occurs (given ++ more) entry.headword = false then [entry] else [] := by
      rw [← List.append_assoc, firsts, entriesWhere_concat, firsts]
    rw [hlast]
    exact ih.trans (List.prefix_append _ _)

example :
    let given : List Entry := [.ofPhones "a" [], .ofPhones "b" [], .ofPhones "a" [[1]]]
    firsts given = given.take 2 ∧ repeats given = given.drop 2 := ⟨rfl, rfl⟩

/-- What is found among the entries is found among the first ones. -/
theorem firstWith?_firsts (given : List Entry) (headword : String) :
    firstWith? (firsts given) headword = firstWith? given headword := by
  induction given using List.reverseRecOn with
  | nil => rfl
  | append_singleton given entry ih =>
    rw [firsts, entriesWhere_concat, ← firsts]
    cases hoccurs : occurs given entry.headword with
    | true => rw [if_neg (by decide), List.append_nil, ih, firstWith?_concat_repeated hoccurs]
    | false => rw [if_pos rfl, firstWith?_concat, firstWith?_concat, ih]

theorem nodup_headwords_firsts (given : List Entry) :
    ((firsts given).map Entry.headword).Nodup := by
  induction given using List.reverseRecOn with
  | nil => exact List.nodup_nil
  | append_singleton given entry ih =>
    rw [firsts, entriesWhere_concat]
    split
    · next hnew =>
      rw [← firsts, List.map_append, List.map_singleton, ← List.concat_eq_append]
      refine ih.concat ?_
      intro hmem
      exact occurs_eq_false_iff.mp hnew (((firsts_sublist given).map _).subset hmem)
    · rw [List.append_nil]
      exact ih

/-- Of entries with distinct headwords none is repeated. -/
theorem firsts_of_nodup {given : List Entry} (h : (given.map Entry.headword).Nodup) :
    firsts given = given := by
  induction given using List.reverseRecOn with
  | nil => rfl
  | append_singleton given entry ih =>
    rw [List.map_append, List.map_singleton, ← List.concat_eq_append, List.nodup_concat] at h
    obtain ⟨hnew, hgiven⟩ := h
    rw [firsts, entriesWhere_concat, if_pos (occurs_eq_false_iff.mpr hnew), ← firsts, ih hgiven]

theorem repeats_of_nodup {given : List Entry} (h : (given.map Entry.headword).Nodup) :
    repeats given = [] := by
  have hlength := length_firsts_add_repeats given
  rw [firsts_of_nodup h] at hlength
  exact List.eq_nil_of_length_eq_zero (Nat.add_eq_left.mp hlength)

/-! ## The loop over the entries of a source -/

namespace Contents

/-- The entry at the place of a headword. -/
def Sifted.entryOf? (sifted : Sifted) (headword : String) : Option Entry :=
  sifted.places[headword]?.bind fun place => sifted.kept[place]?

/-- What the loop has after some entries. -/
structure Sifted.Holds (given : List Entry) (sifted : Sifted) : Prop where
  kept_eq : sifted.kept.toList = firsts given
  repeated_eq : sifted.repeated.toList = (repeats given).map Entry.headword
  entryOf?_eq : ∀ headword, sifted.entryOf? headword = firstWith? given headword

theorem Sifted.holds_empty : Sifted.Holds [] .empty where
  kept_eq := rfl
  repeated_eq := rfl
  entryOf?_eq headword := by simp [entryOf?, Sifted.empty, firstWith?]

variable {given : List Entry} {sifted : Sifted}

/-- The index has just the headwords that occurred. -/
theorem Sifted.Holds.contains_eq (h : sifted.Holds given) (headword : String) :
    sifted.places.contains headword = occurs given headword := by
  rw [occurs_eq_isSome, ← h.entryOf?_eq, Sifted.entryOf?, Std.HashMap.contains_eq_isSome_getElem?]
  cases hplace : sifted.places[headword]? with
  | none => rfl
  | some place =>
    have hlt := sifted.place_lt hplace
    simp [hlt]

theorem Sifted.Holds.add_repeated (h : sifted.Holds given) {entry : Entry}
    (hold : occurs given entry.headword = true) : (sifted.add entry).Holds (given ++ [entry]) := by
  have hadd : sifted.add entry =
      { sifted with repeated := sifted.repeated.push entry.headword } := by
    rw [Sifted.add, h.contains_eq, if_pos hold]
  rw [hadd]
  constructor
  · rw [firsts, entriesWhere_concat, if_neg (by simp [hold]), List.append_nil]
    exact h.kept_eq
  · rw [repeats, entriesWhere_concat, if_pos hold, List.map_append, ← repeats, ← h.repeated_eq,
      Array.toList_push]
    rfl
  · intro headword
    show sifted.entryOf? headword = _
    rw [h.entryOf?_eq, firstWith?_concat_repeated hold]

theorem Sifted.Holds.add_new (h : sifted.Holds given) {entry : Entry}
    (hnew : occurs given entry.headword = false) : (sifted.add entry).Holds (given ++ [entry]) := by
  have hkept : (sifted.add entry).kept = sifted.kept.push entry := by
    rw [Sifted.add, h.contains_eq, if_neg (by simp [hnew])]
  have hrepeated : (sifted.add entry).repeated = sifted.repeated := by
    rw [Sifted.add, h.contains_eq, if_neg (by simp [hnew])]
  have hplaces : (sifted.add entry).places =
      sifted.places.insert entry.headword sifted.kept.size := by
    rw [Sifted.add, h.contains_eq, if_neg (by simp [hnew])]
  constructor
  · rw [hkept, Array.toList_push, h.kept_eq, firsts, firsts, entriesWhere_concat, if_pos hnew]
  · rw [hrepeated, h.repeated_eq, repeats, repeats, entriesWhere_concat, if_neg (by simp [hnew]),
      List.append_nil]
  · intro headword
    rw [Sifted.entryOf?, hkept, hplaces, Std.HashMap.getElem?_insert, firstWith?_concat,
      ← h.entryOf?_eq]
    by_cases hsame : entry.headword = headword
    · rw [occurs_eq_isSome, ← h.entryOf?_eq, hsame] at hnew
      rw [Option.isSome_eq_false_iff, Option.isNone_iff_eq_none] at hnew
      simp [hsame, hnew]
    · rw [if_neg hsame, Option.or_none, if_neg (by simpa using hsame), Sifted.entryOf?]
      cases hplace : sifted.places[headword]? with
      | none => rfl
      | some place =>
        have hlt := sifted.place_lt hplace
        rw [Option.bind_some, Option.bind_some, Array.getElem?_push_lt hlt,
          Array.getElem?_eq_getElem hlt]

/-- Each entry preserves the invariant. -/
theorem Sifted.Holds.add (h : sifted.Holds given) (entry : Entry) :
    (sifted.add entry).Holds (given ++ [entry]) := by
  cases hoccurs : occurs given entry.headword with
  | true => exact h.add_repeated hoccurs
  | false => exact h.add_new hoccurs

theorem Sifted.holds_sift (given : List Entry) : (sift given).Holds given := by
  induction given using List.reverseRecOn with
  | nil => exact Sifted.holds_empty
  | append_singleton given entry ih =>
    rw [sift, List.foldl_append]
    exact ih.add entry

theorem find?_eq_bind (contents : Contents) (headword : String) :
    contents.find? headword =
      contents.places[headword]?.bind fun place => contents.entries[place]? := by
  rw [find?]
  split
  · next place hplace =>
    have hentry := List.getElem?_eq_getElem (contents.place_lt hplace)
    simp only [hplace, Option.bind_some, hentry]
    rfl
  · next hplace => simp only [hplace, Option.bind_none]

theorem find?_ofSifted (name : String) (issues : List Issue) (given : List Entry)
    (headword : String) :
    (ofSifted name issues (sift given)).find? headword = firstWith? given headword := by
  rw [find?_eq_bind, ← (Sifted.holds_sift given).entryOf?_eq, Sifted.entryOf?]
  simp only [ofSifted, Array.getElem?_toList]

/-- A source that fails is one without entries, but for the issues. -/
theorem exists_ofSupply_eq (name : String) (supply : Supply) :
    ∃ issues, ofSupply name supply = ofSifted name issues (sift supply.given) := by
  obtain ⟨issues, entries⟩ := supply
  cases entries with
  | ok entries => exact ⟨issues, rfl⟩
  | error fault => exact ⟨issues ++ [.lexiconUnread fault], rfl⟩

theorem entries_ofSupply (name : String) (supply : Supply) :
    (ofSupply name supply).entries = firsts supply.given := by
  obtain ⟨issues, h⟩ := exists_ofSupply_eq name supply
  rw [h]
  exact (Sifted.holds_sift supply.given).kept_eq

theorem find?_ofSupply (name : String) (supply : Supply) (headword : String) :
    (ofSupply name supply).find? headword = firstWith? supply.given headword := by
  obtain ⟨issues, h⟩ := exists_ofSupply_eq name supply
  rw [h]
  exact find?_ofSifted name issues supply.given headword

theorem problems_ofSupply (name : String) (supply : Supply) :
    (ofSupply name supply).problems = supply.noted.map fun issue => ⟨.lexicon name, issue⟩ := by
  obtain ⟨issues, entries⟩ := supply
  cases entries with
  | ok entries =>
    have hrepeated := (Sifted.holds_sift entries).repeated_eq
    simp only [ofSupply, ofSifted, Supply.noted, hrepeated, List.map_map]
    rfl
  | error fault =>
    have hrepeated : (sift []).repeated.toList = [] := rfl
    simp only [ofSupply, ofSifted, Supply.noted, hrepeated, List.map_nil, List.append_nil]

/-- Distinct headwords make a lexicon that holds each entry and has no problems. -/
theorem ofLoad_of_nodup (name : String) {entries : List Entry}
    (h : (entries.map Entry.headword).Nodup) :
    (ofLoad name (.ok ⟨entries, []⟩)).entries = entries ∧
      (ofLoad name (.ok ⟨entries, []⟩)).problems = [] := by
  rw [ofLoad, entries_ofSupply, problems_ofSupply]
  refine ⟨firsts_of_nodup h, ?_⟩
  show ([] ++ (repeats entries).map _).map _ = []
  rw [repeats_of_nodup h]
  rfl

theorem ofLoad_singleton (name : String) (entry : Entry) :
    (ofLoad name (.ok ⟨[entry], []⟩)).entries = [entry] ∧
      (ofLoad name (.ok ⟨[entry], []⟩)).problems = [] :=
  ofLoad_of_nodup name (List.nodup_singleton entry.headword)

end Contents

namespace LazyLexicon

theorem answer_ofSupply (name : String) (supply : Supply) (question : Question) :
    answer (.ofSupply name supply) question = supply.reply name question := by
  cases question with
  | size => rw [answer, Contents.entries_ofSupply, Supply.reply]
  | isEmpty => rw [answer, Contents.entries_ofSupply, Supply.reply]
  | find headword => rw [answer, Contents.find?_ofSupply, Supply.reply]
  | problems => rw [answer, Contents.problems_ofSupply, Supply.reply]
  | entries => rw [answer, Contents.entries_ofSupply, Supply.reply]

/-! ## Accesses one after the other -/

/-- The lexicon in use after the first question. -/
def loadedFrom (lexicon : Lexicon) (supply : Supply) : LazyLexicon :=
  ⟨lexicon.name, lexicon.encoder, some (.ofSupply lexicon.name supply)⟩

theorem run_cons {lazy next : LazyLexicon} {supply : Thunk Supply} {access : Access} {reply : Reply}
    (h : lazy.access supply access = (reply, next)) (later : List (Thunk Supply × Access)) :
    lazy.run ((supply, access) :: later) =
      (reply :: (next.run later).1, (next.run later).2) := by
  rw [run, h]

theorem access_loadedFrom (lexicon : Lexicon) (first : Supply) (supply : Thunk Supply)
    (access : Access) :
    (loadedFrom lexicon first).access supply access =
      (shown lexicon first access, loadedFrom lexicon first) := by
  cases access with
  | glance glance =>
    cases glance with
    | isLoaded => rfl
    | summary =>
      rw [shown, glanced, ← Contents.entries_ofSupply lexicon.name]
      rfl
    | names => rfl
  | ask question =>
    rw [shown, ← answer_ofSupply]
    rfl

/-- Once it is loaded, a lexicon stays as it is, whatever the source would supply. -/
theorem run_loadedFrom (lexicon : Lexicon) (first : Supply)
    (later : List (Thunk Supply × Access)) :
    (loadedFrom lexicon first).run later =
      (later.map fun step => shown lexicon first step.2, loadedFrom lexicon first) := by
  induction later with
  | nil => rfl
  | cons step later ih => rw [run_cons (access_loadedFrom ..), ih, List.map_cons]

theorem access_ofLexicon_ask (lexicon : Lexicon) (supply : Thunk Supply) (question : Question) :
    (ofLexicon lexicon).access supply (.ask question) =
      (supply.get.reply lexicon.name question, loadedFrom lexicon supply.get) := by
  rw [← answer_ofSupply]
  rfl

/-- Glances do not load a lexicon. -/
theorem run_ofLexicon_glances (lexicon : Lexicon) (glances : List (Thunk Supply × Glance))
    (later : List (Thunk Supply × Access)) :
    ((ofLexicon lexicon).run
        ((glances.map fun step => (step.1, .glance step.2)) ++ later)).1 =
      (glances.map fun step => glanced lexicon none step.2) ++
        ((ofLexicon lexicon).run later).1 := by
  induction glances with
  | nil => rfl
  | cons step glances ih =>
    have hglance : (ofLexicon lexicon).access step.1 (.glance step.2) =
        (glanced lexicon none step.2, ofLexicon lexicon) := by
      cases step.2 with
      | isLoaded => rfl
      | summary => rfl
      | names => rfl
    rw [List.map_cons, List.map_cons, List.cons_append, List.cons_append, run_cons hglance, ih]

/-- A lexicon is not loaded before the first question. From then on all that is seen of it is what
its source supplied for that question: the entries whose headword is new, in their order; the first
entry with a headword; and the issues of the source, its failure and one issue for each entry that
is left out. -/
theorem run_replies (lexicon : Lexicon) (glances : List (Thunk Supply × Glance))
    (first : Thunk Supply) (question : Question) (later : List (Thunk Supply × Access)) :
    let early := glances.map fun step => (step.1, Access.glance step.2)
    let unloaded := glances.map fun step => glanced lexicon none step.2
    let given := first.get.given
    ((ofLexicon lexicon).run early).1 = unloaded ∧
      ((ofLexicon lexicon).run (early ++ (first, .ask question) :: later)).1 =
        unloaded ++ first.get.reply lexicon.name question ::
          later.map (fun step => shown lexicon first.get step.2) ∧
      (firsts given).Sublist given ∧ ((firsts given).map Entry.headword).Nodup ∧
      (firsts given).length + (repeats given).length = given.length ∧
      ∀ headword, firstWith? (firsts given) headword = firstWith? given headword := by
  intro early unloaded given
  refine ⟨?_, ?_, firsts_sublist given, nodup_headwords_firsts given,
    length_firsts_add_repeats given, firstWith?_firsts given⟩
  · have h := run_ofLexicon_glances lexicon glances []
    rw [List.append_nil] at h
    rw [h, run, List.append_nil]
  · rw [run_ofLexicon_glances, run_cons (access_ofLexicon_ask ..), run_loadedFrom]

end LazyLexicon

end PhoneticSearch
