import Mathlib.Data.List.TakeWhile
import PhoneticSearch.Lexicon.WordList
import PhoneticSearch.Proofs.Text.Lines

/-!
# Word lists are read as they are written

* `Text.trimChars_concat`, `Text.trimChars_eq_nil`: trimming takes no notice of a blank at the end,
  and leaves nothing of blanks.
* `WordList.columns_append_tab`, `WordList.columns_of_not_mem`: the two kinds of lines.
* `WordList.Writes`: the line of a headword with its definition.
* `WordList.parse_written`: the lines of some headwords with their definitions, among blank lines,
  give these headwords with these definitions.
-/

namespace PhoneticSearch

namespace Text

theorem trimChars_eq_nil {text : List Char} (h : ∀ c ∈ text, isBlank c = true) :
    trimChars text = [] := by
  rw [trimChars, trimStart, List.dropWhile_eq_nil_iff.mpr h]
  rfl

theorem trimEnd_concat {c : Char} (h : isBlank c = true) (text : List Char) :
    trimEnd (text ++ [c]) = trimEnd text := by
  rw [trimEnd, List.reverse_concat, List.dropWhile_cons_of_pos h, trimEnd]

theorem trimChars_concat {c : Char} (h : isBlank c = true) (text : List Char) :
    trimChars (text ++ [c]) = trimChars text := by
  rw [trimChars, trimStart, List.dropWhile_append, trimChars, trimStart]
  split
  · next hblank =>
    rw [List.isEmpty_iff.mp hblank, List.dropWhile_cons_of_pos h]
    rfl
  · exact trimEnd_concat h _

theorem trimChars_of_trim_eq {text : String} (h : trim text = text) :
    trimChars text.toList = text.toList := by
  rw [← toList_trim, h]

end Text

namespace WordList

open Text

theorem forall_ne_tab {text : List Char} (h : '\t' ∉ text) :
    ∀ c ∈ text, decide (c ≠ '\t') = true := by
  intro c hc
  rw [decide_eq_true_eq]
  rintro rfl
  exact h hc

theorem columns_append_tab {headword : List Char} (h : '\t' ∉ headword) (definition : List Char) :
    columns (headword ++ '\t' :: definition) = (headword, definition) := by
  have hletters := forall_ne_tab h
  rw [columns, List.takeWhile_append_of_pos hletters, List.dropWhile_append_of_pos hletters]
  simp

theorem columns_of_not_mem {line : List Char} (h : '\t' ∉ line) : columns line = (line, []) := by
  have hletters := forall_ne_tab h
  rw [columns, List.takeWhile_eq_self_iff.mpr hletters, List.dropWhile_eq_nil_iff.mpr hletters]
  rfl

variable (encoder : Encoder)

/-- Blanks around the columns of a line have no part in its entry. -/
theorem readLine_congr {line other : List Char}
    (hheadword : trimChars (columns line).1 = trimChars (columns other).1)
    (hdefinition : trimChars (columns line).2 = trimChars (columns other).2) :
    readLine encoder line = readLine encoder other := by
  simp only [readLine, hheadword, hdefinition]

theorem readLine_append_return (line : List Char) :
    readLine encoder (line ++ ['\r']) = readLine encoder line := by
  have hreturn : isBlank '\r' = true := by decide
  by_cases htab : '\t' ∈ line
  · obtain ⟨headword, definition, rfl, hheadword⟩ := List.eq_append_cons_of_mem htab
    apply readLine_congr
    · rw [List.append_assoc, List.cons_append, columns_append_tab hheadword,
        columns_append_tab hheadword]
    · rw [List.append_assoc, List.cons_append, columns_append_tab hheadword,
        columns_append_tab hheadword, trimChars_concat hreturn]
  · have hmore : '\t' ∉ line ++ ['\r'] := by simpa using htab
    apply readLine_congr
    · rw [columns_of_not_mem htab, columns_of_not_mem hmore, trimChars_concat hreturn]
    · rw [columns_of_not_mem htab, columns_of_not_mem hmore]

theorem readLine_eq_none {line : List Char} (h : ∀ c ∈ line, isBlank c = true) :
    readLine encoder line = none := by
  have hheadword : ∀ c ∈ (columns line).1, isBlank c = true :=
    fun c hc => h c ((List.takeWhile_sublist _).subset hc)
  simp [readLine, trimChars_eq_nil hheadword]

/-! ## Written lines -/

/-- The line of a headword with its definition, which may be empty. -/
structure Writes (item : String × String) (line : String) : Prop where
  headword_ne_empty : item.1 ≠ ""
  trim_headword : trim item.1 = item.1
  headword_tab : '\t' ∉ item.1.toList
  headword_feed : '\n' ∉ item.1.toList
  trim_definition : trim item.2 = item.2
  definition_feed : '\n' ∉ item.2.toList
  line_eq : line = item.1 ++ "\t" ++ item.2

/-- A blank line. -/
structure Passes (line : String) : Prop where
  feed : '\n' ∉ line.toList
  blank : ∀ c ∈ line.toList, isBlank c = true

/-- The entry of a headword with a definition; an empty one is none. -/
def listed (headword definition : String) : Entry where
  headword := headword
  text := headword
  definition := if definition = "" then none else some definition
  phones := encoder.encode headword

theorem Writes.toList_eq {item : String × String} {line : String} (h : Writes item line) :
    line.toList = item.1.toList ++ '\t' :: item.2.toList := by
  rw [h.line_eq, String.toList_append, String.toList_append]
  simp

theorem Writes.not_mem_feed {item : String × String} {line : String} (h : Writes item line) :
    '\n' ∉ line.toList := by
  rw [h.toList_eq]
  simp [h.headword_feed, h.definition_feed]

theorem Writes.readLine_eq {item : String × String} {line : String} (h : Writes item line) :
    readLine encoder line.toList = some (listed encoder item.1 item.2) := by
  rw [h.toList_eq]
  simp only [readLine, columns_append_tab h.headword_tab, trimChars_of_trim_eq h.trim_headword,
    trimChars_of_trim_eq h.trim_definition, String.ofList_toList]
  by_cases hdefinition : item.2 = ""
  · simp [h.headword_ne_empty, hdefinition, listed, Entry.withDefinition, Entry.encoded,
      Entry.ofPhones]
  · simp [h.headword_ne_empty, hdefinition, listed, Entry.withDefinition, Entry.encoded,
      Entry.ofPhones]

theorem readsSheet :
    ReadsSheet (fun line => readLine encoder line.1) Writes Passes
      fun item => listed encoder item.1 item.2 where
  ignoresReturns :=
    ⟨fun _ => readLine_eq_none encoder (by simp), fun line _ => readLine_append_return encoder line⟩
  item h := ⟨h.not_mem_feed, fun _ => h.readLine_eq encoder⟩
  passed h := ⟨h.feed, fun _ => readLine_eq_none encoder h.blank⟩

theorem parse_eq (limit : Option Nat) (text : String) :
    parse encoder limit text =
      ((takeLimit limit (lines text.toList)).zipIdx 1).filterMap
        fun line => readLine encoder line.1 := by
  have hfst := List.zipIdx_map_fst 1 (takeLimit limit (lines text.toList))
  conv => lhs; rw [parse, ← hfst, List.filterMap_map]
  rfl

/-- The lines of some headwords with their definitions, joined in either way and with blank lines
anywhere among them, give one entry for each headword in their order. -/
theorem parse_written (ending : LineEnd) {items : List (String × String)} {given : List String}
    (h : Sheet Writes Passes items given) :
    parse encoder none (ending.text.intercalate given) =
      items.map fun item => listed encoder item.1 item.2 := by
  rw [parse_eq, takeLimit, (readsSheet encoder).filterMap_lines ending h]

def noPatterns : Encoder :=
  .ofEncoding (.ofPatterns "letters" (.ofGroups "features" ["voice"] 1 (-1) none) [])

/-- A definition with a tab, a headword with a carriage return and without a definition, and blank
lines, of which one holds a tab. -/
theorem parse_written_tabbed :
    let items := [("pani", "water\tof life"), ("ka\rn", "")]
    let given := ["", "pani\twater\tof life", " \t\u3000", "ka\rn\t", ""]
    Sheet Writes Passes items given ∧
      parse noPatterns none (LineEnd.returnAndFeed.text.intercalate given) =
        [listed noPatterns "pani" "water\tof life", listed noPatterns "ka\rn" ""] := by
  intro items given
  have hempty : Passes "" := ⟨by decide, List.all_eq_true.mp (by decide)⟩
  have hblank : Passes " \t\u3000" := ⟨by decide, List.all_eq_true.mp (by decide)⟩
  have hsheet : Sheet Writes Passes items given := by
    refine .passed hempty (.item ?_ (.passed hblank (.item ?_ (.passed hempty .done))))
    · exact ⟨by decide, by decide, by decide, by decide, by decide, by decide, rfl⟩
    · exact ⟨by decide, by decide, by decide, by decide, by decide, by decide, rfl⟩
  exact ⟨hsheet, parse_written noPatterns .returnAndFeed hsheet⟩

end WordList

end PhoneticSearch
