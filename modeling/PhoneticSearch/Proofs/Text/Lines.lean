import PhoneticSearch.Proofs.Text.Runs

/-!
# Lines

A line feed ends a line, and what follows the last line feed is a line unless it is empty.

* `lines_append_feed`, `lines_of_not_mem`: the two equations of `lines`, and `lines_induction`, the
  induction that goes with them.
* `exists_lines_eq_take`: the first lines of a text are the lines of a text that it begins with.
* `LineEnd`: the two line ends.
* `Sheet`: lines that hold some items in their order, and others that a reader passes over. A reader
  that takes no notice of carriage returns before line feeds finds the items of a joined sheet
  (`ReadsSheet.filterMap_lines`).
-/

namespace PhoneticSearch.Text

theorem pieces_feed_of_not_mem {line : List Char} (h : '\n' ∉ line) :
    pieces (· == '\n') line = [line] := by
  apply pieces_of_forall
  intro c hc
  simp only [beq_eq_false_iff_ne]
  rintro rfl
  exact h hc

theorem lines_of_not_mem {line : List Char} (h : '\n' ∉ line) :
    lines line = if line = [] then [] else [line] := by
  rw [lines, pieces_feed_of_not_mem h]
  cases line with
  | nil => rfl
  | cons c line => rfl

theorem lines_append_feed {line : List Char} (h : '\n' ∉ line) (rest : List Char) :
    lines (line ++ '\n' :: rest) = dropReturn line :: lines rest := by
  have hcut : pieces (· == '\n') (line ++ '\n' :: rest) = line :: pieces (· == '\n') rest := by
    rw [pieces_append_cons rfl, pieces_feed_of_not_mem h, List.singleton_append]
  have hrest := pieces_ne_nil (· == '\n') rest
  rw [lines, hcut, lines]
  cases hpieces : pieces (· == '\n') rest with
  | nil => exact absurd hpieces hrest
  | cons piece others => simp

/-- A text has no line feed, or it is a line, a line feed and the rest. -/
theorem lines_induction {motive : List Char → Prop} (last : ∀ line, '\n' ∉ line → motive line)
    (ended : ∀ line rest, '\n' ∉ line → motive rest → motive (line ++ '\n' :: rest))
    (text : List Char) : motive text := by
  have hfeed : ∀ line : List Char, (∀ c ∈ line, (c == '\n') = false) → '\n' ∉ line := by
    intro line hline hmem
    cases hline '\n' hmem
  induction text using cut_induction (· == '\n') with
  | last line hline => exact last line (hfeed line hline)
  | ended line c rest hline hc ih =>
    obtain rfl : c = '\n' := by simpa using hc
    exact ended line rest (hfeed line hline) ih

/-- The first lines of a text stand at its beginning. -/
theorem exists_lines_eq_take (count : Nat) (text : List Char) :
    ∃ head, head <+: text ∧ lines head = (lines text).take count := by
  induction text using lines_induction generalizing count with
  | last line hline =>
    cases count with
    | zero => exact ⟨[], List.nil_prefix, rfl⟩
    | succ count =>
      refine ⟨line, List.prefix_refl line, ?_⟩
      rw [List.take_of_length_le]
      rw [lines_of_not_mem hline]
      split
      · exact Nat.zero_le _
      · exact Nat.succ_le_succ (Nat.zero_le _)
  | ended line rest hline ih =>
    cases count with
    | zero => exact ⟨[], List.nil_prefix, rfl⟩
    | succ count =>
      obtain ⟨head, hprefix, hlines⟩ := ih count
      refine ⟨line ++ '\n' :: head, ?_, ?_⟩
      · exact (List.prefix_append_right_inj line).mpr ((List.prefix_cons_inj '\n').mpr hprefix)
      · rw [lines_append_feed hline, lines_append_feed hline, List.take_succ_cons, hlines]

/-! ## Joined lines -/

/-- What ends a line. -/
inductive LineEnd where
  | feed
  | returnAndFeed
deriving DecidableEq

def LineEnd.text : LineEnd → String
  | feed => "\n"
  | returnAndFeed => "\r\n"

/-- What of a line end a reader may still find at the end of the line. -/
def LineEnd.mark : LineEnd → List Char
  | feed => []
  | returnAndFeed => ['\r']

theorem LineEnd.toList_text (ending : LineEnd) : ending.text.toList = ending.mark ++ ['\n'] := by
  cases ending with
  | feed => rfl
  | returnAndFeed => rfl

theorem dropReturn_append_return (line : List Char) : dropReturn (line ++ ['\r']) = line := by
  simp [dropReturn]

theorem dropReturn_cases (line : List Char) :
    dropReturn line = line ∨ line = dropReturn line ++ ['\r'] := by
  cases hreverse : line.reverse with
  | nil =>
    left
    simp [dropReturn, hreverse]
  | cons c rest =>
    have hline : line = rest.reverse ++ [c] := by
      rw [← List.reverse_reverse line, hreverse, List.reverse_cons]
    by_cases hc : c = '\r'
    · right
      rw [hline, hc, dropReturn_append_return]
    · left
      unfold dropReturn
      split
      · next heq =>
        rw [hreverse] at heq
        cases heq
        exact absurd rfl hc
      · rfl

section Reader

variable {α β : Type}

/-- Lines that are written for some items, each for the next one, and lines without an item. -/
inductive Sheet (writes : α → String → Prop) (passes : String → Prop) :
    List α → List String → Prop where
  | done : Sheet writes passes [] []
  | item {item : α} {line : String} {items : List α} {given : List String} :
      writes item line → Sheet writes passes items given →
        Sheet writes passes (item :: items) (line :: given)
  | passed {line : String} {items : List α} {given : List String} :
      passes line → Sheet writes passes items given → Sheet writes passes items (line :: given)

/-- A reader of numbered lines that passes over empty lines and takes no notice of a carriage return
at the end of a line. -/
structure IgnoresReturns (read : List Char × Nat → Option β) : Prop where
  empty : ∀ number, read ([], number) = none
  append_return : ∀ line number, read (line ++ ['\r'], number) = read (line, number)

/-- What a reader has to do with the lines of a sheet. -/
structure ReadsSheet (read : List Char × Nat → Option β) (writes : α → String → Prop)
    (passes : String → Prop) (content : α → β) : Prop where
  ignoresReturns : IgnoresReturns read
  item : ∀ {item line}, writes item line →
    '\n' ∉ line.toList ∧ ∀ number, read (line.toList, number) = some (content item)
  passed : ∀ {line}, passes line →
    '\n' ∉ line.toList ∧ ∀ number, read (line.toList, number) = none

variable {read : List Char × Nat → Option β}

theorem IgnoresReturns.read_dropReturn (h : IgnoresReturns read) (line : List Char)
    (number : Nat) : read (dropReturn line, number) = read (line, number) := by
  obtain hsame | hline := dropReturn_cases line
  · rw [hsame]
  · conv => rhs; rw [hline]
    rw [h.append_return]

theorem IgnoresReturns.read_mark (h : IgnoresReturns read) (ending : LineEnd) (line : List Char)
    (number : Nat) : read (dropReturn (line ++ ending.mark), number) = read (line, number) := by
  rw [h.read_dropReturn]
  cases ending with
  | feed => rw [LineEnd.mark, List.append_nil]
  | returnAndFeed => exact h.append_return line number

theorem LineEnd.not_mem_append_mark (ending : LineEnd) {line : List Char} (h : '\n' ∉ line) :
    '\n' ∉ line ++ ending.mark := by
  cases ending with
  | feed => simpa [mark] using h
  | returnAndFeed => simpa [mark] using h

theorem LineEnd.intercalate_cons_cons (ending : LineEnd) (line next : List Char)
    (given : List (List Char)) :
    ending.text.toList.intercalate (line :: next :: given) =
      (line ++ ending.mark) ++ '\n' :: ending.text.toList.intercalate (next :: given) := by
  rw [List.intercalate_cons_cons, ending.toList_text]
  simp only [List.append_assoc, List.singleton_append]

/-- In the lines of a text a reader finds what it finds in the lines that the text was joined of. -/
theorem IgnoresReturns.filterMap_lines (h : IgnoresReturns read) (ending : LineEnd)
    {given : List (List Char)} (hgiven : ∀ line ∈ given, '\n' ∉ line) (number : Nat) :
    ((lines (ending.text.toList.intercalate given)).zipIdx number).filterMap read =
      (given.zipIdx number).filterMap read := by
  induction given generalizing number with
  | nil => rfl
  | cons line given ih =>
    have hline : '\n' ∉ line := hgiven line List.mem_cons_self
    cases given with
    | nil =>
      rw [List.intercalate_singleton, lines_of_not_mem hline]
      split
      · next hempty => simp [hempty, h.empty]
      · rfl
    | cons next given =>
      have hrest := ih (fun other hother => hgiven other (List.mem_cons_of_mem _ hother))
        (number + 1)
      rw [ending.intercalate_cons_cons, lines_append_feed (ending.not_mem_append_mark hline),
        List.zipIdx_cons, List.zipIdx_cons, List.filterMap_cons, List.filterMap_cons,
        h.read_mark, hrest]

variable {writes : α → String → Prop} {passes : String → Prop} {content : α → β}

/-- The items are read off a sheet, whichever way its lines are joined. -/
theorem ReadsSheet.filterMap_lines (h : ReadsSheet read writes passes content) (ending : LineEnd)
    {items : List α} {given : List String} (hsheet : Sheet writes passes items given)
    (number : Nat) :
    ((lines (ending.text.intercalate given).toList).zipIdx number).filterMap read =
      items.map content := by
  have hfeed : ∀ line ∈ given.map String.toList, '\n' ∉ line := by
    induction hsheet with
    | done => simp
    | item hline _ ih => exact List.forall_mem_cons.mpr ⟨(h.item hline).1, ih⟩
    | passed hline _ ih => exact List.forall_mem_cons.mpr ⟨(h.passed hline).1, ih⟩
  rw [String.toList_intercalate, h.ignoresReturns.filterMap_lines ending hfeed]
  clear hfeed
  induction hsheet generalizing number with
  | done => rfl
  | item hline _ ih =>
    rw [List.map_cons, List.zipIdx_cons, List.filterMap_cons_some ((h.item hline).2 number), ih,
      List.map_cons]
  | passed hline _ ih =>
    rw [List.map_cons, List.zipIdx_cons, List.filterMap_cons_none ((h.passed hline).2 number), ih]

end Reader

end PhoneticSearch.Text
