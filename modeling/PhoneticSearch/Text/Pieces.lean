import PhoneticSearch.Text.Blank

/-!
# Cutting texts

* `pieces`: a text cut at every separator, the empty pieces kept.
* `runs`: the maximal non-empty runs between separators; `words` are those between blanks.
* `lines`: the lines of a text, each ended by a line feed or by a carriage return and a line feed.

A separator cuts a text in two whose pieces and runs are those of the whole
(`pieces_append_cons`, `runs_append_cons`).
-/

namespace PhoneticSearch.Text

def consPiece (isSeparator : Char → Bool) (c : Char) (rest : List (List Char)) : List (List Char) :=
  if isSeparator c then [] :: rest
  else
    match rest with
    | [] => [[c]]
    | piece :: others => (c :: piece) :: others

/-- The text cut at every separator; one piece more than there are separators. -/
def pieces (isSeparator : Char → Bool) (text : List Char) : List (List Char) :=
  text.foldr (consPiece isSeparator) [[]]

/-- The maximal non-empty stretches without a separator. -/
def runs (isSeparator : Char → Bool) (text : List Char) : List (List Char) :=
  (pieces isSeparator text).filter fun piece => !piece.isEmpty

def words (text : List Char) : List (List Char) := runs isBlank text

/-- A line without the carriage return before its line feed. -/
def dropReturn (line : List Char) : List Char :=
  match line.reverse with
  | '\r' :: rest => rest.reverse
  | _ => line

/-- The lines of a text. A last line without a line feed counts if it is not empty, and keeps a
carriage return at its end. -/
def lines (text : List Char) : List (List Char) :=
  let cut := pieces (· == '\n') text
  cut.dropLast.map dropReturn ++ (cut.getLast?.filter fun line => !line.isEmpty).toList

@[simp]
theorem pieces_nil (isSeparator : Char → Bool) : pieces isSeparator [] = [[]] := rfl

@[simp]
theorem pieces_cons (isSeparator : Char → Bool) (c : Char) (text : List Char) :
    pieces isSeparator (c :: text) = consPiece isSeparator c (pieces isSeparator text) := rfl

theorem pieces_ne_nil (isSeparator : Char → Bool) (text : List Char) :
    pieces isSeparator text ≠ [] := by
  cases text with
  | nil => simp
  | cons c rest =>
    simp only [pieces_cons, consPiece]
    split
    · simp
    · split <;> simp

/-- A separator ends one piece and begins the next. -/
theorem pieces_append_cons {isSeparator : Char → Bool} {c : Char} (h : isSeparator c = true)
    (before rest : List Char) :
    pieces isSeparator (before ++ c :: rest) =
      pieces isSeparator before ++ pieces isSeparator rest := by
  induction before with
  | nil => simp [consPiece, h]
  | cons d before ih =>
    simp only [List.cons_append, pieces_cons, ih, consPiece]
    split
    · rfl
    · cases hp : pieces isSeparator before with
      | nil => exact absurd hp (pieces_ne_nil isSeparator before)
      | cons piece others => rfl

theorem not_isSeparator_of_mem_pieces {isSeparator : Char → Bool} {text piece : List Char}
    (h : piece ∈ pieces isSeparator text) : ∀ c ∈ piece, isSeparator c = false := by
  induction text generalizing piece with
  | nil => simp_all
  | cons d text ih =>
    simp only [pieces_cons, consPiece] at h
    split at h
    · rcases List.mem_cons.1 h with rfl | h
      · simp
      · exact ih h
    · rename_i hd
      cases hp : pieces isSeparator text with
      | nil => exact absurd hp (pieces_ne_nil isSeparator text)
      | cons first others =>
        rw [hp] at h
        rcases List.mem_cons.1 h with rfl | h
        · intro c hc
          rcases List.mem_cons.1 hc with rfl | hc
          · simpa using hd
          · exact ih (hp ▸ List.mem_cons_self) c hc
        · exact ih (hp ▸ List.mem_cons_of_mem _ h)

theorem runs_append_cons {isSeparator : Char → Bool} {c : Char} (h : isSeparator c = true)
    (before rest : List Char) :
    runs isSeparator (before ++ c :: rest) = runs isSeparator before ++ runs isSeparator rest := by
  rw [runs, pieces_append_cons h, List.filter_append, ← runs, ← runs]

theorem ne_nil_of_mem_runs {isSeparator : Char → Bool} {text run : List Char}
    (h : run ∈ runs isSeparator text) : run ≠ [] := by
  simpa using (List.mem_filter.1 h).2

end PhoneticSearch.Text
