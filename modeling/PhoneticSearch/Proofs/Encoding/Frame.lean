import Mathlib.Algebra.GroupWithZero.Nat
import PhoneticSearch.Proofs.Encoding.TemplateMatches
import PhoneticSearch.Proofs.Encoding.TemplatePass

/-!
# What the template pass changes

* `Descends`: a phone that comes of another one by phones of templates, one laid over the other.
* `Cell.ChangedBy`: what templates with their wildcards on a cell change in it: each phone but the
  last one is replaced by the template on the character at its place or stays, and all phones behind
  these come of the last one.
* `Encoder.overlaid_changedBy_matchesOn`: the template pass changes each cell by the matches on it,
  and nothing else.
-/

namespace PhoneticSearch

/-- A phone comes of `base` by phones of some of the templates, from the last template to the
first. -/
inductive Descends (features : FeatureSet) (base : Phone) : List Pattern → Phone → Prop where
  | base : Descends features base [] base
  | skip {pattern : Pattern} {patterns : List Pattern} {phone : Phone} :
      Descends features base patterns phone → Descends features base (pattern :: patterns) phone
  | over {pattern : Pattern} {patterns : List Pattern} {phone laid : Phone} :
      Descends features base patterns phone → laid ∈ pattern.phones →
        Descends features base (pattern :: patterns) (features.override phone laid)

/-- Phones with the templates on the characters at their places, each over its own phone. -/
def replaced (features : FeatureSet) (on : List (Nat × Pattern)) (phones : List Phone) :
    List Phone :=
  phones.zipIdx.flatMap fun entry =>
    match on.lookup entry.2 with
    | some pattern => pattern.phones.map (features.override entry.1)
    | none => [entry.1]

/-- The templates on the characters from an offset on, from left to right. -/
def templatesFrom (on : List (Nat × Pattern)) (offset : Nat) : List Pattern :=
  (on.filter fun entry => decide (offset ≤ entry.1)).map Prod.snd

namespace Cell

/-- A cell before and after the templates on its characters. -/
structure ChangedBy (features : FeatureSet) (on : List (Nat × Pattern)) (cell after : Cell) :
    Prop where
  text_eq : after.text = cell.text
  length_le : cell.phones.length ≤ after.phones.length
  unchanged : on = [] → after.phones = cell.phones
  phones_eq : ∃ front base tail, cell.phones = front ++ [base] ∧
    after.phones = replaced features on front ++ tail ∧ tail ≠ [] ∧
      tail.length + (templatesFrom on front.length).length =
          1 + ((templatesFrom on front.length).map fun pattern => pattern.phones.length).sum ∧
        ∀ phone ∈ tail, Descends features base (templatesFrom on front.length) phone

variable (features : FeatureSet) (number : Nat)

@[simp] theorem text_overlay (offset : Nat) (phones : List Phone) (cell : Cell) :
    (cell.overlay features offset phones).text = cell.text := by
  unfold overlay
  split
  · rfl
  · dsimp only
    split <;> rfl

@[simp] theorem text_lay (overlays : List Overlay) (cell : Cell) :
    (cell.lay features overlays).text = cell.text := by
  induction overlays with
  | nil => rfl
  | cons overlay rest ih => exact (text_overlay features _ _ _).trans ih

/-! ## Templates on the last phone and behind it -/

/-- Overlays behind the phones of `front` leave these as they are. -/
theorem exists_lay_tail (late : List (Nat × Pattern)) {cell : Cell} {front : List Phone}
    {base : Phone} (hcell : cell.phones = front ++ [base])
    (hphones : ∀ entry ∈ late, entry.2.phones ≠ [])
    (hoffset : ∀ entry ∈ late, front.length ≤ entry.1) :
    ∃ tail,
      (cell.lay features (late.map (Overlay.ofTemplate number))).phones = front ++ tail ∧
        tail ≠ [] ∧ tail.length + late.length =
          1 + ((late.map Prod.snd).map fun pattern => pattern.phones.length).sum ∧
        ∀ phone ∈ tail, Descends features base (late.map Prod.snd) phone := by
  induction late with
  | nil =>
    refine ⟨[base], hcell, List.cons_ne_nil _ _, rfl, ?_⟩
    intro phone hmem
    rw [List.mem_singleton.mp hmem]
    exact .base
  | cons entry rest ih =>
    obtain ⟨tail, hlay, hne, hlength, hdescends⟩ :=
      ih (fun other hmem => hphones other (List.mem_cons_of_mem _ hmem))
        (fun other hmem => hoffset other (List.mem_cons_of_mem _ hmem))
    have hentry : entry.2.phones ≠ [] := hphones entry List.mem_cons_self
    have hbehind : front.length ≤ entry.1 := hoffset entry List.mem_cons_self
    have hpos : 0 < tail.length := List.length_pos_iff.mpr hne
    have hlt : min (entry.1 - front.length) (tail.length - 1) < tail.length := by omega
    obtain ⟨before, phone, after, htail, hindex⟩ := exists_split hlt
    have hsplit : (cell.lay features (rest.map (Overlay.ofTemplate number))).phones =
        (front ++ before) ++ phone :: after := by
      rw [hlay, htail, List.append_assoc]
    have hplace : min entry.1
        ((cell.lay features (rest.map (Overlay.ofTemplate number))).phones.length - 1) =
          (front ++ before).length := by
      rw [hlay, List.length_append, List.length_append]
      omega
    refine ⟨before ++ entry.2.phones.map (features.override phone) ++ after, ?_, ?_, ?_, ?_⟩
    · change ((cell.lay features (rest.map (Overlay.ofTemplate number))).overlay features entry.1
        entry.2.phones).phones = _
      rw [overlay_split features hentry hsplit hplace]
      simp
    · simp [hentry]
    · rw [htail] at hlength
      simp only [List.length_append, List.length_cons, List.length_map, List.map_cons,
        List.sum_cons] at hlength ⊢
      omega
    · intro other hmem
      rw [List.map_cons]
      simp only [List.mem_append, List.mem_map] at hmem
      rcases hmem with (hmem | ⟨laid, hlaid, rfl⟩) | hmem
      · exact .skip (hdescends other (by simp [htail, hmem]))
      · exact .over (hdescends phone (by simp [htail])) hlaid
      · exact .skip (hdescends other (by simp [htail, hmem]))

/-! ## Templates before the last phone -/

section Front

variable {on : List (Nat × Pattern)}

theorem filter_eq_lookup (h : on.Pairwise fun a b => a.1 < b.1) (offset : Nat) :
    on.filter (fun entry => entry.1 == offset) =
      ((on.lookup offset).map fun pattern => (offset, pattern)).toList := by
  induction on with
  | nil => rfl
  | cons entry rest ih =>
    obtain ⟨place, pattern⟩ := entry
    rw [List.pairwise_cons] at h
    rw [List.lookup_cons]
    by_cases hplace : offset = place
    · subst hplace
      have hrest : rest.filter (fun entry => entry.1 == offset) = [] := by
        rw [List.filter_eq_nil_iff]
        intro other hmem
        have := h.1 other hmem
        simp only [beq_iff_eq]
        omega
      simp [hrest]
    · have hne : (place == offset) = false := beq_eq_false_iff_ne.mpr (Ne.symm hplace)
      have hne' : (offset == place) = false := beq_eq_false_iff_ne.mpr hplace
      rw [List.filter_cons, hne, if_neg Bool.false_ne_true, ih h.2, hne']

theorem eq_filter_append_filter (h : on.Pairwise fun a b => a.1 < b.1) (offset : Nat) :
    on = on.filter (fun entry => decide (entry.1 < offset)) ++
      on.filter fun entry => decide (offset ≤ entry.1) := by
  induction on with
  | nil => rfl
  | cons entry rest ih =>
    rw [List.pairwise_cons] at h
    by_cases hentry : entry.1 < offset
    · have hle : ¬ offset ≤ entry.1 := by omega
      rw [List.filter_cons_of_pos (by simpa using hentry),
        List.filter_cons_of_neg (by simpa using hle), List.cons_append, ← ih h.2]
    · have hall : ∀ other ∈ entry :: rest, offset ≤ other.1 := by
        intro other hmem
        rcases List.mem_cons.mp hmem with rfl | hmem
        · omega
        · have := h.1 other hmem
          omega
      have hnone : (entry :: rest).filter (fun entry => decide (entry.1 < offset)) = [] := by
        rw [List.filter_eq_nil_iff]
        intro other hmem
        have := hall other hmem
        simp only [decide_eq_true_eq]
        omega
      rw [hnone, List.nil_append, List.filter_eq_self.mpr]
      intro other hmem
      exact decide_eq_true (hall other hmem)

theorem resolveFrom_of_lt {overlays : List Overlay} {count start : Nat} {phones : List Phone}
    (h : ∀ overlay ∈ overlays, overlay.target count < start) :
    resolveFrom features overlays count start phones = phones := by
  induction overlays with
  | nil => exact resolveFrom_eq_self features (by simp)
  | cons overlay rest ih =>
    rw [resolveFrom_cons_of_lt features (h overlay List.mem_cons_self)]
    exact ih fun other hmem => h other (List.mem_cons_of_mem _ hmem)

/-- A template before the last of some phones is meant for the phone at its place. -/
theorem target_ofTemplate {entry : Nat × Pattern} {count : Nat} (h : entry.1 < count) :
    (Overlay.ofTemplate number entry).target count = entry.1 := by
  change min entry.1 (count - 1) = entry.1
  omega

/-- Of the templates before an offset, those that are meant for a phone before it are those at its
place. -/
theorem filter_target_ofTemplate {offset place count : Nat} (hplace : place < offset)
    (hoffset : offset ≤ count) :
    ((on.filter fun entry => decide (entry.1 < offset)).map (Overlay.ofTemplate number)).filter
        (fun overlay => overlay.target count == place) =
      (on.filter fun entry => entry.1 == place).map (Overlay.ofTemplate number) := by
  rw [List.filter_map, List.filter_filter]
  congr 1
  apply List.filter_congr
  intro entry hentry
  by_cases hlt : entry.1 < offset
  · simp [target_ofTemplate number (Nat.lt_of_lt_of_le hlt hoffset), hlt]
  · have hne : entry.1 ≠ place := by omega
    simp [hlt, hne]

/-- With the targets given first, templates before an offset change the phones at their places. -/
theorem resolveFrom_front (hsorted : on.Pairwise fun a b => a.1 < b.1) {front : List Phone}
    {count : Nat} (hcount : front.length ≤ count) :
    resolveFrom features ((on.filter fun entry => decide (entry.1 < front.length)).map
      (Overlay.ofTemplate number)) count 0 front = replaced features on front := by
  rw [resolveFrom, replaced]
  apply List.flatMap_congr
  rintro ⟨phone, place⟩ hmem
  have hplace : place < front.length := by
    have := (List.mem_zipIdx hmem).2.1
    omega
  rw [filter_target_ofTemplate number hplace hcount, filter_eq_lookup hsorted]
  cases on.lookup place with
  | none => rfl
  | some pattern =>
    change layOver features _ [phone] = _
    rw [layOver, List.flatMap_singleton]
    rfl

/-- Overlays on the phones of `front` leave those behind it as they are. -/
theorem lay_front (hsorted : on.Pairwise fun a b => a.1 < b.1)
    (hphones : ∀ entry ∈ on, entry.2.phones ≠ []) {cell : Cell} {front tail : List Phone}
    (hcell : cell.phones = front ++ tail) (htail : tail ≠ []) :
    (cell.lay features ((on.filter fun entry => decide (entry.1 < front.length)).map
      (Overlay.ofTemplate number))).phones = replaced features on front ++ tail := by
  have hlength : front.length ≤ cell.phones.length := by simp [hcell]
  have htarget : ∀ entry ∈ on.filter (fun entry => decide (entry.1 < front.length)),
      entry.1 < front.length ∧
        (Overlay.ofTemplate number entry).target cell.phones.length = entry.1 := by
    intro entry hentry
    have hlt : entry.1 < front.length := by simpa using (List.mem_filter.mp hentry).2
    exact ⟨hlt, target_ofTemplate number (Nat.lt_of_lt_of_le hlt hlength)⟩
  rw [lay_eq_resolve features]
  · change resolveFrom features _ cell.phones.length 0 cell.phones = _
    rw [hcell, resolveFrom_append, ← hcell, resolveFrom_front features number hsorted hlength]
    congr 1
    apply resolveFrom_of_lt features
    intro overlay hmem
    obtain ⟨entry, hentry, rfl⟩ := List.mem_map.mp hmem
    obtain ⟨hlt, heq⟩ := htarget entry hentry
    omega
  · rw [hcell]
    simp [htail]
  · intro overlay hmem
    obtain ⟨entry, hentry, rfl⟩ := List.mem_map.mp hmem
    exact hphones entry (List.mem_of_mem_filter hentry)
  · rw [List.pairwise_map]
    exact hsorted.filter _
  · -- no two overlays on these phones have the same target
    rw [List.pairwise_map]
    refine (hsorted.filter _).imp_of_mem ?_
    intro a b ha hb hlt heq
    rw [(htarget a ha).2, (htarget b hb).2] at heq
    omega

theorem length_le_replaced (hphones : ∀ entry ∈ on, entry.2.phones ≠ []) (phones : List Phone) :
    phones.length ≤ (replaced features on phones).length := by
  have h : ∀ start, phones.length ≤ ((phones.zipIdx start).flatMap fun entry =>
      match on.lookup entry.2 with
      | some pattern => pattern.phones.map (features.override entry.1)
      | none => [entry.1]).length := by
    induction phones with
    | nil => exact fun _ => Nat.le_refl 0
    | cons phone rest ih =>
      intro start
      have hrest := ih (start + 1)
      rw [List.zipIdx_cons, List.flatMap_cons, List.length_append, List.length_cons]
      cases hlookup : on.lookup start with
      | none =>
        simp only [List.length_singleton]
        omega
      | some pattern =>
        obtain ⟨before, after, rfl, -⟩ := List.lookup_eq_some_iff.mp hlookup
        have hpos : 0 < pattern.phones.length :=
          List.length_pos_iff.mpr (hphones (start, pattern) (by simp))
        simp only [List.length_map]
        omega
  exact h 0

end Front

/-- Overlays from left to right on one cell change it as their templates say. -/
theorem changedBy_lay {on : List (Nat × Pattern)} (hsorted : on.Pairwise fun a b => a.1 < b.1)
    (hphones : ∀ entry ∈ on, entry.2.phones ≠ []) {cell : Cell} (hcell : cell.phones ≠ []) :
    cell.ChangedBy features on (cell.lay features (on.map (Overlay.ofTemplate number))) := by
  obtain ⟨front, base, hfront⟩ : ∃ front base, cell.phones = front ++ [base] :=
    ⟨cell.phones.dropLast, cell.phones.getLast hcell, (List.dropLast_append_getLast hcell).symm⟩
  obtain ⟨tail, hlay, hne, hlength, hdescends⟩ := exists_lay_tail features number
    (on.filter fun entry => decide (front.length ≤ entry.1)) hfront
    (fun entry hmem => hphones entry (List.mem_of_mem_filter hmem))
    (fun entry hmem => by simpa using (List.mem_filter.mp hmem).2)
  have hphones_eq : (cell.lay features (on.map (Overlay.ofTemplate number))).phones =
      replaced features on front ++ tail := by
    rw [← lay_front features number hsorted hphones hlay hne]
    nth_rewrite 1 [eq_filter_append_filter hsorted front.length]
    rw [List.map_append, lay, List.foldr_append]
    rfl
  refine ⟨text_lay features _ cell, ?_, ?_, front, base, tail, hfront, hphones_eq, hne, ?_,
    hdescends⟩
  · have hpos := List.length_pos_iff.mpr hne
    have hle := length_le_replaced features hphones front
    rw [hphones_eq, hfront, List.length_append, List.length_append, List.length_singleton]
    omega
  · rintro rfl
    rfl
  · rw [templatesFrom, List.length_map]
    exact hlength

end Cell

namespace Encoder

variable (encoder : Encoder) (cells : List Cell) (number : Nat)

/-- The matches of the templates in the texts of some cells. -/
def matchesIn : List TemplateMatch :=
  templateMatches encoder.encoding.patterns 0 (cells.flatMap Cell.text)

theorem pairwise_matchesOn :
    (matchesOn cells (encoder.matchesIn cells) number).Pairwise fun a b => a.1 < b.1 := by
  have hsorted := (encoder.pairwise_overlays cells).filter fun overlay => overlay.cell == number
  rw [filter_overlays, List.pairwise_map] at hsorted
  refine hsorted.imp ?_
  rintro a b (hlt | ⟨-, hlt⟩)
  · exact absurd hlt (Nat.lt_irrefl number)
  · exact hlt

theorem phones_ne_nil_of_mem_matchesOn {entry : Nat × Pattern}
    (h : entry ∈ matchesOn cells (encoder.matchesIn cells) number) : entry.2.phones ≠ [] := by
  have hmem : Overlay.ofTemplate number entry ∈
      (encoder.overlays cells).filter fun overlay => overlay.cell == number := by
    rw [filter_overlays]
    exact List.mem_map_of_mem h
  exact encoder.phones_ne_nil_of_mem_overlays (List.mem_of_mem_filter hmem)

/-- The template pass treats each cell by the matches on it. -/
theorem getElem?_overlaid :
    (encoder.overlaid cells)[number]? = cells[number]?.map (Cell.lay encoder.features
      ((matchesOn cells (encoder.matchesIn cells) number).map (Overlay.ofTemplate number))) := by
  rw [overlaid, Array.getElem?_toList, getElem?_foldr_apply, List.getElem?_toArray,
    filter_overlays]
  rfl

theorem map_text_overlaid : (encoder.overlaid cells).map Cell.text = cells.map Cell.text := by
  apply List.ext_getElem?
  intro number
  rw [List.getElem?_map, List.getElem?_map, getElem?_overlaid, Option.map_map]
  congr 1
  funext cell
  exact Cell.text_lay encoder.features _ cell

/-- The template pass changes each cell by the matches with their wildcards on it, and nothing else:
neither the cells and their texts nor the secondary transliteration. -/
theorem overlaid_changedBy_matchesOn (source : String) :
    let cells := encoder.cells source.toList
    (encoder.overlaid cells).map Cell.text = cells.map Cell.text ∧
      (∀ (number : Nat) (cell : Cell), cells[number]? = some cell → ∃ after,
        (encoder.overlaid cells)[number]? = some after ∧
          cell.ChangedBy encoder.features
            (matchesOn cells (encoder.matchesIn cells) number) after) ∧
      encoder.transduce source =
        { text := .ofList (cells.flatMap Cell.text)
          repr := .ofList ((encoder.segments source.toList).flatMap reprOf)
          phones := phonesOf (encoder.overlaid cells) } := by
  intro cells
  refine ⟨encoder.map_text_overlaid cells, ?_, ?_⟩
  · intro number cell hget
    refine ⟨_, by rw [getElem?_overlaid, hget]; rfl, ?_⟩
    apply Cell.changedBy_lay
    · exact encoder.pairwise_matchesOn cells number
    · exact fun entry => encoder.phones_ne_nil_of_mem_matchesOn cells number
    · exact encoder.phones_ne_nil_of_mem_cells (List.mem_of_getElem? hget)
  · have htext : (encoder.overlaid cells).flatMap Cell.text = cells.flatMap Cell.text := by
      rw [List.flatMap_def, List.flatMap_def, map_text_overlaid]
    rw [← htext]
    rfl

/-- A template with two phones, and a text of two characters with a phone each. -/
def fanningPatterns : List Pattern :=
  [.ofParts "_b" [[1, 0], [0, 1]] none none, .ofParts "x" [[0, 0], [-1, -1]] (some "ab") none]

def fanning : Encoder :=
  ofPatterns "raw" (FeatureSet.ofGroups "features" ["a", "b"] 1 (-1) none) fanningPatterns

/-- The first phone gives way to two phones, the last one stays behind them. -/
theorem overlaid_changedBy_matchesOn_fanning :
    let cells := fanning.cells "x".toList
    let cell : Cell := ⟨['a', 'b'], [[0, 0], [-1, -1]]⟩
    cells[0]? = some cell ∧
      matchesOn cells (fanning.matchesIn cells) 0 =
          [(0, .ofParts "_b" [[1, 0], [0, 1]] none none)] ∧
        ∃ after, (fanning.overlaid cells)[0]? = some after ∧
          cell.ChangedBy fanning.features [(0, .ofParts "_b" [[1, 0], [0, 1]] none none)] after := by
  intro cells cell
  have hsorted : Encoding.byLength fanningPatterns = fanningPatterns :=
    List.mergeSort_of_pairwise (by decide)
  have hsegments : fanning.segments ['x'] =
      [.covered (Rule.ofPattern (.ofParts "x" [[0, 0], [-1, -1]] (some "ab") none)) ['x']] := by
    have hchoose : Pattern.choose? fanningPatterns ['x'] =
        some (.ofParts "x" [[0, 0], [-1, -1]] (some "ab") none) := rfl
    rw [fanning, segments_covered _ _ _ hchoose]
    rw [show [].drop _ = ([] : List Char) from List.drop_nil, segments, Segment.segments]
    rfl
  have hcells : cells = [cell] := by
    simp only [cells, Encoder.cells]
    rw [show "x".toList = ['x'] from rfl, hsegments]
    rfl
  have hmatches : fanning.matchesIn cells =
      [⟨0, .ofParts "_b" [[1, 0], [0, 1]] none none⟩] := by
    have hpatterns : fanning.encoding.patterns = fanningPatterns := hsorted
    have hchoose : Pattern.chooseTemplate? fanningPatterns ['a', 'b'] =
        some (.ofParts "_b" [[1, 0], [0, 1]] none none) := rfl
    rw [matchesIn, hpatterns, hcells]
    change templateMatches fanningPatterns 0 ['a', 'b'] = _
    rw [templateMatches, hchoose]
    simp only
    rw [show ['b'].drop _ = ([] : List Char) from rfl, templateMatches]
    rfl
  have hon : matchesOn cells (fanning.matchesIn cells) 0 =
      [(0, .ofParts "_b" [[1, 0], [0, 1]] none none)] := by
    rw [hmatches, hcells]
    rfl
  have hcell : cells[0]? = some cell := by
    rw [hcells]
    rfl
  have hchanged := (overlaid_changedBy_matchesOn fanning "x").2.1 0 cell hcell
  rw [hon] at hchanged
  exact ⟨hcell, hon, hchanged⟩

end Encoder
end PhoneticSearch
