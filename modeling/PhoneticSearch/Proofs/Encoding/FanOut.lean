import PhoneticSearch.Proofs.Encoding.Overlays

/-!
# Overlays that fan out

* `Cell.resolve`: the reading of overlays that looks for all their phones before the first of them
  is applied, so that each reaches all phones that come of its phone.
* `Cell.lay_eq_resolve`: from right to left, one after the other, overlays do the same if none of
  those that share a phone fans out before the last of them.
-/

namespace PhoneticSearch

namespace Overlay

/-- The phone that an overlay is meant for, of `count` phones. -/
def target (count : Nat) (overlay : Overlay) : Nat := min overlay.offset (count - 1)

end Overlay

variable (features : FeatureSet)

/-- One overlay over each of some phones. -/
def layOver (overlay : Overlay) (phones : List Phone) : List Phone :=
  phones.flatMap fun base => overlay.phones.map (features.override base)

/-- The phones that come of one phone by overlays from right to left, each over all that the ones
before it gave. -/
def descendants (overlays : List Overlay) (phone : Phone) : List Phone :=
  overlays.foldr (layOver features) [phone]

namespace Cell

/-- A cell after the overlays on it, from right to left. -/
def lay (overlays : List Overlay) (cell : Cell) : Cell :=
  overlays.foldr (fun overlay => Cell.overlay features overlay.offset overlay.phones) cell

/-- The phones from `start` on with the overlays that are meant for them. -/
def resolveFrom (overlays : List Overlay) (count start : Nat) (phones : List Phone) : List Phone :=
  (phones.zipIdx start).flatMap fun entry =>
    descendants features (overlays.filter fun overlay => overlay.target count == entry.2) entry.1

/-- A cell whose overlays have been given their phones first. -/
def resolve (overlays : List Overlay) (cell : Cell) : Cell :=
  { cell with phones := resolveFrom features overlays cell.phones.length 0 cell.phones }

/-! ## One overlay -/

theorem overlay_split {offset : Nat} {phones : List Phone} (hphones : phones ≠ []) {cell : Cell}
    {before : List Phone} {base : Phone} {after : List Phone}
    (hcell : cell.phones = before ++ base :: after)
    (hindex : min offset (cell.phones.length - 1) = before.length) :
    cell.overlay features offset phones =
      { cell with phones := before ++ phones.map (features.override base) ++ after } := by
  have hempty : phones.isEmpty = false := by simpa using hphones
  have hget : cell.phones[before.length]? = some base := by simp [hcell]
  have htake : cell.phones.take before.length = before := by simp [hcell]
  have hdrop : cell.phones.drop (before.length + 1) = after := by simp [hcell]
  rw [overlay, hempty, if_neg Bool.false_ne_true]
  simp only [hindex, hget, htake, hdrop]

theorem exists_split {phones : List Phone} {index : Nat} (h : index < phones.length) :
    ∃ before base after, phones = before ++ base :: after ∧ index = before.length := by
  refine ⟨phones.take index, phones[index], phones.drop (index + 1), ?_, ?_⟩
  · rw [← List.drop_eq_getElem_cons h, List.take_append_drop]
  · rw [List.length_take_of_le h.le]

/-! ## Phones that no overlay is meant for -/

section ResolveFrom

variable (overlays : List Overlay) (count start : Nat)

theorem resolveFrom_append (phones more : List Phone) :
    resolveFrom features overlays count start (phones ++ more) =
      resolveFrom features overlays count start phones ++
        resolveFrom features overlays count (start + phones.length) more := by
  rw [resolveFrom, List.zipIdx_append, List.flatMap_append]
  rfl

theorem resolveFrom_cons (phone : Phone) (phones : List Phone) :
    resolveFrom features overlays count start (phone :: phones) =
      descendants features (overlays.filter fun overlay => overlay.target count == start) phone ++
        resolveFrom features overlays count (start + 1) phones := rfl

variable {overlays count start}

theorem resolveFrom_eq_self {phones : List Phone}
    (h : ∀ overlay ∈ overlays, start + phones.length ≤ overlay.target count) :
    resolveFrom features overlays count start phones = phones := by
  induction phones generalizing start with
  | nil => rfl
  | cons phone rest ih =>
    have hnone : (overlays.filter fun overlay => overlay.target count == start) = [] := by
      rw [List.filter_eq_nil_iff]
      intro overlay hmem
      have := h overlay hmem
      rw [List.length_cons] at this
      simp only [beq_iff_eq]
      omega
    rw [resolveFrom_cons, hnone, ih]
    · rfl
    · intro overlay hmem
      have := h overlay hmem
      rw [List.length_cons] at this
      omega

theorem resolveFrom_cons_of_lt {overlay : Overlay} (h : overlay.target count < start)
    (phones : List Phone) :
    resolveFrom features (overlay :: overlays) count start phones =
      resolveFrom features overlays count start phones := by
  induction phones generalizing start with
  | nil => rfl
  | cons phone rest ih =>
    have hne : (overlay.target count == start) = false := by
      rw [beq_eq_false_iff_ne]
      omega
    rw [resolveFrom_cons, resolveFrom_cons, List.filter_cons, hne, ih (Nat.lt_succ_of_lt h)]
    rfl

theorem resolveFrom_split {phones before : List Phone} {base : Phone} {after : List Phone}
    (hsplit : phones = before ++ base :: after)
    (h : ∀ overlay ∈ overlays, before.length ≤ overlay.target count) :
    resolveFrom features overlays count 0 phones =
      before ++
        (descendants features
            (overlays.filter fun overlay => overlay.target count == before.length) base ++
          resolveFrom features overlays count (before.length + 1) after) := by
  rw [hsplit, resolveFrom_append, Nat.zero_add, resolveFrom_cons, resolveFrom_eq_self]
  intro overlay hmem
  rw [Nat.zero_add]
  exact h overlay hmem

end ResolveFrom

/-! ## Overlays without a clash -/

theorem exists_descendants_eq_singleton (overlays : List Overlay)
    (h : ∀ overlay ∈ overlays, overlay.phones.length = 1) (phone : Phone) :
    ∃ base, descendants features overlays phone = [base] := by
  induction overlays with
  | nil => exact ⟨phone, rfl⟩
  | cons overlay rest ih =>
    obtain ⟨base, hbase⟩ := ih fun other hmem => h other (List.mem_cons_of_mem _ hmem)
    obtain ⟨only, honly⟩ := List.length_eq_one_iff.mp (h overlay List.mem_cons_self)
    refine ⟨features.override base only, ?_⟩
    change layOver features overlay (descendants features rest phone) = _
    rw [hbase, layOver, honly]
    rfl

/-- An overlay on a phone that those behind it have left as one phone. -/
theorem descendants_cons {overlays : List Overlay} {overlay : Overlay} {count index : Nat}
    (h : index = overlay.target count) {phone base : Phone}
    (hbase : descendants features (overlays.filter fun other => other.target count == index) phone =
      [base]) :
    descendants features ((overlay :: overlays).filter fun other => other.target count == index)
        phone = overlay.phones.map (features.override base) := by
  rw [List.filter_cons_of_pos (by simp [h])]
  change layOver features overlay (descendants features _ phone) = _
  rw [hbase, layOver, List.flatMap_singleton]

/-- Phones added behind one phone do not shift the index that is meant for it. -/
theorem index_eq_of_append {offset : Nat} {before after more : List Phone} {base only : Phone}
    (h : min offset ((before ++ base :: after).length - 1) = before.length)
    (hmore : after = [] → more = []) :
    min offset ((before ++ only :: more).length - 1) = before.length := by
  simp only [List.length_append, List.length_cons] at h ⊢
  cases after with
  | nil =>
    rw [hmore rfl]
    exact h
  | cons next after =>
    rw [List.length_cons] at h
    omega

/-- One more overlay, to the left of the others, which have left one phone where it goes. -/
theorem overlay_resolve {overlays : List Overlay} {overlay : Overlay} {cell : Cell}
    (hcell : cell.phones ≠ []) (hphones : overlay.phones ≠ [])
    (hsorted : ∀ other ∈ overlays, overlay.offset < other.offset)
    (hsingle : ∀ other ∈ overlays, overlay.target cell.phones.length =
      other.target cell.phones.length → other.phones.length = 1) :
    (cell.resolve features overlays).overlay features overlay.offset overlay.phones =
      cell.resolve features (overlay :: overlays) := by
  have hpos : 0 < cell.phones.length := List.length_pos_iff.mpr hcell
  have htarget : overlay.target cell.phones.length < cell.phones.length := by
    rw [Overlay.target]
    omega
  obtain ⟨before, base, after, hsplit, hlength⟩ := exists_split htarget
  have hrest : ∀ other ∈ overlays, before.length ≤ other.target cell.phones.length := by
    intro other hmem
    have := hsorted other hmem
    rw [← hlength, Overlay.target, Overlay.target]
    omega
  have hall : ∀ other ∈ overlay :: overlays, before.length ≤ other.target cell.phones.length := by
    intro other hmem
    rcases List.mem_cons.mp hmem with rfl | hmem
    · exact hlength.ge
    · exact hrest other hmem
  obtain ⟨only, honly⟩ := exists_descendants_eq_singleton features
    (overlays.filter fun other => other.target cell.phones.length == before.length)
    (fun other hmem => by
      rw [List.mem_filter, beq_iff_eq] at hmem
      exact hsingle other hmem.1 (hlength.trans hmem.2.symm)) base
  have hlaid := resolveFrom_split features hsplit hrest
  rw [honly, List.singleton_append] at hlaid
  have hresolved := resolveFrom_split features hsplit hall
  rw [descendants_cons features hlength.symm honly,
    resolveFrom_cons_of_lt features (by omega) after] at hresolved
  rw [overlay_split features hphones hlaid, resolve, resolve, hresolved, List.append_assoc]
  change min overlay.offset ((resolveFrom features overlays _ 0 cell.phones).length - 1) = _
  rw [hlaid]
  rw [hsplit, Overlay.target] at hlength
  apply index_eq_of_append hlength
  rintro rfl
  rfl

/-- Overlays on one cell from left to right, where none but the leftmost one on a phone fans out:
applied from right to left they reach the phones they are meant for. -/
theorem lay_eq_resolve {overlays : List Overlay} {cell : Cell} (hcell : cell.phones ≠ [])
    (hphones : ∀ overlay ∈ overlays, overlay.phones ≠ [])
    (hsorted : overlays.Pairwise fun left right => left.offset < right.offset)
    (hapart : overlays.Pairwise fun left right =>
      left.target cell.phones.length = right.target cell.phones.length →
        right.phones.length ≤ 1) :
    cell.lay features overlays = cell.resolve features overlays := by
  induction overlays with
  | nil =>
    have hself : resolveFrom features [] cell.phones.length 0 cell.phones = cell.phones :=
      resolveFrom_eq_self features (by simp)
    rw [resolve, hself]
    rfl
  | cons overlay rest ih =>
    rw [List.pairwise_cons] at hsorted hapart
    have hlay : cell.lay features rest = cell.resolve features rest :=
      ih (fun other hmem => hphones other (List.mem_cons_of_mem _ hmem)) hsorted.2 hapart.2
    change (cell.lay features rest).overlay features overlay.offset overlay.phones = _
    rw [hlay]
    apply overlay_resolve features hcell (hphones overlay List.mem_cons_self) hsorted.1
    intro other hmem heq
    have hle := hapart.1 other hmem heq
    have hpos := List.length_pos_iff.mpr (hphones other (List.mem_cons_of_mem _ hmem))
    omega

end Cell
end PhoneticSearch
