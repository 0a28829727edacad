import Mathlib.Data.List.Sort

/-!
# Stable sorting by a key

* `sortBy`: a merge sort in the ascending order of a key.
* `filter_sortBy`: items at one key stay in order; `eq_of_pairwise_of_filter`: this and the order of
  the keys determine the list.
* `sortBy_concat`: one more item goes behind all items that are not greater.
* `take_sortBy_concat`, `take_sortBy_concat_of_le`: the first few of a sorted list with one more
  item depend on its first few only.
-/

namespace PhoneticSearch

variable {α κ : Type} [LinearOrder κ] (key : α → κ)

def sortBy (items : List α) : List α := items.mergeSort fun a b => decide (key a ≤ key b)

theorem perm_sortBy (items : List α) : (sortBy key items).Perm items := List.mergeSort_perm _ _

theorem pairwise_sortBy (items : List α) :
    (sortBy key items).Pairwise fun a b => key a ≤ key b := by
  have h : (sortBy key items).Pairwise fun a b => decide (key a ≤ key b) = true := by
    apply List.pairwise_mergeSort
    · intro a b c hab hbc
      simp only [decide_eq_true_eq] at hab hbc ⊢
      exact hab.trans hbc
    · intro a b
      simpa using le_total (key a) (key b)
  exact h.imp fun h => of_decide_eq_true h

theorem sortBy_of_pairwise {items : List α} (h : items.Pairwise fun a b => key a ≤ key b) :
    sortBy key items = items :=
  List.mergeSort_of_pairwise (h.imp fun h => decide_eq_true h)

/-- A stable sort keeps the order of items that may stand in their order. -/
theorem filter_mergeSort {le : α → α → Bool} (trans : ∀ a b c, le a b → le b c → le a c)
    (total : ∀ a b, le a b || le b a) {p : α → Bool} (hp : ∀ a b, p a → p b → le a b)
    (items : List α) : (items.mergeSort le).filter p = items.filter p := by
  have hsorted : (items.filter p).Pairwise fun a b => le a b := by
    rw [List.pairwise_filter]
    exact List.pairwise_of_forall fun a b ha hb => hp a b ha hb
  have hsub : (items.filter p).Sublist (items.mergeSort le) :=
    List.sublist_mergeSort trans total hsorted List.filter_sublist
  have hperm : ((items.mergeSort le).filter p).Perm (items.filter p) :=
    (List.mergeSort_perm items le).filter p
  have hsub' := hsub.filter p
  rw [List.filter_filter] at hsub'
  simp only [Bool.and_self] at hsub'
  exact (hsub'.eq_of_length hperm.length_eq.symm).symm

theorem filter_sortBy (k : κ) (items : List α) :
    (sortBy key items).filter (fun a => decide (key a = k)) =
      items.filter fun a => decide (key a = k) := by
  apply filter_mergeSort
  · intro a b c hab hbc
    simp only [decide_eq_true_eq] at hab hbc ⊢
    exact hab.trans hbc
  · intro a b
    simpa using le_total (key a) (key b)
  · intro a b ha hb
    simp only [decide_eq_true_eq] at ha hb ⊢
    exact (ha.trans hb.symm).le

section FilterEq

variable {key} {l₁ l₂ : List α}

theorem mem_iff_of_filter
    (h : ∀ k, l₁.filter (fun a => decide (key a = k)) = l₂.filter fun a => decide (key a = k))
    (a : α) : a ∈ l₁ ↔ a ∈ l₂ := by
  have := congrArg (a ∈ ·) (h (key a))
  simpa using this

theorem filter_of_cons {x : α}
    (h : ∀ k, (x :: l₁).filter (fun a => decide (key a = k)) =
      (x :: l₂).filter fun a => decide (key a = k)) (k : κ) :
    l₁.filter (fun a => decide (key a = k)) = l₂.filter fun a => decide (key a = k) := by
  have hcons := h k
  by_cases hk : key x = k
  · rw [List.filter_cons_of_pos (by simpa using hk),
      List.filter_cons_of_pos (by simpa using hk)] at hcons
    exact (List.cons.inj hcons).2
  · rwa [List.filter_cons_of_neg (by simpa using hk),
      List.filter_cons_of_neg (by simpa using hk)] at hcons

/-- A sorted list is determined by its items at each key. -/
theorem eq_of_pairwise_of_filter (h₁ : l₁.Pairwise fun a b => key a ≤ key b)
    (h₂ : l₂.Pairwise fun a b => key a ≤ key b)
    (h : ∀ k, l₁.filter (fun a => decide (key a = k)) = l₂.filter fun a => decide (key a = k)) :
    l₁ = l₂ := by
  have hmem := mem_iff_of_filter h
  induction l₁ generalizing l₂ with
  | nil =>
    cases l₂ with
    | nil => rfl
    | cons y ys => exact absurd ((hmem y).mpr (by simp)) (by simp)
  | cons x xs ih =>
    cases l₂ with
    | nil => exact absurd ((hmem x).mp (by simp)) (by simp)
    | cons y ys =>
      rw [List.pairwise_cons] at h₁ h₂
      have hxy : key x ≤ key y := by
        rcases List.mem_cons.mp ((hmem y).mpr (by simp)) with rfl | hy
        · exact le_rfl
        · exact h₁.1 y hy
      have hyx : key y ≤ key x := by
        rcases List.mem_cons.mp ((hmem x).mp (by simp)) with rfl | hx
        · exact le_rfl
        · exact h₂.1 x hx
      have hkey : key x = key y := le_antisymm hxy hyx
      have hhead := h (key y)
      rw [List.filter_cons_of_pos (by simpa using hkey), List.filter_cons_of_pos (by simp)] at hhead
      obtain rfl : x = y := (List.cons.inj hhead).1
      have htail := filter_of_cons h
      rw [ih h₁.2 h₂.2 htail (mem_iff_of_filter htail)]

end FilterEq

/-! ## One more item -/

/-- An item put behind all items that are not greater. -/
def insertBehind (item : α) (items : List α) : List α :=
  items.orderedInsert (fun a b => key a < key b) item

theorem pairwise_insertBehind (item : α) {items : List α}
    (h : items.Pairwise fun a b => key a ≤ key b) :
    (insertBehind key item items).Pairwise fun a b => key a ≤ key b := by
  unfold insertBehind
  induction items with
  | nil => simp
  | cons a rest ih =>
    rw [List.pairwise_cons] at h
    rw [List.orderedInsert_cons]
    split
    · next hlt =>
      refine List.pairwise_cons.mpr ⟨fun b hb => ?_, List.pairwise_cons.mpr h⟩
      rcases List.mem_cons.mp hb with rfl | hb
      · exact hlt.le
      · exact hlt.le.trans (h.1 b hb)
    · next hge =>
      refine List.pairwise_cons.mpr ⟨fun b hb => ?_, ih h.2⟩
      rcases (List.mem_orderedInsert _).mp hb with rfl | hb
      · exact not_lt.mp hge
      · exact h.1 b hb

theorem filter_insertBehind (item : α) {items : List α}
    (h : items.Pairwise fun a b => key a ≤ key b) (k : κ) :
    (insertBehind key item items).filter (fun a => decide (key a = k)) =
      (items ++ [item]).filter fun a => decide (key a = k) := by
  unfold insertBehind
  induction items with
  | nil => simp
  | cons a rest ih =>
    rw [List.pairwise_cons] at h
    rw [List.orderedInsert_cons]
    split
    · next hlt =>
      by_cases hk : key item = k
      · -- all items from `a` on are greater than the new one
        have hnone : (a :: rest).filter (fun b => decide (key b = k)) = [] := by
          rw [List.filter_eq_nil_iff]
          intro b hb
          have hb' : key item < key b := by
            rcases List.mem_cons.mp hb with rfl | hb
            · exact hlt
            · exact hlt.trans_le (h.1 b hb)
          simpa [← hk] using hb'.ne'
        rw [List.filter_cons_of_pos (by simpa using hk), List.filter_append, hnone,
          List.filter_cons_of_pos (by simpa using hk)]
        rfl
      · rw [List.filter_cons_of_neg (by simpa using hk), List.filter_append,
          List.filter_cons_of_neg (l := []) (by simpa using hk), List.filter_nil, List.append_nil]
    · rw [List.cons_append, List.filter_cons, List.filter_cons, ih h.2]

theorem sortBy_concat (items : List α) (item : α) :
    sortBy key (items ++ [item]) = insertBehind key item (sortBy key items) := by
  apply eq_of_pairwise_of_filter (pairwise_sortBy key _)
    (pairwise_insertBehind key item (pairwise_sortBy key items))
  intro k
  rw [filter_sortBy, filter_insertBehind key item (pairwise_sortBy key items), List.filter_append,
    List.filter_append, filter_sortBy]

/-- What is cut off behind the first `n` items does not matter to those of a longer list. -/
theorem take_insertBehind (item : α) (items : List α) (n : Nat) :
    (insertBehind key item (items.take n)).take n = (insertBehind key item items).take n := by
  unfold insertBehind
  induction items generalizing n with
  | nil => simp
  | cons a rest ih =>
    cases n with
    | zero => simp
    | succ n =>
      rw [List.take_succ_cons, List.orderedInsert_cons, List.orderedInsert_cons]
      split
      · have hrest : a :: rest.take n = (a :: rest).take (n + 1) := rfl
        rw [hrest, List.take_succ_cons, List.take_take, Nat.min_eq_left (Nat.le_succ n),
          List.take_succ_cons]
      · rw [List.take_succ_cons, List.take_succ_cons, ih]

/-- The first few of the items so far are enough to find those with one more item. -/
theorem take_sortBy_concat (items : List α) (item : α) (n : Nat) :
    (sortBy key ((sortBy key items).take n ++ [item])).take n =
      (sortBy key (items ++ [item])).take n := by
  have htake : ((sortBy key items).take n).Pairwise fun a b => key a ≤ key b :=
    (pairwise_sortBy key items).sublist (List.take_sublist _ _)
  rw [sortBy_concat, sortBy_concat, sortBy_of_pairwise key htake, take_insertBehind]

theorem insertBehind_of_le {item : α} {items : List α} (h : ∀ a ∈ items, key a ≤ key item) :
    insertBehind key item items = items ++ [item] := by
  unfold insertBehind
  induction items with
  | nil => rfl
  | cons a rest ih =>
    rw [List.orderedInsert_cons, if_neg (not_lt.mpr (h a (by simp))),
      ih fun b hb => h b (by simp [hb]), List.cons_append]

/-- An item that is not less than the last of enough items is not one of the first few. -/
theorem take_sortBy_concat_of_le {items : List α} {item : α} {n : Nat} (hlen : n ≤ items.length)
    (h : ∀ a ∈ (sortBy key items).take n, key a ≤ key item) :
    (sortBy key (items ++ [item])).take n = (sortBy key items).take n := by
  have hlen' : ((sortBy key items).take n).length = n := by
    rw [List.length_take, (perm_sortBy key items).length_eq, Nat.min_eq_left hlen]
  rw [sortBy_concat, ← take_insertBehind, insertBehind_of_le key h,
    List.take_left' hlen']

end PhoneticSearch
