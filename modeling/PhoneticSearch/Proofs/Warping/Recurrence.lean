import PhoneticSearch.Proofs.Warping.SequenceDistance

/-!
# Distances by last elements

The distance of two sequences in terms of those of what lies before their last elements, so that
statements about distances need neither rows nor tables.

* `distance_nil_left`, `distance_nil_right`, `distance_concat`: the equations.
* `concat_induction`, `pairs_induction`: the induction that goes with them.
* `distance_congr`: only the costs of elements against elements of the other sequence matter.
* `distance_toFloat`, `sequenceDistance_toFloat`: a distance over numbers from zero on is the one over
  magnitudes.
-/

namespace PhoneticSearch
namespace Warping

variable {κ α β : Type}

/-- A place of the table depends only on the elements before it. -/
theorem table_congr (costs : Costs κ) {element element' : Nat → Nat → κ} (rows columns : Nat)
    {i j : Nat} (h : ∀ a < i, ∀ b < j, element a b = element' a b) :
    table costs element rows columns i j = table costs element' rows columns i j := by
  induction i generalizing j with
  | zero => rw [table_zero, table_zero]
  | succ i ihi =>
    induction j with
    | zero => rw [table_left, table_left]
    | succ j ihj =>
      have habove : ∀ a < i, ∀ b < j + 1, element a b = element' a b :=
        fun a ha => h a (by omega)
      have hleft : ∀ a < i + 1, ∀ b < j, element a b = element' a b :=
        fun a ha b hb => h a ha b (by omega)
      have hbefore : ∀ a < i, ∀ b < j, element a b = element' a b :=
        fun a ha b hb => h a (by omega) b (by omega)
      rw [table_succ, table_succ, h i (Nat.lt_succ_self i) j (Nat.lt_succ_self j), ihi habove,
        ihj hleft, ihi hbefore]

section Equations

variable (costs : Costs κ) (cost : α → β → κ) (rows columns : Nat)

@[simp] theorem distance_nil_left (t : List β) :
    distance costs cost rows columns [] t = border costs columns t.length := by
  rw [distance_eq_table, List.length_nil, table_zero]

@[simp] theorem distance_nil_right (s : List α) :
    distance costs cost rows columns s [] = border costs rows s.length := by
  rw [distance_eq_table, List.length_nil]
  cases s with
  | nil => simp [border]
  | cons x xs => rw [List.length_cons, table_left]

theorem elementCost_append (s : List α) (s' : List α) (t t' : List β) {i j : Nat}
    (hi : i < s.length) (hj : j < t.length) :
    elementCost costs cost (s ++ s') (t ++ t') i j = elementCost costs cost s t i j := by
  rw [elementCost, elementCost, List.getElem?_append_left hi, List.getElem?_append_left hj]

/-- The table of longer sequences begins with that of what they begin with. -/
theorem table_append (s s' : List α) (t t' : List β) :
    table costs (elementCost costs cost (s ++ s') (t ++ t')) rows columns s.length t.length =
      distance costs cost rows columns s t := by
  rw [distance_eq_table]
  exact table_congr costs rows columns fun i hi j hj => elementCost_append costs cost s s' t t' hi hj

theorem distance_concat (s : List α) (x : α) (t : List β) (y : β) :
    distance costs cost rows columns (s ++ [x]) (t ++ [y]) =
      cell costs (cost x y) (distance costs cost rows columns s (t ++ [y]))
        (distance costs cost rows columns (s ++ [x]) t)
        (distance costs cost rows columns s t) := by
  have habove := table_append costs cost rows columns s [x] (t ++ [y]) []
  have hleft := table_append costs cost rows columns (s ++ [x]) [] t [y]
  have hbefore := table_append costs cost rows columns s [x] t [y]
  have hlast : elementCost costs cost (s ++ [x]) (t ++ [y]) s.length t.length = cost x y :=
    elementCost_eq List.getElem?_concat_length List.getElem?_concat_length
  rw [List.append_nil, List.length_append, List.length_singleton] at habove hleft
  rw [distance_eq_table, List.length_append, List.length_append, List.length_singleton,
    List.length_singleton, table_succ, hlast, habove, hleft, hbefore]

end Equations

/-- Induction on two sequences at once, from their ends. -/
@[elab_as_elim]
theorem concat_induction {motive : List α → List β → Prop} (nil_left : ∀ t, motive [] t)
    (nil_right : ∀ s, motive s [])
    (concat : ∀ s x t y, motive s (t ++ [y]) → motive (s ++ [x]) t → motive s t →
      motive (s ++ [x]) (t ++ [y]))
    (s : List α) (t : List β) : motive s t := by
  induction s using List.reverseRecOn generalizing t with
  | nil => exact nil_left t
  | append_singleton s x ihs =>
    induction t using List.reverseRecOn with
    | nil => exact nil_right (s ++ [x])
    | append_singleton t y iht => exact concat s x t y (ihs (t ++ [y])) iht (ihs t)

/-- The same with what holds of each element of the one and each of the other one, for the last
two. -/
@[elab_as_elim]
theorem pairs_induction {p : α → β → Prop} {motive : List α → List β → Prop}
    (nil_left : ∀ t, motive [] t) (nil_right : ∀ s, motive s [])
    (concat : ∀ s x t y, p x y → motive s (t ++ [y]) → motive (s ++ [x]) t → motive s t →
      motive (s ++ [x]) (t ++ [y]))
    (s : List α) (t : List β) (pairs : ∀ x ∈ s, ∀ y ∈ t, p x y) : motive s t := by
  induction s, t using concat_induction with
  | nil_left t => exact nil_left t
  | nil_right s => exact nil_right s
  | concat s x t y above left before =>
    have hs : ∀ x' ∈ s, ∀ y' ∈ t ++ [y], p x' y' := fun x' hx' => pairs x' (List.mem_append_left _ hx')
    have ht : ∀ x' ∈ s ++ [x], ∀ y ∈ t, p x' y :=
      fun x' hx' y' hy' => pairs x' hx' y' (List.mem_append_left _ hy')
    have hst : ∀ x ∈ s, ∀ y ∈ t, p x y := fun x' hx' => ht x' (List.mem_append_left _ hx')
    exact concat s x t y (pairs x List.mem_concat_self y List.mem_concat_self) (above hs) (left ht)
      (before hst)

theorem distance_congr (costs : Costs κ) {cost cost' : α → β → κ} {s : List α} {t : List β}
    (rows columns : Nat) (h : ∀ x ∈ s, ∀ y ∈ t, cost x y = cost' x y) :
    distance costs cost rows columns s t = distance costs cost' rows columns s t := by
  refine pairs_induction ?nil_left ?nil_right ?concat s t h
  case nil_left =>
    intro t
    rw [distance_nil_left, distance_nil_left]
  case nil_right =>
    intro s
    rw [distance_nil_right, distance_nil_right]
  case concat =>
    intro s x t y hxy above left before
    rw [distance_concat, distance_concat, hxy, above, left, before]

theorem distance_toFloat {cost : α → β → Float} {s : List α} {t : List β} (rows columns : Nat)
    (h : ∀ x ∈ s, ∀ y ∈ t, 0 ≤ cost x y ∨ (cost x y).isNaN = true) :
    distance floatCosts cost rows columns s t =
      (distance magnitudeCosts (fun x y => Magnitude.ofFloat (cost x y)) rows columns s
        t).toFloat := by
  refine pairs_induction ?nil_left ?nil_right ?concat s t h
  case nil_left =>
    intro t
    rw [distance_nil_left, distance_nil_left, border_toFloat]
  case nil_right =>
    intro s
    rw [distance_nil_right, distance_nil_right, border_toFloat]
  case concat =>
    intro s x t y hxy above left before
    rw [distance_concat, distance_concat, above, left, before, cell_toFloat hxy]

end Warping

theorem sequenceDistance_toFloat {α β : Type} {s : List α} {t : List β} {distance : α → β → Float}
    (h : ∀ x ∈ s, ∀ y ∈ t, 0 ≤ distance x y ∨ (distance x y).isNaN = true) (tolerance : Float) :
    sequenceDistance s t distance tolerance =
      (Warping.distance Warping.magnitudeCosts (fun x y => Magnitude.ofFloat (distance x y))
        (bandWidth tolerance s.length) (bandWidth tolerance t.length) s t).toFloat :=
  Warping.distance_toFloat _ _ h

theorem sequenceDistance_toFloat_of_nonneg {α β : Type} {s : List α} {t : List β}
    {distance : α → β → Float} (h : ∀ x ∈ s, ∀ y ∈ t, 0 ≤ distance x y) (tolerance : Float) :
    sequenceDistance s t distance tolerance =
      (Warping.distance Warping.magnitudeCosts (fun x y => Magnitude.ofFloat (distance x y))
        (bandWidth tolerance s.length) (bandWidth tolerance t.length) s t).toFloat :=
  sequenceDistance_toFloat (fun x hx y hy => .inl (h x hx y hy)) tolerance

end PhoneticSearch
