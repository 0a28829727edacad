import PhoneticSearch.Proofs.Warping.Recurrence

/-!
# Stretched sequences

A sequence is stretched by repeating each of its elements in place, as often as its weight says.

* `distance_le_distance_stretch`: without a free start to it a stretched sequence is never nearer to
  another one.
* `exactCosts`: costs that are not rounded.
* `distance_stretch_le`: in exact numbers it is farther by a factor of at most the greatest
  weight.
-/

namespace PhoneticSearch

open scoped ENNReal

namespace Warping

variable {κ α β : Type}

/-- Each element as often as its weight, in place. -/
def stretch (weight : α → Nat) (s : List α) : List α :=
  s.flatMap fun x => List.replicate (weight x) x

@[simp] theorem stretch_nil (weight : α → Nat) : stretch weight [] = [] := rfl

theorem stretch_concat (weight : α → Nat) (s : List α) (x : α) :
    stretch weight (s ++ [x]) = stretch weight s ++ List.replicate (weight x) x := by
  simp [stretch]

theorem append_replicate_succ (s : List α) (k : Nat) (x : α) :
    s ++ List.replicate (k + 1) x = s ++ List.replicate k x ++ [x] := by
  rw [List.replicate_succ', List.append_assoc]

section Lawful

variable [LinearOrder κ] {costs : Costs κ} (lawful : costs.Lawful) (cost : α → β → κ)
  (rows columns : Nat)

include lawful

theorem distance_le_top (s : List α) (t : List β) :
    distance costs cost rows columns s t ≤ costs.top := by
  rw [distance_eq_table]
  exact table_le_top lawful _ _ _

variable {cost columns} {s s' : List α} {x : α}

/-- One more element on both sides of a comparison. -/
theorem distance_concat_mono
    (h : ∀ t, distance costs cost 0 columns s t ≤ distance costs cost 0 columns s' t)
    (t : List β) :
    distance costs cost 0 columns (s ++ [x]) t ≤ distance costs cost 0 columns (s' ++ [x]) t := by
  induction t using List.reverseRecOn with
  | nil =>
    rw [distance_nil_right, distance_nil_right, border, border, if_neg (by simp), if_neg (by simp)]
  | append_singleton t y ih =>
    rw [distance_concat, distance_concat]
    exact cell_mono lawful le_rfl (h (t ++ [y])) ih (h t)

/-- The last element once more on the greater side of a comparison. -/
theorem distance_concat_le_repeat
    (h : ∀ t, distance costs cost 0 columns (s ++ [x]) t ≤ distance costs cost 0 columns s' t)
    (t : List β) :
    distance costs cost 0 columns (s ++ [x]) t ≤ distance costs cost 0 columns (s' ++ [x]) t := by
  induction t using List.reverseRecOn with
  | nil =>
    rw [distance_nil_right, distance_nil_right, border, border, if_neg (by simp), if_neg (by simp)]
  | append_singleton t y ih =>
    obtain ⟨-, hleft, -⟩ := cell_le_step lawful (cost x y)
      (distance costs cost 0 columns s (t ++ [y])) (distance costs cost 0 columns (s ++ [x]) t)
      (distance costs cost 0 columns s t)
    rw [← distance_concat] at hleft
    rw [distance_concat costs cost 0 columns s' x t y]
    -- a path that repeats the last element comes from it, or passes it by in one more column
    rcases cell_cases lawful (cost x y) (distance costs cost 0 columns s' (t ++ [y]))
      (distance costs cost 0 columns (s' ++ [x]) t) (distance costs cost 0 columns s' t)
      with hcell | hcell | hcell <;> rw [hcell]
    · calc distance costs cost 0 columns (s ++ [x]) (t ++ [y])
          ≤ step costs (cost x y) (distance costs cost 0 columns (s ++ [x]) (t ++ [y])) :=
            le_step lawful (distance_le_top lawful cost 0 columns _ _) _
        _ ≤ step costs (cost x y) (distance costs cost 0 columns s' (t ++ [y])) :=
            step_le_step lawful _ (h (t ++ [y]))
    · exact hleft.trans (step_le_step lawful _ ih)
    · exact hleft.trans (step_le_step lawful _ (h t))

theorem distance_concat_le_replicate
    (h : ∀ t, distance costs cost 0 columns s t ≤ distance costs cost 0 columns s' t) (k : Nat)
    (t : List β) :
    distance costs cost 0 columns (s ++ [x]) t ≤
      distance costs cost 0 columns (s' ++ List.replicate (k + 1) x) t := by
  induction k generalizing t with
  | zero => exact distance_concat_mono lawful h t
  | succ k ih =>
    rw [append_replicate_succ]
    exact distance_concat_le_repeat lawful ih t

theorem distance_le_distance_stretch {weight : α → Nat} (hweight : ∀ x, 0 < weight x) (s : List α)
    (t : List β) :
    distance costs cost 0 columns s t ≤ distance costs cost 0 columns (stretch weight s) t := by
  induction s using List.reverseRecOn generalizing t with
  | nil => exact le_rfl
  | append_singleton s x ih =>
    obtain ⟨k, hk⟩ := Nat.exists_eq_add_of_lt (hweight x)
    rw [stretch_concat, hk, Nat.zero_add]
    exact distance_concat_le_replicate lawful ih k t

end Lawful

end Warping

/-! ## Exact numbers -/

/-- The number that a magnitude is. -/
noncomputable def Magnitude.exact (x : Magnitude) : ℝ≥0∞ :=
  if x.code = Binary64.infinity then ⊤ else Binary64.value x.code / 2 ^ 1074

namespace Warping

/-- Costs that are added without rounding, up to the greatest finite number. -/
noncomputable def exactCosts : Costs ℝ≥0∞ := ⟨0, Magnitude.top.exact, (· + ·), min⟩

theorem mul_pow_div_pow (n j k : Nat) :
    ((n * 2 ^ (j + k) : Nat) : ℝ≥0∞) / 2 ^ k = n * 2 ^ j := by
  have hcast : ((n * 2 ^ (j + k) : Nat) : ℝ≥0∞) = n * 2 ^ j * 2 ^ k := by
    push_cast
    rw [pow_add, mul_assoc]
  rw [hcast]
  exact ENNReal.mul_div_cancel_right (by simp) (by simp)

/-- The greatest finite number has 53 binary places. -/
theorem exactCosts_top : exactCosts.top = (2 ^ 53 - 1 : Nat) * 2 ^ 971 := by
  have hcode : Magnitude.top.code = (971 + 1074) * 2 ^ 52 + (2 ^ 53 - 1) := by decide
  have hcanonical : Binary64.Canonical (2 ^ 53 - 1) (971 + 1074) := ⟨by decide, .inl (by decide)⟩
  change Magnitude.top.exact = _
  rw [Magnitude.exact, hcode, if_neg (by decide), Binary64.value_of_canonical hcanonical,
    mul_pow_div_pow]

theorem exactCosts_lawful : exactCosts.Lawful where
  min_eq _ _ := rfl
  zero_le _ := bot_le
  add_le_add := add_le_add
  le_add _ _ := le_add_self

section Exact

variable {cost : α → β → ℝ≥0∞} {columns : Nat} {s s' : List α} {t : List β} {x : α} {y : β}

theorem distance_concat_le_add (cost : α → β → ℝ≥0∞) (columns : Nat) (s : List α) (x : α)
    (t : List β) (y : β) :
    let d := distance exactCosts cost 0 columns (s ++ [x]) (t ++ [y])
    d ≤ cost x y + distance exactCosts cost 0 columns s (t ++ [y]) ∧
      d ≤ cost x y + distance exactCosts cost 0 columns (s ++ [x]) t ∧
      d ≤ cost x y + distance exactCosts cost 0 columns s t := by
  intro d
  have hstep : ∀ sum, step exactCosts (cost x y) sum ≤ cost x y + sum := fun _ => min_le_left _ _
  obtain ⟨habove, hleft, hbefore⟩ := cell_le_step exactCosts_lawful (cost x y)
    (distance exactCosts cost 0 columns s (t ++ [y]))
    (distance exactCosts cost 0 columns (s ++ [x]) t) (distance exactCosts cost 0 columns s t)
  rw [← distance_concat] at habove hleft hbefore
  exact ⟨habove.trans (hstep _), hleft.trans (hstep _), hbefore.trans (hstep _)⟩

/-- Each copy of a last element is paid for once. -/
theorem distance_replicate_le {rest : ℝ≥0∞}
    (h : distance exactCosts cost 0 columns (s ++ [x]) (t ++ [y]) ≤ cost x y + rest) (k : Nat) :
    distance exactCosts cost 0 columns (s ++ List.replicate (k + 1) x) (t ++ [y]) ≤
      (k + 1 : Nat) * cost x y + rest := by
  induction k with
  | zero => simpa using h
  | succ k ih =>
    rw [append_replicate_succ]
    calc distance exactCosts cost 0 columns (s ++ List.replicate (k + 1) x ++ [x]) (t ++ [y])
        ≤ cost x y + distance exactCosts cost 0 columns (s ++ List.replicate (k + 1) x) (t ++ [y]) :=
          (distance_concat_le_add cost columns _ x t y).1
      _ ≤ cost x y + ((k + 1 : Nat) * cost x y + rest) := by gcongr
      _ = (k + 1 + 1 : Nat) * cost x y + rest := by push_cast; ring

theorem le_mul_step {factor d cost rest : ℝ≥0∞} (htop : d ≤ factor * exactCosts.top)
    (h : d ≤ factor * cost + factor * rest) : d ≤ factor * step exactCosts cost rest := by
  change d ≤ factor * min (cost + rest) exactCosts.top
  rcases min_choice (cost + rest) exactCosts.top with hmin | hmin
  · rw [hmin, mul_add]
    exact h
  · rw [hmin]
    exact htop

/-- If what lies before a last element is stretched within a factor, so is the whole. -/
theorem distance_concat_replicate_le {factor : Nat}
    (h : ∀ t, distance exactCosts cost 0 columns s' t ≤
      factor * distance exactCosts cost 0 columns s t)
    {k : Nat} (hk : k + 1 ≤ factor) (t : List β) :
    distance exactCosts cost 0 columns (s' ++ List.replicate (k + 1) x) t ≤
      factor * distance exactCosts cost 0 columns (s ++ [x]) t := by
  have hcopies : ((k + 1 : Nat) : ℝ≥0∞) ≤ factor := by exact_mod_cast hk
  have hone : (1 : ℝ≥0∞) ≤ factor := by exact_mod_cast (Nat.le_add_left 1 k).trans hk
  have htop : ∀ t, distance exactCosts cost 0 columns (s' ++ List.replicate (k + 1) x) t ≤
      factor * exactCosts.top := by
    intro t
    exact (distance_le_top exactCosts_lawful cost 0 columns _ t).trans
      (le_mul_of_one_le_left' hone)
  induction t using List.reverseRecOn with
  | nil =>
    rw [distance_nil_right _ _ _ _ (s ++ [x]), border, if_neg (by simp)]
    exact htop []
  | append_singleton t y ih =>
    obtain ⟨habove, -, hbefore⟩ := distance_concat_le_add cost columns s' x t y
    have hleft := (distance_concat_le_add cost columns (s' ++ List.replicate k x) x t y).2.1
    rw [← append_replicate_succ] at hleft
    rw [distance_concat exactCosts cost 0 columns s x t y]
    rcases cell_cases exactCosts_lawful (cost x y)
      (distance exactCosts cost 0 columns s (t ++ [y]))
      (distance exactCosts cost 0 columns (s ++ [x]) t) (distance exactCosts cost 0 columns s t)
      with hcell | hcell | hcell <;> rw [hcell] <;> apply le_mul_step (htop (t ++ [y]))
    · exact (distance_replicate_le habove k).trans
        (add_le_add (mul_le_mul_left hcopies _) (h (t ++ [y])))
    · exact hleft.trans (add_le_add (le_mul_of_one_le_left' hone) ih)
    · exact (distance_replicate_le hbefore k).trans
        (add_le_add (mul_le_mul_left hcopies _) (h t))

theorem distance_stretch_le {weight : α → Nat} {factor : Nat} (hfactor : 0 < factor)
    (hpos : ∀ x, 0 < weight x) (hle : ∀ x, weight x ≤ factor) (s : List α) (t : List β) :
    distance exactCosts cost 0 columns (stretch weight s) t ≤
      factor * distance exactCosts cost 0 columns s t := by
  induction s using List.reverseRecOn generalizing t with
  | nil =>
    rw [stretch_nil]
    exact le_mul_of_one_le_left' (by exact_mod_cast hfactor)
  | append_singleton s x ih =>
    obtain ⟨k, hk⟩ := Nat.exists_eq_add_of_lt (hpos x)
    rw [Nat.zero_add] at hk
    rw [stretch_concat, hk]
    exact distance_concat_replicate_le ih (hk ▸ hle x) t

end Exact

end Warping

/-- The distance of two sequences, without rounding. -/
noncomputable def exactDistance {α β : Type} (s : List α) (t : List β) (distance : α → β → ℝ≥0∞)
    (tolerance : Float) : ℝ≥0∞ :=
  Warping.distance Warping.exactCosts distance (bandWidth tolerance s.length)
    (bandWidth tolerance t.length) s t

end PhoneticSearch
