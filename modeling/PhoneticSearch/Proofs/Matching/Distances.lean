import PhoneticSearch.Proofs.Binary64.Square
import PhoneticSearch.Proofs.Matching.Memory
import PhoneticSearch.Proofs.Matching.Parts
import PhoneticSearch.Proofs.Warping.Stretched

/-!
# Distances are finite numbers

* `IsDistance`: a finite number from zero on.
* `isDistance_phoneDistance`, `isDistance_sequenceDistance`: whatever the components are, and the
  costs of elements, with infinite ones and such that are not numbers.
* `Remembering.forall_mem_run`: what holds of all fresh answers of a matcher holds of those that it
  remembers.
* `IsAnswered`: a distance of a candidate in some answer.
* `isDistance_and_order`: all of these are distances, and those of candidates are in one order, by
  number or by `distanceKey`.
-/

namespace PhoneticSearch

open Binary64

/-- A finite number from zero on. -/
structure IsDistance (d : Float) : Prop where
  isNaN : d.isNaN = false
  isFinite : d.isFinite = true
  nonneg : 0 ≤ d
  le_maxFloat : d ≤ maxFloat

namespace Magnitude

variable {x : Magnitude}

theorem toFloat_nonneg (x : Magnitude) : 0 ≤ x.toFloat := by
  have h : (0 : Magnitude).toFloat ≤ x.toFloat := toFloat_le.mpr (zero_le x)
  rwa [toFloat_zero] at h

theorem isDistance_of_le_top (h : x ≤ top) : IsDistance x.toFloat where
  isNaN := x.isNaN_eq_false
  isFinite := isFinite_iff_le_top.mpr h
  nonneg := x.toFloat_nonneg
  le_maxFloat := by
    have hle : x.toFloat ≤ top.toFloat := toFloat_le.mpr h
    exact hle

/-- Magnitudes have one order, by number or by key. -/
theorem lt_iff_distanceKey (x y : Magnitude) :
    x.toFloat < y.toFloat ↔ distanceKey x.toFloat < distanceKey y.toFloat := by
  rw [toFloat_lt, lt_iff, distanceKey_toFloat, distanceKey_toFloat, Int.ofNat_lt]

theorem beq_iff_distanceKey (x y : Magnitude) :
    (x.toFloat == y.toFloat) = true ↔ distanceKey x.toFloat = distanceKey y.toFloat := by
  rw [← ofFloat_eq x.toFloat_nonneg y.toFloat_nonneg, ofFloat_toFloat, ofFloat_toFloat,
    distanceKey_toFloat, distanceKey_toFloat, Int.ofNat_inj, ← code_injective.eq_iff]

end Magnitude

theorem isDistance_of_isFinite {d : Float} (hfinite : d.isFinite = true) (h : 0 ≤ d) :
    IsDistance d := by
  rcases (Magnitude.nonneg_iff d).mp h with hle | hzero
  · exact Magnitude.isDistance_of_le_top (Magnitude.isFinite_iff_le_top (x := ⟨d, hle⟩).mp hfinite)
  · obtain rfl : d = -0 := Magnitude.float_ext (by rw [hzero]; decide)
    exact ⟨by decide, by decide, by decide, by decide⟩

theorem isDistance_phoneDistance (a b : Phone) : IsDistance (phoneDistance a b) := by
  refine isDistance_of_isFinite ?_ (phoneDistance_nonneg a b)
  simp only [phoneDistance]
  split
  · assumption
  · decide

/-! ## Distances of sequences -/

section SequenceDistance

variable {α β : Type} {s : List α} {t : List β} {cost : α → β → Float}

/-- The magnitude that a warping distance is. -/
theorem exists_le_top_eq_sequenceDistance
    (h : ∀ x ∈ s, ∀ y ∈ t, 0 ≤ cost x y ∨ (cost x y).isNaN = true) (tolerance : Float) :
    ∃ x ≤ Magnitude.top, sequenceDistance s t cost tolerance = x.toFloat :=
  ⟨_, Warping.distance_le_top Warping.magnitudeCosts_lawful _ _ _ s t,
    sequenceDistance_toFloat h tolerance⟩

theorem isDistance_sequenceDistance
    (h : ∀ x ∈ s, ∀ y ∈ t, 0 ≤ cost x y ∨ (cost x y).isNaN = true) (tolerance : Float) :
    IsDistance (sequenceDistance s t cost tolerance) := by
  obtain ⟨x, hle, heq⟩ := exists_le_top_eq_sequenceDistance h tolerance
  rw [heq]
  exact Magnitude.isDistance_of_le_top hle

/-- A cost that is not a number counts as the greatest finite number. -/
theorem sequenceDistance_eq_of_isNaN
    (h : ∀ x ∈ s, ∀ y ∈ t, 0 ≤ cost x y ∨ (cost x y).isNaN = true) (tolerance : Float) :
    sequenceDistance s t cost tolerance =
      sequenceDistance s t (fun x y => if (cost x y).isNaN then maxFloat else cost x y)
        tolerance := by
  have hreplaced : ∀ x ∈ s, ∀ y ∈ t, 0 ≤ (if (cost x y).isNaN then maxFloat else cost x y) := by
    intro x hx y hy
    split
    · decide
    · next hnan => exact (h x hx y hy).resolve_right hnan
  have hcost : (fun x y => Magnitude.ofFloat (cost x y)) = fun x y =>
      Magnitude.ofFloat (if (cost x y).isNaN then maxFloat else cost x y) := by
    funext x y
    split
    · next hnan =>
      rw [Magnitude.ofFloat_of_isNaN hnan]
      exact (Magnitude.ofFloat_toFloat Magnitude.top).symm
    · rfl
  rw [sequenceDistance_toFloat h, sequenceDistance_toFloat_of_nonneg hreplaced, hcost]

end SequenceDistance

/-! ## Distances of candidates -/

/-- The distance of a candidate, if it has one, is a magnitude up to the greatest finite number. -/
def Candidate.IsBounded (candidate : Candidate) : Prop :=
  ∀ d, candidate.distance = some d → ∃ x ≤ Magnitude.top, d = x.toFloat

namespace Matcher

variable (matcher : Matcher)

theorem exists_le_top_eq_distance (query phones : List Phone) :
    ∃ x ≤ Magnitude.top, matcher.distance query phones = x.toFloat :=
  exists_le_top_eq_sequenceDistance (fun x _ y _ => .inl (phoneDistance_nonneg x y)) _

theorem isBounded_of_mem_curated {token : String} {query : List Phone} {candidate : Candidate}
    (h : candidate ∈ matcher.curated token query) : candidate.IsBounded := by
  rw [curated] at h
  split at h
  · cases h
  · obtain ⟨reading, -, rfl⟩ := List.mem_map.mp h
    intro d hd
    dsimp only at hd
    split at hd
    · cases hd
    · rw [← Option.some.inj hd]
      exact matcher.exists_le_top_eq_distance query reading.entry.phones

theorem isBounded_of_mem_nearest {query : List Phone} {candidate : Candidate}
    (h : candidate ∈ matcher.nearest query) : candidate.IsBounded := by
  rw [nearest] at h
  split at h
  · cases h
  · obtain ⟨found, hfound, rfl⟩ := List.mem_map.mp h
    rw [foldl_offerEntries] at hfound
    rcases Selection.mem_or_mem_of_mem_foldl_offer hfound with hkept | hmeasured
    · cases hkept
    · simp only [measured, List.mem_flatMap, List.mem_map] at hmeasured
      obtain ⟨lexicon, -, entry, -, rfl⟩ := hmeasured
      intro d hd
      rw [← Option.some.inj hd]
      exact matcher.exists_le_top_eq_distance query entry.phones

theorem isBounded_of_mem_rank {token : String} {phones : List Phone} {candidate : Candidate}
    (h : candidate ∈ matcher.rank token phones) : candidate.IsBounded := by
  rw [rank, List.mem_append] at h
  rcases h with hcurated | hnearest
  · exact matcher.isBounded_of_mem_curated hcurated
  · exact matcher.isBounded_of_mem_nearest hnearest

end Matcher

namespace Remembering

variable {matcher : Matcher} {P : List Candidate → Prop}

/-- The matcher has not changed, and all answers in the memory have a property. -/
def Remembers (matcher : Matcher) (P : List Candidate → Prop) (state : Remembering) : Prop :=
  state.matcher = matcher ∧ ∀ entry ∈ state.memo, P entry.2

variable (hrank : ∀ token phones, P (matcher.rank token phones))

include hrank

/-- One call: an answer is fresh or comes from the memory. -/
theorem Remembers.call {state : Remembering} (h : Remembers matcher P state) (next : Call) :
    Remembers matcher P (state.call next).2 ∧ ∀ answer, (state.call next).1 = some answer →
      P answer := by
  obtain ⟨hmatcher, hmemo⟩ := h
  cases next with
  | clear =>
    refine ⟨⟨hmatcher, ?_⟩, ?_⟩
    · intro entry hmem
      cases hmem
    · intro answer hanswer
      cases hanswer
  | matchToken token phones =>
    rw [Remembering.call, Matcher.matchToken]
    cases hlookup : state.memo.lookup token with
    | some known =>
      obtain ⟨before, after, hsplit, -⟩ := List.lookup_eq_some_iff.mp hlookup
      refine ⟨⟨hmatcher, hmemo⟩, ?_⟩
      rintro _ ⟨⟩
      exact hmemo (token, known) (by simp [hsplit])
    | none =>
      refine ⟨⟨hmatcher, ?_⟩, ?_⟩
      · intro entry hmem
        rcases List.mem_cons.mp hmem with rfl | hold
        · rw [hmatcher]
          exact hrank token phones
        · exact hmemo entry hold
      · rintro _ ⟨⟩
        rw [hmatcher]
        exact hrank token phones

theorem Remembers.run {state : Remembering} (h : Remembers matcher P state) (calls : List Call) :
    ∀ answer, some answer ∈ (state.run calls).1 → P answer := by
  induction calls generalizing state with
  | nil =>
    intro answer hmem
    cases hmem
  | cons first rest ih =>
    obtain ⟨hnext, hanswer⟩ := h.call hrank first
    intro answer hmem
    rcases List.mem_cons.mp hmem with heq | hrest
    · exact hanswer answer heq.symm
    · exact ih hnext answer hrest

/-- What all fresh answers of a matcher have, all its answers have. -/
theorem forall_mem_run (calls : List Call) :
    ∀ answer, some answer ∈ (run ⟨matcher, []⟩ calls).1 → P answer :=
  Remembers.run hrank ⟨rfl, fun entry hmem => by cases hmem⟩ calls

end Remembering

/-- Some matcher gives this distance to a candidate of an answer, a fresh or a remembered one. -/
def IsAnswered (d : Float) : Prop :=
  ∃ (matcher : Matcher) (calls : List Call) (answer : List Candidate) (candidate : Candidate),
    some answer ∈ (Remembering.run ⟨matcher, []⟩ calls).1 ∧ candidate ∈ answer ∧
      candidate.distance = some d

theorem IsAnswered.exists_le_top {d : Float} (h : IsAnswered d) :
    ∃ x ≤ Magnitude.top, d = x.toFloat := by
  obtain ⟨matcher, calls, answer, candidate, hanswer, hmem, hd⟩ := h
  have hall : ∀ candidate ∈ answer, candidate.IsBounded :=
    Remembering.forall_mem_run (P := fun answer => ∀ candidate ∈ answer, candidate.IsBounded)
      (fun _ _ _ => matcher.isBounded_of_mem_rank) calls answer hanswer
  exact hall candidate hmem d hd

theorem isAnswered_of_mem_curated {matcher : Matcher} {token : String} {phones : List Phone}
    {candidate : Candidate} {d : Float}
    (h : candidate ∈ matcher.curated token (matcher.query phones))
    (hd : candidate.distance = some d) : IsAnswered d :=
  ⟨matcher, [.matchToken token phones], matcher.rank token phones, candidate, List.mem_cons_self,
    List.mem_append_left _ h, hd⟩

/-- Distances of phones and of sequences are finite numbers from zero on, for any components and for
any costs from zero on or not a number, which count as the greatest finite number. So all distances
of candidates are, and the total order by which candidates are sorted is the order of numbers. -/
theorem isDistance_and_order :
    (∀ a b : Phone, IsDistance (phoneDistance a b)) ∧
    (∀ (α β : Type) (s : List α) (t : List β) (cost : α → β → Float) (tolerance : Float),
      (∀ x ∈ s, ∀ y ∈ t, 0 ≤ cost x y ∨ (cost x y).isNaN = true) →
        IsDistance (sequenceDistance s t cost tolerance) ∧
          sequenceDistance s t cost tolerance =
            sequenceDistance s t (fun x y => if (cost x y).isNaN then maxFloat else cost x y)
              tolerance) ∧
    (∀ d, IsAnswered d → IsDistance d) ∧
    ∀ d d', IsAnswered d → IsAnswered d' →
      (d < d' ↔ distanceKey d < distanceKey d') ∧
        ((d == d') = true ↔ distanceKey d = distanceKey d') := by
  refine ⟨isDistance_phoneDistance, ?_, ?_, ?_⟩
  · intro α β s t cost tolerance h
    exact ⟨isDistance_sequenceDistance h tolerance, sequenceDistance_eq_of_isNaN h tolerance⟩
  · intro d h
    obtain ⟨x, hle, rfl⟩ := h.exists_le_top
    exact Magnitude.isDistance_of_le_top hle
  · intro d d' h h'
    obtain ⟨x, -, rfl⟩ := h.exists_le_top
    obtain ⟨y, -, rfl⟩ := h'.exists_le_top
    exact ⟨Magnitude.lt_iff_distanceKey x y, Magnitude.beq_iff_distanceKey x y⟩

/-- Costs of which one is not a number and one is infinite, and the distances of two curated
readings whose phones have such components. -/
theorem isDistance_and_order_nan :
    let costs : List Float := [0 / 0, 1 / 0, 1]
    let notes := ((ReadingTable.empty "notes").insert "tok" ⟨none, .ofPhones "A" [[0 / 0]]⟩).insert
      "tok" ⟨none, .ofPhones "B" [[-1 / 0, 1]]⟩
    let matcher := Matcher.ofLexicons [] 1 0 (some notes) none
    let d := matcher.distance [[1]] [[0 / 0]]
    let d' := matcher.distance [[1]] [[-1 / 0, 1]]
    (∀ x ∈ costs, ∀ y ∈ [()], 0 ≤ x ∨ x.isNaN = true) ∧
      IsDistance (sequenceDistance costs [()] (fun x _ => x) 1) ∧
      (IsAnswered d ∧ IsAnswered d') ∧ IsDistance d ∧
        (d < d' ↔ distanceKey d < distanceKey d') := by
  intro costs notes matcher d d'
  obtain ⟨-, hsequence, hanswered, horder⟩ := isDistance_and_order
  have hcosts : ∀ x ∈ costs, ∀ y ∈ [()], 0 ≤ x ∨ x.isNaN = true := by decide +kernel
  have hcurated : matcher.curated "tok" (matcher.query [[1]]) =
      [⟨.readings "notes", .ofPhones "A" [[0 / 0]], some d⟩,
        ⟨.readings "notes", .ofPhones "B" [[-1 / 0, 1]], some d'⟩] := by
    have hlookup : notes.lookup "tok" =
        [⟨none, .ofPhones "A" [[0 / 0]]⟩, ⟨none, .ofPhones "B" [[-1 / 0, 1]]⟩] := by
      simp [notes, ReadingTable.lookup_insert]
    show (notes.lookup "tok").map _ = _
    rw [hlookup]
    rfl
  have hd : IsAnswered d := by
    have hmem : (⟨.readings "notes", .ofPhones "A" [[0 / 0]], some d⟩ : Candidate) ∈
        matcher.curated "tok" (matcher.query [[1]]) := by
      rw [hcurated]
      exact List.mem_cons_self
    exact isAnswered_of_mem_curated hmem rfl
  have hd' : IsAnswered d' := by
    have hmem : (⟨.readings "notes", .ofPhones "B" [[-1 / 0, 1]], some d'⟩ : Candidate) ∈
        matcher.curated "tok" (matcher.query [[1]]) := by
      rw [hcurated]
      exact List.mem_cons_of_mem _ List.mem_cons_self
    exact isAnswered_of_mem_curated hmem rfl
  exact ⟨hcosts, (hsequence Float Unit costs [()] (fun x _ => x) 1 hcosts).1, ⟨hd, hd'⟩,
    hanswered d hd, (horder d d' hd hd').1⟩

end PhoneticSearch
