import Mathlib
import PhoneticSearch.Proofs.Encoding.PhoneLength

/-!
# Phones in layers

A phone laid over another one keeps what it says and leaves the rest to the one below. Layers can
be put together first, in sequence, and the unset phone is an empty layer.

* `FeatureSet.getElem?_override`: one component; `FeatureSet.getElem?_foldl_override`: under any
  number of layers.
* `FeatureSet.override_assoc`, `FeatureSet.override_unsetPhone`, `FeatureSet.override_self`.
* `FeatureSet.foldl_override`: layers as one layer; `FeatureSet.descendants_eq_map`: the same of
  overlays that fan out.
* `FeatureSet.override_isAction`: these laws together.

That equality of numbers is symmetric and transitive is in Batteries, in a part that comes only with
the whole of Mathlib.
-/

namespace PhoneticSearch

/-- Where every step writes one part of a state or leaves it, the last that is written is read. -/
theorem foldl_lastWritten {σ α β : Type} {step : σ → α → σ} (part : σ → Option β)
    (written : α → Option β)
    (h : ∀ state item, part (step state item) =
      (part state).map fun value => (written item).getD value)
    (items : List α) (state : σ) :
    part (items.foldl step state) =
      (part state).map fun value => (items.filterMap written).getLast?.getD value := by
  induction items generalizing state with
  | nil => simp
  | cons item rest ih =>
    rw [List.foldl_cons, ih, h, Option.map_map]
    cases hitem : written item with
    | none => simp [hitem, Function.comp_def]
    | some value => simp [hitem, Function.comp_def, List.getLast?_cons]

namespace FeatureSet

variable (set : FeatureSet)

/-- A component of a phone, if it is not unset. -/
def setAt? (phone : Phone) (i : Nat) : Option Float := phone[i]?.filter (· != set.unset)

/-- The component of the last of some phones in which it is not unset. -/
def lastSet? (layers : List Phone) (i : Nat) : Option Float :=
  (layers.filterMap fun layer => set.setAt? layer i).getLast?

/-- A phone of numbers, one for each dimension. -/
structure IsNumeric (phone : Phone) : Prop where
  length : phone.length = set.dimensions
  number : ∀ value ∈ phone, value.isNaN = false

/-- Two phones are the same as numbers: zero has no sign. -/
def SameNumbers : Phone → Phone → Prop := List.Forall₂ fun a b => (a == b) = true

variable {set}

/-! ## Components -/

theorem getElem?_override (base overlay : Phone) (i : Nat) :
    (set.override base overlay)[i]? =
      base[i]?.map fun value => (set.setAt? overlay i).getD value := by
  fun_induction set.override base overlay generalizing i with
  | case1 overlay => simp
  | case2 base => simp [setAt?]
  | case3 base bases value values ih =>
    cases i with
    | zero =>
      simp only [List.getElem?_cons_zero, setAt?, Option.filter_some, Option.map_some]
      split <;> rfl
    | succ i => simpa [setAt?] using ih i

theorem getElem?_foldl_override (layers : List Phone) (base : Phone) (i : Nat) :
    (layers.foldl set.override base)[i]? =
      base[i]?.map fun value => (set.lastSet? layers i).getD value :=
  foldl_lastWritten (fun phone => phone[i]?) (fun layer => set.setAt? layer i)
    (fun base overlay => getElem?_override base overlay i) layers base

theorem setAt?_eq_some_iff {phone : Phone} {i : Nat} {value : Float} :
    set.setAt? phone i = some value ↔ phone[i]? = some value ∧ (value != set.unset) = true :=
  Option.filter_eq_some_iff

/-- No component of the result is made up. -/
theorem getElem?_override_cases {base overlay : Phone} {i : Nat} {value : Float}
    (h : (set.override base overlay)[i]? = some value) :
    base[i]? = some value ∨ overlay[i]? = some value := by
  rw [getElem?_override] at h
  cases hset : set.setAt? overlay i with
  | none => left; simpa [hset] using h
  | some other =>
    obtain ⟨below, -, rfl⟩ := Option.map_eq_some_iff.mp h
    rw [hset]
    exact .inr (setAt?_eq_some_iff.mp hset).1

theorem lastSet?_cons (layer : Phone) (layers : List Phone) (i : Nat) :
    set.lastSet? (layer :: layers) i = (set.lastSet? layers i).or (set.setAt? layer i) := by
  unfold lastSet?
  cases hset : set.setAt? layer i with
  | none => simp [hset]
  | some value =>
    simp only [List.filterMap_cons, hset, List.getLast?_cons]
    cases (layers.filterMap fun layer => set.setAt? layer i).getLast? <;> rfl

theorem exists_of_lastSet? {layers : List Phone} {i : Nat} {value : Float}
    (h : set.lastSet? layers i = some value) :
    ∃ layer ∈ layers, layer[i]? = some value ∧ (value != set.unset) = true := by
  obtain ⟨layer, hlayer, hvalue⟩ := List.mem_filterMap.mp (List.mem_of_getLast? h)
  exact ⟨layer, hlayer, setAt?_eq_some_iff.mp hvalue⟩

/-! ## Numbers -/

theorem beq_self_of_number {value : Float} (h : value.isNaN = false) : (value == value) = true := by
  rw [Float.isNaN_eq_decide_eq_nan, decide_eq_false_iff_not] at h
  exact Float.beq_self_iff.mpr h

theorem isNumeric_unsetPhone (h : set.unset.isNaN = false) : set.IsNumeric set.unsetPhone where
  length := set.length_unsetPhone
  number := by
    intro value hvalue
    rw [List.eq_of_mem_replicate hvalue]
    exact h

theorem IsNumeric.override {base overlay : Phone} (hbase : set.IsNumeric base)
    (hoverlay : set.IsNumeric overlay) : set.IsNumeric (set.override base overlay) where
  length := (set.length_override base overlay).trans hbase.length
  number := by
    intro value hvalue
    obtain ⟨i, hi⟩ := List.mem_iff_getElem?.mp hvalue
    obtain hvalue | hvalue := getElem?_override_cases hi
    · exact hbase.number value (List.mem_of_getElem? hvalue)
    · exact hoverlay.number value (List.mem_of_getElem? hvalue)

/-- Which of two numbers that are the same is laid over which, and under which, is all one. -/
theorem SameNumbers.override {base base' overlay overlay' : Phone} (hbase : SameNumbers base base')
    (hoverlay : SameNumbers overlay overlay') :
    SameNumbers (set.override base overlay) (set.override base' overlay') := by
  induction hbase generalizing overlay overlay' with
  | nil => exact .nil
  | @cons value value' base base' hvalue hrest ih =>
    cases hoverlay with
    | nil => exact .cons hvalue hrest
    | @cons upper upper' overlay overlay' hupper hoverlay =>
      have hunset : (upper != set.unset) = (upper' != set.unset) := by
        rw [bne, bne, BEq.congr_left hupper]
      refine .cons ?_ (ih hoverlay)
      rw [hunset]
      split
      · exact hupper
      · exact hvalue

/-! ## The laws -/

theorem setAt?_unsetPhone (h : set.unset.isNaN = false) (i : Nat) :
    set.setAt? set.unsetPhone i = none := by
  rw [Option.eq_none_iff_forall_ne_some]
  intro value hvalue
  obtain ⟨hmem, hset⟩ := setAt?_eq_some_iff.mp hvalue
  rw [List.eq_of_mem_replicate (List.mem_of_getElem? hmem), bne, beq_self_of_number h] at hset
  cases hset

theorem override_unsetPhone (h : set.unset.isNaN = false) (base : Phone) :
    set.override base set.unsetPhone = base := by
  refine List.ext_getElem? fun i => ?_
  rw [getElem?_override, setAt?_unsetPhone h]
  simp

/-- A component equal to the unset value becomes this value, which may be a zero of the other
sign. -/
theorem unsetPhone_override {phone : Phone} (h : set.IsNumeric phone) :
    SameNumbers (set.override set.unsetPhone phone) phone := by
  have hrun : ∀ values : Phone, (∀ value ∈ values, value.isNaN = false) →
      SameNumbers (set.override (List.replicate values.length set.unset) values) values := by
    intro values
    induction values with
    | nil => exact fun _ => .nil
    | cons value rest ih =>
      intro hnumber
      refine .cons ?_ (ih fun other hother => hnumber other (.tail _ hother))
      split
      · exact beq_self_of_number (hnumber value List.mem_cons_self)
      · next hunset => exact BEq.symm (by simpa [bne] using hunset)
  rw [unsetPhone, ← h.length]
  exact hrun phone h.number

theorem override_self (phone : Phone) : set.override phone phone = phone := by
  refine List.ext_getElem? fun i => ?_
  rw [getElem?_override, setAt?]
  cases phone[i]? with
  | none => rfl
  | some value =>
    rw [Option.map_some, Option.filter_some]
    split <;> rfl

theorem setAt?_override {base : Phone} {i : Nat} (hi : i < base.length) (overlay : Phone) :
    set.setAt? (set.override base overlay) i =
      (set.setAt? overlay i).or (set.setAt? base i) := by
  rw [setAt?, getElem?_override, List.getElem?_eq_getElem hi, Option.map_some]
  cases hset : set.setAt? overlay i with
  | none => rw [Option.getD_none, Option.none_or, setAt?, List.getElem?_eq_getElem hi]
  | some value =>
    rw [Option.getD_some, Option.some_or, Option.filter_some, if_pos (setAt?_eq_some_iff.mp hset).2]

/-- Two layers over a phone are one, unless the upper one reaches beyond the lower one. -/
theorem override_assoc {base middle : Phone} (h : base.length ≤ middle.length) (overlay : Phone) :
    set.override (set.override base middle) overlay =
      set.override base (set.override middle overlay) := by
  refine List.ext_getElem? fun i => ?_
  rw [getElem?_override, getElem?_override, getElem?_override, Option.map_map]
  by_cases hi : i < base.length
  · rw [setAt?_override (hi.trans_le h)]
    simp only [Function.comp_def, Option.getD_or]
  · rw [List.getElem?_eq_none (Nat.le_of_not_lt hi), Option.map_none, Option.map_none]

/-! ## Chains of layers -/

theorem length_foldl_override (layers : List Phone) (base : Phone) :
    (layers.foldl set.override base).length = base.length := by
  induction layers generalizing base with
  | nil => rfl
  | cons layer layers ih => rw [List.foldl_cons, ih, length_override]

/-- Layers can be put together before they are laid over a phone. -/
theorem foldl_override (h : set.unset.isNaN = false) {base : Phone}
    (hbase : base.length ≤ set.dimensions) (layers : List Phone) :
    layers.foldl set.override base =
      set.override base (layers.foldl set.override set.unsetPhone) := by
  induction layers using List.reverseRecOn with
  | nil => exact (override_unsetPhone h base).symm
  | append_singleton layers last ih =>
    have hlength : (layers.foldl set.override set.unsetPhone).length = set.dimensions := by
      rw [length_foldl_override, length_unsetPhone]
    rw [List.foldl_concat, List.foldl_concat, ih, override_assoc (hbase.trans_eq hlength.symm)]

theorem length_of_mem_descendants {overlays : List Overlay} {phone other : Phone}
    (h : other ∈ descendants set overlays phone) : other.length = phone.length := by
  induction overlays generalizing other with
  | nil => rw [List.mem_singleton.mp h]
  | cons overlay overlays ih =>
    obtain ⟨below, hbelow, hother⟩ := List.mem_flatMap.mp h
    obtain ⟨laid, -, rfl⟩ := List.mem_map.mp hother
    rw [length_override, ih hbelow]

/-- The phones that come of a phone are those that come of the unset phone, each laid over it. -/
theorem descendants_eq_map (h : set.unset.isNaN = false) {phone : Phone}
    (hphone : phone.length ≤ set.dimensions) (overlays : List Overlay) :
    descendants set overlays phone =
      (descendants set overlays set.unsetPhone).map (set.override phone) := by
  induction overlays with
  | nil =>
    rw [descendants, descendants, List.foldr_nil, List.foldr_nil, List.map_singleton,
      override_unsetPhone h]
  | cons overlay overlays ih =>
    have hrest : ∀ laid ∈ descendants set overlays set.unsetPhone,
        overlay.phones.map (set.override (set.override phone laid)) =
          (overlay.phones.map (set.override laid)).map (set.override phone) := by
      intro laid hlaid
      have hlength : phone.length ≤ laid.length := by
        rw [length_of_mem_descendants hlaid, length_unsetPhone]
        exact hphone
      rw [List.map_map]
      exact List.map_congr_left fun other _ => override_assoc hlength other
    have hcons : ∀ base, descendants set (overlay :: overlays) base =
        layOver set overlay (descendants set overlays base) := fun _ => rfl
    rw [hcons, hcons, ih, layOver, layOver, List.flatMap_map, List.map_flatMap]
    exact List.flatMap_congr hrest

/-- Each component is the one of the last layer in which it is not unset. -/
theorem IsNumeric.foldl_override {base : Phone} (hbase : set.IsNumeric base) {layers : List Phone}
    (hlayers : ∀ layer ∈ layers, set.IsNumeric layer) {i : Nat} {value : Float}
    (hvalue : (layers.foldl set.override base)[i]? = some value) :
    (value == (set.lastSet? (base :: layers) i).getD set.unset) = true := by
  rw [getElem?_foldl_override] at hvalue
  obtain ⟨below, hbelow, rfl⟩ := Option.map_eq_some_iff.mp hvalue
  rw [lastSet?_cons]
  cases hlast : set.lastSet? layers i with
  | some other =>
    obtain ⟨layer, hlayer, hother, -⟩ := exists_of_lastSet? hlast
    exact beq_self_of_number ((hlayers layer hlayer).number other (List.mem_of_getElem? hother))
  | none =>
    rw [Option.getD_none, Option.none_or, setAt?, hbelow, Option.filter_some]
    split
    · exact beq_self_of_number (hbase.number below (List.mem_of_getElem? hbelow))
    · next hunset => simpa [bne] using hunset

/-- If unset is a number, the phones of numbers are a monoid under overriding, which acts on phones:

* phones that are the same as numbers can stand for each other;
* the operation is associative and idempotent, with the unset phone as its identity. Only from the
  left this needs the comparison as numbers;
* of any number of layers, the last that says something of a component counts;
* for all lengths, the phone below keeps its length, and each component is one of the two;
* a chain of layers is one layer, also of overlays of several phones each. -/
theorem override_isAction {set : FeatureSet} (hunset : set.unset.isNaN = false) :
    set.IsNumeric set.unsetPhone ∧
      (∀ a b, set.IsNumeric a → set.IsNumeric b → set.IsNumeric (set.override a b)) ∧
      (∀ a a' b b', SameNumbers a a' → SameNumbers b b' →
        SameNumbers (set.override a b) (set.override a' b')) ∧
      (∀ a b c, set.IsNumeric a → set.IsNumeric b → set.IsNumeric c →
        set.override (set.override a b) c = set.override a (set.override b c)) ∧
      (∀ a, set.IsNumeric a → SameNumbers (set.override set.unsetPhone a) a ∧
        set.override a set.unsetPhone = a ∧ set.override a a = a) ∧
      (∀ base layers, set.IsNumeric base → (∀ layer ∈ layers, set.IsNumeric layer) →
        ∀ i value, (layers.foldl set.override base)[i]? = some value →
          (value == (set.lastSet? (base :: layers) i).getD set.unset) = true) ∧
      (∀ base overlay : Phone, (set.override base overlay).length = base.length ∧
        ∀ (i : Nat) (value : Float), (set.override base overlay)[i]? = some value →
          base[i]? = some value ∨ overlay[i]? = some value) ∧
      (∀ (base : Phone) (layers : List Phone), base.length ≤ set.dimensions →
        layers.foldl set.override base =
          set.override base (layers.foldl set.override set.unsetPhone)) ∧
      ∀ (base : Phone) (overlays : List Overlay), base.length ≤ set.dimensions →
        descendants set overlays base =
          (descendants set overlays set.unsetPhone).map (set.override base) := by
  refine ⟨isNumeric_unsetPhone hunset, fun a b => IsNumeric.override,
    fun a a' b b' => SameNumbers.override, fun a b c ha hb _ => ?_, fun a ha => ?_,
    fun base layers hbase hlayers i value => hbase.foldl_override hlayers,
    fun base overlay => ⟨set.length_override base overlay, fun i value => getElem?_override_cases⟩,
    fun base layers hbase => FeatureSet.foldl_override hunset hbase layers,
    fun base overlays hbase => descendants_eq_map hunset hbase overlays⟩
  · exact override_assoc (ha.length.trans hb.length.symm).le c
  · exact ⟨unsetPhone_override ha, override_unsetPhone hunset a, override_self a⟩

/-- Two dimensions, with zero for what is unset. -/
def nasalVoiced : FeatureSet where
  name := "features"
  groups := ["nasal", "voi,voiced"]
  index := [("VOICED", 1), ("VOI", 1), ("NASAL", 0)]
  plus := 1
  minus := -1
  unset := 0
  problems := []

/-- A negative zero is unset, and laid over the unset phone it is a positive one. -/
theorem override_isAction_signless :
    nasalVoiced.unset.isNaN = false ∧ nasalVoiced.IsNumeric [-0.0, 1] ∧
      nasalVoiced.override nasalVoiced.unsetPhone [-0.0, 1] = [0, 1] ∧
      SameNumbers (nasalVoiced.override nasalVoiced.unsetPhone [-0.0, 1]) [-0.0, 1] ∧
      [[0, -1], [-0.0, 1]].foldl nasalVoiced.override [1, 0] = [1, 1] ∧
      nasalVoiced.override [1, 0]
        ([[0, -1], [-0.0, 1]].foldl nasalVoiced.override nasalVoiced.unsetPhone) = [1, 1] := by
  have hunset : nasalVoiced.unset.isNaN = false := by rfl
  have hnumeric : nasalVoiced.IsNumeric [-0.0, 1] := ⟨rfl, by decide⟩
  have hlayers : [[0, -1], [-0.0, 1]].foldl nasalVoiced.override [1, 0] = [1, 1] := by rfl
  obtain ⟨-, -, -, -, hidentity, -, -, hchain, -⟩ := override_isAction hunset
  refine ⟨hunset, hnumeric, by rfl, (hidentity [-0.0, 1] hnumeric).1, hlayers, ?_⟩
  rw [← hchain [1, 0] [[0, -1], [-0.0, 1]] (by rfl), hlayers]

end FeatureSet

end PhoneticSearch
