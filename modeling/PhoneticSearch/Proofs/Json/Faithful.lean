import Mathlib.Data.List.Forall2
import PhoneticSearch.Json.Building
import PhoneticSearch.Json.Record
import PhoneticSearch.Proofs.Binary64.WholeNumbers

/-!
# What is written is read again

* `Tree.IsValue`: the trees of well-formed texts.
* `Decoder.Faithful`: whatever a decoder reads from a value, it reads again from the value that is
  written for it.
* `Faithful.listOf`, `Faithful.choice`, `faithful_record`: lists, values with several shapes and
  records are read again if their parts are.
* `Fields.Again`: a part of a record is read again wherever it is given as it is written.
-/

namespace PhoneticSearch.Json

/-! ## Values -/

/-- A whole number of at most 64 bits, or a finite number. -/
def Number.IsValue : Number → Prop
  | .integer n => -2 ^ 63 ≤ n ∧ n < 2 ^ 64
  | .real x => x.isFinite = true

namespace Tree

/-- Nothing in the tree breaks. -/
inductive IsValue : Tree → Prop where
  | null : IsValue .null
  | bool (b : Bool) : IsValue (.bool b)
  | number {value : Number} (h : value.IsValue) : IsValue (.number (some value))
  | string {content : Literal} (h : content.break? = none) : IsValue (.string content)
  | list {items : List Tree} (h : ∀ item ∈ items, IsValue item) : IsValue (.list items none)
  | object {members : List (Literal × Tree)} (hnames : ∀ member ∈ members, member.1.break? = none)
      (h : ∀ member ∈ members, IsValue member.2) : IsValue (.object members none)

theorem itemsBreak?_eq_none {items : List Tree} (h : ∀ item ∈ items, item.break? = none) :
    itemsBreak? items = none := by
  induction items with
  | nil => rw [itemsBreak?]
  | cons item rest ih =>
    rw [List.forall_mem_cons] at h
    rw [itemsBreak?, h.1, ih h.2]
    rfl

theorem membersBreak?_eq_none {members : List (Literal × Tree)}
    (hnames : ∀ member ∈ members, member.1.break? = none)
    (h : ∀ member ∈ members, member.2.break? = none) : membersBreak? members = none := by
  induction members with
  | nil => rw [membersBreak?]
  | cons member rest ih =>
    rw [List.forall_mem_cons] at hnames h
    rw [membersBreak?, hnames.1, h.1, ih hnames.2 h.2]
    rfl

theorem IsValue.break?_eq_none {tree : Tree} (h : tree.IsValue) : tree.break? = none := by
  induction h with
  | null => rw [break?]
  | bool b => rw [break?]
  | number _ => rw [break?]
  | string h => rw [break?, h]
  | list _ ih => rw [break?, itemsBreak?_eq_none ih, Option.none_or]
  | object hnames _ ih => rw [break?, membersBreak?_eq_none hnames ih, Option.none_or]

@[simp] theorem isValue_null : IsValue .null := .null

@[simp] theorem isValue_ofText (text : String) : (ofText text).IsValue :=
  .string (Literal.break?_ofText text)

@[simp] theorem isValue_ofReal {value : Float} :
    (ofReal value).IsValue ↔ value.isFinite = true := by
  constructor
  · rintro ⟨⟩
    assumption
  · exact fun h => .number h

@[simp] theorem isValue_ofCount {value : Nat} : (ofCount value).IsValue ↔ value < 2 ^ 64 := by
  constructor
  · rintro (_ | _ | h)
    have := h.2
    omega
  · intro h
    exact .number ⟨by omega, by omega⟩

@[simp] theorem isValue_ofList {α : Type} {inner : α → Tree} {values : List α} :
    (ofList inner values).IsValue ↔ ∀ value ∈ values, (inner value).IsValue := by
  constructor
  · rintro (_ | _ | _ | _ | h)
    exact List.forall_mem_map.mp h
  · exact fun h => .list (List.forall_mem_map.mpr h)

@[simp] theorem isValue_ofFields {fields : List (String × Tree)} :
    (ofFields fields).IsValue ↔ ∀ field ∈ fields, field.2.IsValue := by
  constructor
  · rintro (_ | _ | _ | _ | _ | ⟨_, h⟩) field hmem
    exact h _ (List.mem_map_of_mem hmem)
  · intro h
    refine .object ?_ ?_
    · exact List.forall_mem_map.mpr fun _ _ => Literal.break?_ofText _
    · exact List.forall_mem_map.mpr h

end Tree

open Json.Tree

namespace Decoder

variable {α β γ : Type}

/-- The tree is a value, which is read as `value`. -/
def Accepts (decoder : Decoder α) (tree : Tree) (value : α) : Prop :=
  tree.IsValue ∧ decoder tree = .ok value

/-- What is read from any value is read again from the value that is written for it, which is not
null. -/
structure Faithful (decoder : Decoder α) (tree : α → Tree) : Prop where
  again : ∀ {given value}, decoder.Accepts given value → decoder.Accepts (tree value) value
  ne_null : ∀ {given value}, decoder.Accepts given value → tree value ≠ .null

/-! ## Plain values -/

theorem accepts_textNamed (expected text : String) :
    (textNamed expected).Accepts (ofText text) text := by
  refine ⟨isValue_ofText text, ?_⟩
  rw [ofText, textNamed, Literal.text_ofText]
  rfl

theorem faithful_text : Faithful text ofText where
  again _ := accepts_textNamed _ _
  ne_null _ h := by cases h

theorem faithful_path : Faithful path ofText where
  again _ := accepts_textNamed _ _
  ne_null _ h := by cases h

theorem faithful_real : Faithful real ofReal where
  again {given value} := by
    rintro ⟨hvalue, hread⟩
    refine ⟨isValue_ofReal.mpr ?_, rfl⟩
    unfold real at hread
    split at hread
    · cases hread
      cases hvalue with
      | number h => exact h
    · cases hread
      cases hvalue with
      | number h =>
        obtain ⟨hlow, hhigh⟩ := h
        exact Binary64.isFinite_ofInt (by omega)
    · cases hread
  ne_null _ h := by cases h

theorem faithful_count : Faithful count ofCount where
  again {given value} := by
    rintro ⟨hvalue, hread⟩
    refine ⟨isValue_ofCount.mpr ?_, rfl⟩
    unfold count at hread
    split at hread
    · cases hread
      cases hvalue with
      | number h => exact Int.ofNat_lt.mp h.2
    · cases hread
    · cases hread
  ne_null _ h := by cases h

/-! ## Lists -/

theorem items_eq_ok_iff {inner : Decoder α} {trees : List Tree} {values : List α} :
    items inner trees = .ok values ↔
      List.Forall₂ (fun tree value => inner tree = .ok value) trees values := by
  induction trees generalizing values with
  | nil =>
    rw [items, List.forall₂_nil_left_iff]
    exact ⟨fun h => by cases h; rfl, fun h => by rw [h]⟩
  | cons tree rest ih =>
    rw [items, List.forall₂_cons_left_iff]
    cases inner tree with
    | error fault => simp
    | ok value =>
      simp only [← ih]
      cases items inner rest with
      | error fault => simp [Except.map]
      | ok others => simp [Except.map, eq_comm]

theorem listOf_eq_ok_iff {inner : Decoder α} {given : Tree} {values : List α} :
    listOf inner given = .ok values ↔ ∃ trees, given = .list trees none ∧
      List.Forall₂ (fun tree value => inner tree = .ok value) trees values := by
  constructor
  · intro h
    unfold listOf at h
    split at h
    · next trees stop =>
      split at h
      · cases h
      · cases h
      · next hitems =>
        cases h
        exact ⟨trees, rfl, items_eq_ok_iff.mp hitems⟩
    · cases h
    · cases h
  · rintro ⟨trees, rfl, hitems⟩
    simp only [listOf, items_eq_ok_iff.mpr hitems]

theorem accepts_listOf_iff {inner : Decoder α} {given : Tree} {values : List α} :
    (listOf inner).Accepts given values ↔
      ∃ trees, given = .list trees none ∧ List.Forall₂ inner.Accepts trees values := by
  constructor
  · rintro ⟨hvalue, hread⟩
    obtain ⟨trees, rfl, hitems⟩ := listOf_eq_ok_iff.mp hread
    cases hvalue with
    | list hvalues => exact ⟨trees, rfl, (List.forall₂_and_left _ _).mpr ⟨hvalues, hitems⟩⟩
  · rintro ⟨trees, rfl, h⟩
    obtain ⟨hvalues, hitems⟩ := (List.forall₂_and_left _ _).mp h
    exact ⟨.list hvalues, listOf_eq_ok_iff.mpr ⟨trees, rfl, hitems⟩⟩

theorem accepts_nil {inner : Decoder α} {tree : α → Tree} :
    (listOf inner).Accepts (ofList tree []) [] :=
  accepts_listOf_iff.mpr ⟨[], rfl, .nil⟩

theorem Faithful.listOf {inner : Decoder α} {tree : α → Tree} (h : Faithful inner tree) :
    Faithful (listOf inner) (ofList tree) where
  again {given values} hgiven := by
    obtain ⟨trees, rfl, hitems⟩ := accepts_listOf_iff.mp hgiven
    refine accepts_listOf_iff.mpr ⟨values.map tree, rfl, ?_⟩
    rw [List.forall₂_map_left_iff, List.forall₂_same]
    clear hgiven
    induction hitems with
    | nil => exact List.forall_mem_nil _
    | cons hitem _ ih => exact List.forall_mem_cons.mpr ⟨h.again hitem, ih⟩
  ne_null _ h := by cases h

/-! ## Values that may be null -/

theorem nullable_eq_map {inner : Decoder α} {given : Tree} (h : given ≠ .null) :
    nullable inner given = (inner given).map some := by
  cases given with
  | null => exact absurd rfl h
  | _ => rfl

theorem accepts_nullable_some_iff {inner : Decoder α} {given : Tree} (h : given ≠ .null)
    {value : α} : (nullable inner).Accepts given (some value) ↔ inner.Accepts given value := by
  rw [Accepts, Accepts, nullable_eq_map h]
  cases inner given with
  | error fault => simp [Except.map]
  | ok read => simp [Except.map]

theorem Faithful.again_nullable {inner : Decoder α} {tree : α → Tree} (h : Faithful inner tree)
    {given : Tree} {value : Option α} (hgiven : (nullable inner).Accepts given value) :
    (nullable inner).Accepts (ofOption tree value) value := by
  cases value with
  | none => exact ⟨.null, rfl⟩
  | some value =>
    have hnull : given ≠ .null := by
      rintro rfl
      cases hgiven.2
    rw [accepts_nullable_some_iff hnull] at hgiven
    exact (accepts_nullable_some_iff (h.ne_null hgiven)).mpr (h.again hgiven)

/-! ## Values with several shapes -/

theorem choice_eq_ok_iff {name : String} {first : Decoder α} {second : Decoder β}
    {ofFirst : α → γ} {ofSecond : β → γ} {tree : Tree} {value : γ} :
    choice name
        [fun tree => (first tree).map ofFirst, fun tree => (second tree).map ofSecond] tree =
          .ok value ↔
      tree.break? = none ∧
        ((∃ a, first tree = .ok a ∧ ofFirst a = value) ∨
          (∀ a, first tree ≠ .ok a) ∧ ∃ b, second tree = .ok b ∧ ofSecond b = value) := by
  simp only [choice, firstOf, List.findSome?_cons, List.findSome?_nil]
  cases tree.break? with
  | some cause => simp
  | none =>
    cases first tree with
    | ok a => simp [Except.map]
    | error fault =>
      cases second tree with
      | ok b => simp [Except.map]
      | error other => simp [Except.map]

/-- A value in either of two shapes is read again if what is written in the second shape is not
taken for the first one. -/
theorem Faithful.choice {name : String} {first : Decoder α} {second : Decoder β}
    {firstTree : α → Tree} {secondTree : β → Tree} {ofFirst : α → γ} {ofSecond : β → γ}
    {tree : γ → Tree} (hfirst : Faithful first firstTree) (hsecond : Faithful second secondTree)
    (htree : ∀ value, tree (ofFirst value) = firstTree value)
    (htree' : ∀ value, tree (ofSecond value) = secondTree value)
    (hapart : ∀ given value, (∀ a, first given ≠ .ok a) → second given = .ok value →
      ∀ a, first (secondTree value) ≠ .ok a) :
    Faithful
      (choice name
        [fun tree => (first tree).map ofFirst, fun tree => (second tree).map ofSecond]) tree where
  again {given value} := by
    rintro ⟨hvalue, hread⟩
    obtain ⟨-, ⟨a, ha, rfl⟩ | ⟨hnot, b, hb, rfl⟩⟩ := choice_eq_ok_iff.mp hread
    · obtain ⟨hvalue', ha'⟩ := hfirst.again ⟨hvalue, ha⟩
      rw [htree]
      exact ⟨hvalue', choice_eq_ok_iff.mpr ⟨hvalue'.break?_eq_none, .inl ⟨a, ha', rfl⟩⟩⟩
    · obtain ⟨hvalue', hb'⟩ := hsecond.again ⟨hvalue, hb⟩
      rw [htree']
      exact ⟨hvalue', choice_eq_ok_iff.mpr
        ⟨hvalue'.break?_eq_none, .inr ⟨hapart given b hnot hb, b, hb', rfl⟩⟩⟩
  ne_null := by
    rintro given value ⟨hvalue, hread⟩
    obtain ⟨-, ⟨a, ha, rfl⟩ | ⟨-, b, hb, rfl⟩⟩ := choice_eq_ok_iff.mp hread
    · rw [htree]
      exact hfirst.ne_null ⟨hvalue, ha⟩
    · rw [htree']
      exact hsecond.ne_null ⟨hvalue, hb⟩

end Decoder

/-! ## Members -/

namespace Members

/-- A field is there, and it is the first one of its name. -/
def Has (members : Members) (name : String) (tree : Tree) : Prop :=
  ∃ place, find? name 0 members.entries = some (place, tree)

theorem exists_find?_eq_some {name : String} {value : Tree} {entries : List (String × Tree)}
    (hnodup : (entries.map Prod.fst).Nodup) (hmem : (name, value) ∈ entries) (place : Nat) :
    ∃ found, find? name place entries = some (found, value) := by
  induction entries generalizing place with
  | nil => cases hmem
  | cons entry rest ih =>
    rw [List.map_cons, List.nodup_cons] at hnodup
    rcases List.mem_cons.mp hmem with rfl | hrest
    · exact ⟨place, by rw [find?, beq_self_eq_true, if_pos rfl]⟩
    · have hne : (entry.1 == name) = false := by
        rw [beq_eq_false_iff_ne]
        rintro rfl
        exact hnodup.1 (List.mem_map.mpr ⟨_, hrest, rfl⟩)
      rw [find?, hne]
      exact ih hnodup.2 hrest (place + 1)

theorem exists_mem_of_find?_eq_some {name : String} {value : Tree} {found place : Nat}
    {entries : List (String × Tree)} (h : find? name place entries = some (found, value)) :
    ∃ entry ∈ entries, entry.2 = value := by
  induction entries generalizing place with
  | nil => cases h
  | cons entry rest ih =>
    rw [find?] at h
    split at h
    · cases h
      exact ⟨entry, List.mem_cons_self, rfl⟩
    · obtain ⟨other, hmem, hother⟩ := ih h
      exact ⟨other, List.mem_cons_of_mem _ hmem, hother⟩

/-- All fields given are values. -/
def AreValues (members : Members) : Prop := ∀ entry ∈ members.entries, entry.2.IsValue

theorem Has.isValue {members : Members} {name : String} {tree : Tree} (h : members.Has name tree)
    (hvalues : members.AreValues) : tree.IsValue := by
  obtain ⟨place, hfind⟩ := h
  obtain ⟨entry, hmem, rfl⟩ := exists_mem_of_find?_eq_some hfind
  exact hvalues entry hmem

theorem exists_mem_of_mem_namedEntries {stop : Option Break} {members : List (Literal × Tree)}
    {entry : String × Tree} (h : entry ∈ (namedEntries stop members).1) :
    ∃ member ∈ members, member.2 = entry.2 := by
  induction members with
  | nil => cases h
  | cons member rest ih =>
    rw [namedEntries] at h
    split at h
    · rcases List.mem_cons.mp h with rfl | h
      · exact ⟨member, List.mem_cons_self, rfl⟩
      · obtain ⟨other, hmem, hother⟩ := ih h
        exact ⟨other, List.mem_cons_of_mem _ hmem, hother⟩
    · cases h

theorem areValues_ofTree? {title : String} {names : List String} {given : Tree}
    {members : Members} (h : ofTree? title names given = some members) (hgiven : given.IsValue) :
    members.AreValues := by
  cases hgiven with
  | list hitems =>
    cases h
    intro entry hmem
    exact hitems entry.2 (List.of_mem_zip hmem).2
  | object hnames hvalues =>
    cases h
    intro entry hmem
    obtain ⟨member, hmember, heq⟩ := exists_mem_of_mem_namedEntries hmem
    exact heq ▸ hvalues member hmember
  | _ => cases h

theorem namedEntries_ofFields (fields : List (String × Tree)) :
    namedEntries none (fields.map fun field => (.ofText field.1, field.2)) = (fields, none) := by
  induction fields with
  | nil => rfl
  | cons field rest ih => simp only [List.map_cons, namedEntries, Literal.text_ofText, ih]

theorem nameFault?_eq_none {names seen : List String} {place : Nat}
    {entries : List (String × Tree)} (hnames : ∀ entry ∈ entries, entry.1 ∈ names)
    (hnodup : (entries.map Prod.fst).Nodup) (hseen : ∀ entry ∈ entries, entry.1 ∉ seen) :
    nameFault? names seen place entries = none := by
  induction entries generalizing seen place with
  | nil => rfl
  | cons entry rest ih =>
    rw [List.forall_mem_cons] at hnames hseen
    rw [List.map_cons, List.nodup_cons] at hnodup
    have hnew : seen.contains entry.1 = false := by simpa using hseen.1
    rw [nameFault?, List.contains_iff_mem.mpr hnames.1, hnew]
    apply ih hnames.2 hnodup.2
    intro other hother hmem
    rcases List.mem_cons.mp hmem with heq | hmem
    · exact hnodup.1 (heq ▸ List.mem_map_of_mem hother)
    · exact hseen.2 other hother hmem

theorem mem_of_nameFault?_eq_none {names seen : List String} {place : Nat}
    {entries : List (String × Tree)} (h : nameFault? names seen place entries = none) :
    ∀ entry ∈ entries, entry.1 ∈ names := by
  induction entries generalizing seen place with
  | nil => exact List.forall_mem_nil _
  | cons entry rest ih =>
    rw [nameFault?] at h
    split at h
    · cases h
    · next hname =>
      split at h
      · cases h
      · rw [List.forall_mem_cons]
        exact ⟨by simpa using hname, ih h⟩

end Members

/-! ## Fields -/

namespace Fields

variable {α β : Type} {members : Members}

/-- The fields give a value with the property `P`. -/
def Gives (fields : Fields α) (members : Members) (P : α → Prop) : Prop :=
  ∃ value, fields members = .ok value ∧ P value

theorem gives_seq {f : Fields (α → β)} {x : Fields α} {P : β → Prop} :
    (f <*> x).Gives members P ↔ f.Gives members fun g => x.Gives members fun a => P (g a) := by
  simp only [Gives, Seq.seq]
  cases f members with
  | ok g =>
    cases x members with
    | ok a => simp
    | error fault => simp
  | error fault =>
    cases x members with
    | ok a => simp
    | error other => simp

theorem gives_pure {value : α} {P : α → Prop} :
    (pure value : Fields α).Gives members P ↔ P value := by
  constructor
  · rintro ⟨_, h, hP⟩
    cases h
    exact hP
  · exact fun hP => ⟨value, rfl, hP⟩

theorem gives_map {g : α → β} {x : Fields α} {P : β → Prop} :
    (g <$> x).Gives members P ↔ x.Gives members fun a => P (g a) := by
  have hmap : g <$> x = pure g <*> x := rfl
  rw [hmap, gives_seq, gives_pure]

/-- The entries are values, and wherever they are given the fields give `value`. -/
structure Again (fields : Fields α) (entries : List (String × Tree)) (value : α) : Prop where
  areValues : ∀ entry ∈ entries, entry.2.IsValue
  gives : ∀ members : Members, (∀ entry ∈ entries, members.Has entry.1 entry.2) →
    fields.Gives members (· = value)

theorem Again.seq {f : Fields (α → β)} {x : Fields α} {entries others : List (String × Tree)}
    {g : α → β} {a : α} (hf : f.Again entries g) (hx : x.Again others a) :
    (f <*> x).Again (entries ++ others) (g a) where
  areValues := List.forall_mem_append.mpr ⟨hf.areValues, hx.areValues⟩
  gives members h := by
    rw [List.forall_mem_append] at h
    obtain ⟨_, hg, rfl⟩ := hf.gives members h.1
    obtain ⟨_, ha, rfl⟩ := hx.gives members h.2
    exact gives_seq.mpr ⟨_, hg, _, ha, rfl⟩

theorem Again.map {g : α → β} {x : Fields α} {entries : List (String × Tree)} {a : α}
    (hx : x.Again entries a) : (g <$> x).Again entries (g a) where
  areValues := hx.areValues
  gives members h := by
    obtain ⟨_, ha, rfl⟩ := hx.gives members h
    exact gives_map.mpr ⟨_, ha, rfl⟩

variable {name : String} {inner : Decoder α} {tree : α → Tree}

theorem again_field {absent : Members → Except Placed α} {given : Tree} {value : α}
    (h : inner.Accepts given value) : (field name absent inner).Again [(name, given)] value where
  areValues := List.forall_mem_singleton.mpr h.1
  gives members hgiven := by
    obtain ⟨place, hfind⟩ := List.forall_mem_singleton.mp hgiven
    refine ⟨value, ?_, rfl⟩
    simp only [field, hfind, h.2]
    rfl

theorem exists_of_field {absent : Members → Except Placed α} {value : α}
    (h : field name absent inner members = .ok value) (hvalues : members.AreValues) :
    absent members = .ok value ∨ ∃ given, inner.Accepts given value := by
  unfold field at h
  split at h
  · next given hfind =>
    cases hinner : inner given with
    | ok read =>
      rw [hinner] at h
      cases h
      exact .inr ⟨given, Members.Has.isValue ⟨_, hfind⟩ hvalues, hinner⟩
    | error fault =>
      rw [hinner] at h
      cases h
  · exact .inl h

theorem required_again (hinner : Decoder.Faithful inner tree) (hvalues : members.AreValues)
    {value : α} (h : required name inner members = .ok value) :
    (required name inner).Again [(name, tree value)] value := by
  rcases exists_of_field h hvalues with h | ⟨given, hgiven⟩
  · cases h
  · exact again_field (hinner.again hgiven)

theorem withDefault_again (hinner : Decoder.Faithful inner tree) (hvalues : members.AreValues)
    {default value : α} (hdefault : inner.Accepts (tree default) default)
    (h : withDefault name default inner members = .ok value) :
    (withDefault name default inner).Again [(name, tree value)] value := by
  rcases exists_of_field h hvalues with h | ⟨given, hgiven⟩
  · cases h
    exact again_field hdefault
  · exact again_field (hinner.again hgiven)

theorem optional_again (hinner : Decoder.Faithful inner tree) (hvalues : members.AreValues)
    {value : Option α} (h : optional name inner members = .ok value) :
    (optional name inner).Again [(name, ofOption tree value)] value := by
  rw [optional, withDefault] at h ⊢
  rcases exists_of_field h hvalues with h | ⟨given, hgiven⟩
  · cases h
    exact again_field ⟨.null, rfl⟩
  · exact again_field (hinner.again_nullable hgiven)

end Fields

/-! ## Records -/

namespace Decoder

variable {α : Type} {title : String} {names : List String} {fields : Fields α}

theorem exists_of_record {given : Tree} {value : α}
    (h : record title names fields given = .ok value) :
    ∃ members, Members.ofTree? title names given = some members ∧ fields members = .ok value := by
  unfold record recordWith at h
  split at h
  · split at h
    · cases h
    · cases h
  · next members hmembers =>
    split at h
    · next read hread hnone =>
      cases h
      exact ⟨members, hmembers, hread⟩
    · cases h
    · cases h

theorem record_ofFields {entries : List (String × Tree)} {value : α}
    (hentries : entries.map Prod.fst = names) (hnodup : names.Nodup)
    (h : fields.Again entries value) : record title names fields (ofFields entries) = .ok value := by
  have hkeys : (entries.map Prod.fst).Nodup := hentries ▸ hnodup
  have hcheck : Members.nameFault? names [] 0 entries = none := by
    refine Members.nameFault?_eq_none ?_ hkeys fun _ _ => List.not_mem_nil
    intro entry hmem
    exact hentries ▸ List.mem_map_of_mem hmem
  obtain ⟨_, hgives, rfl⟩ := h.gives ⟨title, names, false, entries, none⟩ fun entry hmem =>
    Members.exists_find?_eq_some hkeys hmem 0
  simp only [record, recordWith, ofFields, Members.ofTree?, Members.namedEntries_ofFields, hgives,
    hcheck, Members.stopFault?]
  rfl

/-- A record is not read from fields of which one is unknown to it. -/
theorem record_ofFields_ne_ok {entries : List (String × Tree)} {entry : String × Tree}
    (hmem : entry ∈ entries) (hunknown : entry.1 ∉ names) (value : α) :
    record title names fields (ofFields entries) ≠ .ok value := by
  intro h
  cases hcheck : Members.nameFault? names [] 0 entries with
  | none => exact hunknown (Members.mem_of_nameFault?_eq_none hcheck entry hmem)
  | some fault =>
    simp only [record, recordWith, ofFields, Members.ofTree?, Members.namedEntries_ofFields,
      hcheck] at h
    cases hread : fields ⟨title, names, false, entries, none⟩ with
    | ok read =>
      rw [hread] at h
      cases h
    | error other =>
      rw [hread] at h
      cases h

/-- A record is read again if its fields are. -/
theorem faithful_record {tree : α → Tree} {entries : α → List (String × Tree)}
    (htree : ∀ value, tree value = ofFields (entries value))
    (hentries : ∀ value, (entries value).map Prod.fst = names) (hnodup : names.Nodup)
    (hfields : ∀ members value, members.AreValues → fields.Gives members (· = value) →
      fields.Again (entries value) value) :
    Faithful (record title names fields) tree where
  again {given value} := by
    rintro ⟨hvalue, hread⟩
    obtain ⟨members, hmembers, hgives⟩ := exists_of_record hread
    have hagain : fields.Again (entries value) value :=
      hfields members value (Members.areValues_ofTree? hmembers hvalue) ⟨value, hgives, rfl⟩
    rw [htree]
    exact ⟨isValue_ofFields.mpr hagain.areValues, record_ofFields (hentries value) hnodup hagain⟩
  ne_null _ := by
    rw [htree]
    intro h
    cases h

end Decoder
end PhoneticSearch.Json
