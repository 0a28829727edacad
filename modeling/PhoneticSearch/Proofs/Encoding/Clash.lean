import PhoneticSearch.Proofs.Encoding.FanOut

/-!
# Overlays that clash

* `Overlay.painted`: an overlay with other phones, as many as before.
* `Cell.mem_lay`, `Cell.not_mem_resolve`: when an overlay fans out before the last of those on its
  phone, the later one leaves a phone that it is meant to reach.
* `Cell.lay_ne_resolve`: so applying such overlays one by one is not what they are meant to do.
-/

namespace PhoneticSearch

@[simp] theorem FeatureSet.override_nil (features : FeatureSet) (base : Phone) :
    features.override base [] = base := by
  cases base <;> rfl

theorem zero_bne_or_one_bne (x : Float) :
    ((0 : Float) != x) = true ∨ ((1 : Float) != x) = true := by
  have hbeq : ∀ y : Float, (y == x) = y.toModel.unpack.beq x.toModel.unpack := fun _ => rfl
  simp only [bne, hbeq]
  cases x.toModel.unpack with
  | notANumber => exact .inl rfl
  | infinity s => cases s <;> exact .inl rfl
  | zero s => cases s <;> exact .inr rfl
  | finite s m e hm => cases s <;> exact .inl rfl

/-- A component that shows when it is laid over any other one, and another component. -/
theorem exists_override_eq (features : FeatureSet) :
    ∃ x z : Float, z ≠ x ∧ ∀ y, features.override [y] [x] = [x] := by
  rcases zero_bne_or_one_bne features.unset with h | h
  · exact ⟨0, 1, by decide, fun y => by rw [FeatureSet.override, h]; rfl⟩
  · exact ⟨1, 0, by decide, fun y => by rw [FeatureSet.override, h]; rfl⟩

namespace Overlay

/-- The overlay with as many copies of one phone. -/
def painted (phone : Phone) (overlay : Overlay) : Overlay :=
  { overlay with phones := List.replicate overlay.phones.length phone }

/-- An overlay that changes nothing but the number of phones. -/
def blank (overlay : Overlay) : Overlay := overlay.painted []

end Overlay

variable (features : FeatureSet)

namespace Cell

theorem mem_overlay_blank (overlay : Overlay) {cell : Cell} {phone : Phone}
    (h : phone ∈ cell.phones) :
    phone ∈ (cell.overlay features overlay.offset overlay.blank.phones).phones := by
  have hpos : 0 < cell.phones.length := List.length_pos_of_mem h
  have hlt : min overlay.offset (cell.phones.length - 1) < cell.phones.length := by omega
  obtain ⟨before, base, after, hsplit, hindex⟩ := exists_split hlt
  by_cases hphones : overlay.blank.phones = []
  · rwa [Cell.overlay, hphones]
  · rw [overlay_split features hphones hsplit hindex]
    have hbase : base ∈ overlay.blank.phones.map (features.override base) := by
      obtain ⟨first, rest, hfirst⟩ := List.exists_cons_of_ne_nil hphones
      have hmem : first ∈ overlay.blank.phones := by simp [hfirst]
      have hnil : first = [] := List.eq_of_mem_replicate hmem
      exact List.mem_map.mpr ⟨first, hmem, by rw [hnil, FeatureSet.override_nil]⟩
    rw [hsplit] at h
    simp only [List.mem_append, List.mem_cons] at h ⊢
    rcases h with h | rfl | h
    · exact .inl (.inl h)
    · exact .inl (.inr hbase)
    · exact .inr h

theorem mem_lay_blank (overlays : List Overlay) {cell : Cell} {phone : Phone}
    (h : phone ∈ cell.phones) :
    phone ∈ (cell.lay features (overlays.map Overlay.blank)).phones := by
  induction overlays with
  | nil => exact h
  | cons overlay rest ih => exact mem_overlay_blank features overlay ih

theorem exists_overlay_replicate {offset : Nat} {phones : List Phone} (hphones : phones ≠ [])
    {cell : Cell} {front : List Phone} {copies : Nat} {phone : Phone}
    (hcell : cell.phones = front ++ List.replicate (copies + 1) phone)
    (hoffset : front.length ≤ offset) :
    ∃ index ≤ copies, (cell.overlay features offset phones).phones =
      front ++ List.replicate index phone ++ phones.map (features.override phone) ++
        List.replicate (copies - index) phone := by
  have hlength : cell.phones.length = front.length + (copies + 1) := by simp [hcell]
  obtain ⟨index, hindex⟩ : ∃ index, min offset (cell.phones.length - 1) = front.length + index :=
    ⟨min offset (cell.phones.length - 1) - front.length, by omega⟩
  have hle : index ≤ copies := by omega
  have hsplit : cell.phones = front ++ List.replicate index phone ++
      phone :: List.replicate (copies - index) phone := by
    rw [hcell, List.append_assoc, ← List.replicate_succ, List.replicate_append_replicate]
    congr 2
    omega
  refine ⟨index, hle, ?_⟩
  rw [overlay_split features hphones hsplit (by simpa using hindex)]

/-- Blank overlays on the last phone make copies of it, if one of them fans out more than one. -/
theorem exists_lay_blank {overlays : List Overlay} {cell : Cell} {front : List Phone}
    {phone : Phone} (hcell : cell.phones = front ++ [phone])
    (hphones : ∀ overlay ∈ overlays, overlay.phones ≠ [])
    (hoffset : ∀ overlay ∈ overlays, front.length ≤ overlay.offset) :
    ∃ copies, (cell.lay features (overlays.map Overlay.blank)).phones =
        front ++ List.replicate (copies + 1) phone ∧
      ((∃ overlay ∈ overlays, 2 ≤ overlay.phones.length) → 0 < copies) := by
  induction overlays with
  | nil => exact ⟨0, hcell, by simp⟩
  | cons overlay rest ih =>
    obtain ⟨copies, hlay, hmore⟩ :=
      ih (fun other hmem => hphones other (List.mem_cons_of_mem _ hmem))
        (fun other hmem => hoffset other (List.mem_cons_of_mem _ hmem))
    have hlength : 0 < overlay.phones.length :=
      List.length_pos_iff.mpr (hphones overlay List.mem_cons_self)
    have hblank : overlay.blank.phones ≠ [] := by
      rw [← List.length_pos_iff]
      simpa [Overlay.blank, Overlay.painted] using hlength
    obtain ⟨index, hindex, hnext⟩ := exists_overlay_replicate features hblank hlay
      (hoffset overlay List.mem_cons_self)
    have hcopies : overlay.blank.phones.map (features.override phone) =
        List.replicate overlay.phones.length phone := by
      simp [Overlay.blank, Overlay.painted]
    refine ⟨copies + (overlay.phones.length - 1), ?_, ?_⟩
    · change ((cell.lay features (rest.map Overlay.blank)).overlay features overlay.offset
        overlay.blank.phones).phones = _
      rw [hnext, hcopies, List.append_assoc, List.append_assoc, List.replicate_append_replicate,
        List.replicate_append_replicate]
      congr 2
      omega
    · rintro ⟨other, hmem, htwo⟩
      rcases List.mem_cons.mp hmem with rfl | hmem
      · omega
      · have := hmore ⟨other, hmem, htwo⟩
        omega

/-- An overlay that comes after one that fans out leaves a phone that it is meant for. -/
theorem mem_lay (before : List Overlay) {after : List Overlay} {overlay : Overlay} {cell : Cell}
    {front : List Phone} {phone : Phone} (paint : Phone) (hcell : cell.phones = front ++ [phone])
    (hphones : ∀ other ∈ overlay :: after, other.phones ≠ [])
    (hoffset : ∀ other ∈ overlay :: after, front.length ≤ other.offset)
    (hfan : ∃ other ∈ after, 2 ≤ other.phones.length) :
    phone ∈ (cell.lay features (before.map Overlay.blank ++
      overlay.painted paint :: after.map Overlay.blank)).phones := by
  obtain ⟨copies, hlay, hmore⟩ := exists_lay_blank features hcell
    (fun other hmem => hphones other (List.mem_cons_of_mem _ hmem))
    (fun other hmem => hoffset other (List.mem_cons_of_mem _ hmem))
  have hcopies := hmore hfan
  have hpainted : (overlay.painted paint).phones ≠ [] := by
    rw [← List.length_pos_iff]
    simpa [Overlay.painted, List.length_pos_iff] using hphones overlay List.mem_cons_self
  obtain ⟨index, hindex, hnext⟩ := exists_overlay_replicate features hpainted hlay
    (hoffset overlay List.mem_cons_self)
  have hmem : phone ∈ ((cell.lay features (after.map Overlay.blank)).overlay features
      overlay.offset (overlay.painted paint).phones).phones := by
    rw [hnext]
    simp only [List.mem_append, List.mem_replicate]
    -- of two copies or more only one has been replaced
    rcases Nat.eq_zero_or_pos index with rfl | hpos
    · exact .inr ⟨by omega, trivial⟩
    · exact .inl (.inl (.inr ⟨by omega, trivial⟩))
  rw [lay, List.foldr_append]
  exact mem_lay_blank features before hmem

/-! ## What each overlay is meant to reach -/

theorem mem_of_mem_layOver_blank (overlays : List Overlay) {phones : List Phone} {phone : Phone}
    (h : phone ∈ (overlays.map Overlay.blank).foldr (layOver features) phones) :
    phone ∈ phones := by
  induction overlays generalizing phone with
  | nil => exact h
  | cons overlay rest ih =>
    rw [List.map_cons, List.foldr_cons, layOver, List.mem_flatMap] at h
    obtain ⟨base, hbase, hmem⟩ := h
    obtain ⟨laid, hlaid, rfl⟩ := List.mem_map.mp hmem
    have hnil : laid = [] := List.eq_of_mem_replicate hlaid
    rw [hnil, FeatureSet.override_nil]
    exact ih hbase

theorem eq_of_mem_descendants (before after : List Overlay) (overlay : Overlay) {x y : Float}
    (hx : features.override [y] [x] = [x]) {phone : Phone}
    (h : phone ∈ descendants features (before.map Overlay.blank ++
      overlay.painted [x] :: after.map Overlay.blank) [y]) : phone = [x] := by
  rw [descendants, List.foldr_append, List.foldr_cons] at h
  have hmem := mem_of_mem_layOver_blank features before h
  rw [layOver, List.mem_flatMap] at hmem
  obtain ⟨base, hbase, hmap⟩ := hmem
  obtain ⟨laid, hlaid, rfl⟩ := List.mem_map.mp hmap
  have hbase' : base = [y] :=
    List.mem_singleton.mp (mem_of_mem_layOver_blank features after hbase)
  have hlaid' : laid = [x] := List.eq_of_mem_replicate hlaid
  rw [hbase', hlaid', hx]

theorem filter_painted (before after : List Overlay) (overlay : Overlay) (paint : Phone)
    (p : Overlay → Bool) (hp : ∀ (other : Overlay) (q : Phone), p (other.painted q) = p other) :
    (before.map Overlay.blank ++ overlay.painted paint :: after.map Overlay.blank).filter p =
      (before.filter p).map Overlay.blank ++
        ((if p overlay then [overlay.painted paint] else []) ++
          (after.filter p).map Overlay.blank) := by
  have hblank : p ∘ Overlay.blank = p := funext fun other => hp other []
  rw [List.filter_append, List.filter_cons, List.filter_map, List.filter_map, hblank, hp]
  split <;> rfl

/-- An overlay is meant to reach all phones that come of the last one. -/
theorem not_mem_resolve (before after : List Overlay) {overlay : Overlay} {cell : Cell} {n : Nat}
    {x z : Float} (hx : ∀ y, features.override [y] [x] = [x]) (hxz : z ≠ x)
    (hcell : cell.phones = List.replicate n [x] ++ [[z]]) (hoverlay : overlay.target (n + 1) = n) :
    [z] ∉ (cell.resolve features (before.map Overlay.blank ++
      overlay.painted [x] :: after.map Overlay.blank)).phones := by
  intro hmem
  have hlength : cell.phones.length = n + 1 := by simp [hcell]
  have htarget : ∀ (i : Nat) (other : Overlay) (q : Phone),
      ((other.painted q).target (n + 1) == i) = (other.target (n + 1) == i) := fun _ _ _ => rfl
  change [z] ∈ resolveFrom features _ cell.phones.length 0 cell.phones at hmem
  rw [hlength, hcell, resolveFrom_append, List.mem_append] at hmem
  rcases hmem with hfront | hlast
  · -- nothing but blank overlays goes before the last phone
    rw [resolveFrom, List.mem_flatMap] at hfront
    obtain ⟨⟨phone, i⟩, hentry, hmem⟩ := hfront
    obtain ⟨-, hi, hphone⟩ := List.mem_zipIdx hentry
    have hne : (overlay.target (n + 1) == i) = false := by
      rw [hoverlay, beq_eq_false_iff_ne]
      rw [List.length_replicate] at hi
      omega
    rw [filter_painted _ _ _ _ _ (htarget i), hne, if_neg Bool.false_ne_true, List.nil_append,
      ← List.map_append] at hmem
    have := mem_of_mem_layOver_blank features _ hmem
    simp only [hphone, List.getElem_replicate, List.mem_singleton, List.cons.injEq,
      and_true] at this
    exact hxz this
  · rw [Nat.zero_add, List.length_replicate, resolveFrom_cons,
      filter_painted _ _ _ _ _ (htarget n), hoverlay, beq_self_eq_true, if_pos rfl,
      List.mem_append] at hlast
    rcases hlast with hmem | hmem
    · have := eq_of_mem_descendants features _ _ overlay (hx z) hmem
      exact hxz (List.cons.inj this).1
    · cases hmem

/-- An overlay on the last phone, with one to its right that fans out. -/
theorem lay_ne_resolve (before : List Overlay) {after : List Overlay} {overlay : Overlay}
    {cell : Cell} {n : Nat} {x z : Float} (hx : ∀ y, features.override [y] [x] = [x])
    (hxz : z ≠ x) (hcell : cell.phones = List.replicate n [x] ++ [[z]])
    (hphones : ∀ other ∈ overlay :: after, other.phones ≠ [])
    (hoffset : ∀ other ∈ overlay :: after, n ≤ other.offset)
    (hfan : ∃ other ∈ after, 2 ≤ other.phones.length) :
    cell.lay features (before.map Overlay.blank ++
        overlay.painted [x] :: after.map Overlay.blank) ≠
      cell.resolve features (before.map Overlay.blank ++
        overlay.painted [x] :: after.map Overlay.blank) := by
  intro heq
  have hfront : ∀ other ∈ overlay :: after, (List.replicate n [x]).length ≤ other.offset := by
    intro other hmem
    rw [List.length_replicate]
    exact hoffset other hmem
  have htarget : overlay.target (n + 1) = n := by
    rw [Overlay.target, Nat.add_sub_cancel]
    exact Nat.min_eq_right (hoffset overlay List.mem_cons_self)
  have hlay := mem_lay features before [x] hcell hphones hfront hfan
  rw [heq] at hlay
  exact not_mem_resolve features before after hx hxz hcell htarget hlay

end Cell
end PhoneticSearch
