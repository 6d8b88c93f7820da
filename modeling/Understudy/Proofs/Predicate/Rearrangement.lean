import Understudy.Proofs.Json.Parts
import Understudy.Proofs.Pairing
import Understudy.Proofs.Predicate.Satisfaction
import Understudy.Proofs.Table

/-!
# Equality in any order

Where the order of arrays is ignored, wanted items are paired off with given ones, each with the
first equal one that is left. No choice is ever taken back, which is right because the equality is an
equivalence: two wanted items that equal one given item equal all the same items. That in turn holds
of arrays because it holds of their items, so both are proved together, by induction on the value.

## Main definitions

* `Json.Shuffles`, `Json.Rearranges`: one array of a value in another order, and any number of them
* `Json.Plain`: values in which numbers are whole and objects have each key once

## Main results

* `Equality.value_zigzag`: the equality is difunctional, which makes it an equivalence
* `Equality.value_iff_rearranges`: values are equal in any order if one can be rearranged into the
  other
-/

namespace Understudy

/-! ## Rearrangements -/

namespace Json

/-- One array in the value, at any depth, is put in another order. -/
inductive Shuffles : Json → Json → Prop
  | items {items items' : List Json} : items.Perm items' → Shuffles (.arr items) (.arr items')
  | item {before after : List Json} {item item' : Json} :
    Shuffles item item' → Shuffles (.arr (before ++ item :: after)) (.arr (before ++ item' :: after))
  | field {before after : List (String × Json)} {key : String} {value value' : Json} :
    Shuffles value value' →
      Shuffles (.obj (before ++ (key, value) :: after)) (.obj (before ++ (key, value') :: after))

/-- Arrays in the value, at any depth, are put in another order. -/
def Rearranges : Json → Json → Prop :=
  Relation.ReflTransGen Shuffles

/-- A value in which all numbers are whole and every object has ascending keys. -/
structure Plain (json : Json) : Prop where
  wellFormed : json.WellFormed
  whole : json.Whole

theorem plain_arr_iff {items : List Json} : (Json.arr items).Plain ↔ ∀ item ∈ items, item.Plain := by
  constructor
  · rintro ⟨hwellFormed, hwhole⟩ item hmem
    exact ⟨wellFormed_arr_iff.mp hwellFormed item hmem, whole_arr_iff.mp hwhole item hmem⟩
  · intro h
    exact ⟨wellFormed_arr_iff.mpr fun item hmem => (h item hmem).wellFormed,
      whole_arr_iff.mpr fun item hmem => (h item hmem).whole⟩

theorem plain_obj_iff {fields : List (String × Json)} :
    (Json.obj fields).Plain ↔ Table.Ascending fields ∧ ∀ entry ∈ fields, entry.2.Plain := by
  constructor
  · rintro ⟨hwellFormed, hwhole⟩
    obtain ⟨hasc, hfields⟩ := wellFormed_obj_iff.mp hwellFormed
    exact ⟨hasc, fun entry hmem => ⟨hfields entry hmem, whole_obj_iff.mp hwhole entry hmem⟩⟩
  · rintro ⟨hasc, h⟩
    exact ⟨wellFormed_obj_iff.mpr ⟨hasc, fun entry hmem => (h entry hmem).wellFormed⟩,
      whole_obj_iff.mpr fun entry hmem => (h entry hmem).whole⟩

theorem Plain.item {items : List Json} (h : (Json.arr items).Plain) {item : Json}
    (hmem : item ∈ items) : item.Plain :=
  plain_arr_iff.mp h item hmem

theorem Plain.ascending {fields : List (String × Json)} (h : (Json.obj fields).Plain) :
    Table.Ascending fields :=
  (plain_obj_iff.mp h).1

theorem Plain.field {fields : List (String × Json)} (h : (Json.obj fields).Plain)
    {entry : String × Json} (hmem : entry ∈ fields) : entry.2.Plain :=
  (plain_obj_iff.mp h).2 entry hmem

/-- The value of a field among others. -/
theorem Plain.value {before after : List (String × Json)} {key : String} {value : Json}
    (h : (Json.obj (before ++ (key, value) :: after)).Plain) : value.Plain :=
  h.field (List.mem_append_right _ List.mem_cons_self)

theorem plain_int (n : ℤ) : (Json.int n).Plain :=
  ⟨trivial, fun _ hpart => nomatch hpart⟩

theorem plain_str (text : String) : (Json.str text).Plain :=
  ⟨trivial, fun _ hpart => nomatch hpart⟩

/-- A value in another order is as plain as before. -/
theorem Shuffles.plain {json json' : Json} (h : json.Shuffles json') (hplain : json.Plain) :
    json'.Plain := by
  induction h with
  | items hperm =>
    exact plain_arr_iff.mpr fun item hmem => hplain.item (hperm.mem_iff.mpr hmem)
  | @item before after item item' _ ih =>
    have hitem := ih (hplain.item (by simp))
    refine plain_arr_iff.mpr fun other hmem => ?_
    rcases List.mem_append.mp hmem with hmem | hmem
    · exact hplain.item (List.mem_append_left _ hmem)
    · rcases List.mem_cons.mp hmem with rfl | hmem
      · exact hitem
      · exact hplain.item (List.mem_append_right _ (List.mem_cons_of_mem _ hmem))
  | @field before after key value value' _ ih =>
    have hvalue := ih hplain.value
    refine plain_obj_iff.mpr ⟨?_, fun other hmem => ?_⟩
    · -- the keys are what they were
      have hasc := List.pairwise_map.mpr (show Table.Ascending _ from hplain.ascending)
      exact List.pairwise_map.mp (by simpa using hasc)
    · rcases List.mem_append.mp hmem with hmem | hmem
      · exact hplain.field (List.mem_append_left _ hmem)
      · rcases List.mem_cons.mp hmem with rfl | hmem
        · exact hvalue
        · exact hplain.field (List.mem_append_right _ (List.mem_cons_of_mem _ hmem))

/-- Items of an array that are rearranged rearrange the array. -/
theorem rearranges_arr (before : List Json) {items items' : List Json}
    (h : List.Forall₂ Rearranges items items') :
    Rearranges (.arr (before ++ items)) (.arr (before ++ items')) := by
  induction h generalizing before with
  | nil => exact .refl
  | @cons item item' rest rest' hitem hrest ih =>
    have hfirst : Rearranges (.arr (before ++ item :: rest)) (.arr (before ++ item' :: rest)) :=
      Relation.ReflTransGen.lift (fun value => Json.arr (before ++ value :: rest))
        (fun _ _ => Shuffles.item) _ _ hitem
    have hothers := ih (before ++ [item'])
    simp only [List.append_assoc, List.singleton_append] at hothers
    exact hfirst.trans hothers

/-- Values of an object that are rearranged rearrange the object. -/
theorem rearranges_obj (before : List (String × Json)) {fields fields' : List (String × Json)}
    (h : List.Forall₂ (fun a b => a.1 = b.1 ∧ Rearranges a.2 b.2) fields fields') :
    Rearranges (.obj (before ++ fields)) (.obj (before ++ fields')) := by
  induction h generalizing before with
  | nil => exact .refl
  | @cons entry entry' rest rest' hentry hrest ih =>
    obtain ⟨key, value⟩ := entry
    obtain ⟨key', value'⟩ := entry'
    obtain ⟨rfl, hvalue⟩ := hentry
    have hfirst : Rearranges (.obj (before ++ (key, value) :: rest))
        (.obj (before ++ (key, value') :: rest)) :=
      Relation.ReflTransGen.lift (fun value => Json.obj (before ++ (key, value) :: rest))
        (fun _ _ => Shuffles.field) _ _ hvalue
    have hothers := ih (before ++ [(key, value')])
    simp only [List.append_assoc, List.singleton_append] at hothers
    exact hfirst.trans hothers

end Json

namespace Equality

variable {anyOrder : Bool}

/-! ## Scalars -/

/-- A number that is whole. -/
theorem exists_int_of_whole {number : Number} (h : (Json.num number).Whole) :
    ∃ n, number = .int n := by
  cases number with
  | int n => exact ⟨n, rfl⟩
  | float value => exact absurd .self (h value)

/-- A wanted scalar without a fraction equals itself only. -/
theorem value_iff_eq_of_scalar {want got : Json} (hscalar : want.Scalar) (hwant : want.Whole)
    (hgot : got.Whole) : value anyOrder want got = true ↔ got = want := by
  cases want with
  | arr | obj => exact hscalar.elim
  | num number =>
    obtain ⟨n, rfl⟩ := exists_int_of_whole hwant
    cases got with
    | num number =>
      obtain ⟨m, rfl⟩ := exists_int_of_whole hgot
      simpa [value, Number.sameValue] using eq_comm
    | _ => simp [value]
  | null => cases got <;> simp [value]
  | bool want =>
    cases got with
    | bool got => simpa [value] using eq_comm
    | _ => simp [value]
  | str want =>
    cases got with
    | str got => simpa [value] using eq_comm
    | _ => simp [value]

/-- A scalar without a fraction equals wanted itself only. -/
theorem value_iff_eq_of_scalar_right {want got : Json} (hscalar : got.Scalar)
    (hwant : want.Whole) (hgot : got.Whole) :
    value anyOrder want got = true ↔ got = want := by
  cases want with
  | arr | obj => cases got <;> simp_all [value, Json.Scalar]
  | _ => exact value_iff_eq_of_scalar trivial hwant hgot

/-! ## Arrays -/

/-- Items are equal in some order if there are as many, and pairing them off finds partners. -/
theorem rearranged_iff {wants gots : List Json} :
    rearranged anyOrder wants gots = true ↔
      wants.length = gots.length ∧ (pairOff (value anyOrder) wants gots).isSome = true := by
  induction wants generalizing gots with
  | nil =>
    rw [rearranged, pairOff, List.isEmpty_iff_length_eq_zero]
    simp [eq_comm]
  | cons want wants ih =>
    rw [rearranged, pairOff]
    cases hremove : removeFirst (value anyOrder want) gots with
    | none => simp
    | some left =>
      obtain ⟨before, item, after, rfl, rfl, -⟩ := exists_of_removeFirst hremove
      simp only [ih, Option.bind_some, List.length_cons, List.length_append]
      exact and_congr_left fun _ => by omega

theorem value_arr_iff {wants gots : List Json} :
    value true (.arr wants) (.arr gots) = true ↔
      wants.length = gots.length ∧ (pairOff (value true) wants gots).isSome = true := by
  rw [value, if_pos rfl, rearranged_iff]

/-- What equals a wanted array is an array. -/
theorem exists_of_value_arr {wants : List Json} {got : Json}
    (h : value anyOrder (.arr wants) got = true) : ∃ gots, got = .arr gots := by
  cases got with
  | arr gots => exact ⟨gots, rfl⟩
  | _ => simp [value] at h

/-- What an array equals is wanted as an array. -/
theorem exists_of_value_arr_right {want : Json} {gots : List Json}
    (h : value anyOrder want (.arr gots) = true) : ∃ wants, want = .arr wants := by
  cases want with
  | arr wants => exact ⟨wants, rfl⟩
  | _ => simp [value] at h

/-- An injective assignment between as many items is a bijection. -/
theorem exists_equiv_of_assigned {α β : Type} {test : α → β → Bool} {wants : List α}
    {gots : List β} (hlength : wants.length = gots.length) (h : Assigned test wants gots) :
    ∃ place : Fin wants.length ≃ Fin gots.length, ∀ i, test wants[i] gots[place i] = true := by
  obtain ⟨place, hinj, hfits⟩ := h
  have hbij : Function.Bijective place :=
    (Fintype.bijective_iff_injective_and_card place).mpr ⟨hinj, by simpa using hlength⟩
  exact ⟨Equiv.ofBijective place hbij, hfits⟩

/-! ## Objects -/

theorem exists_of_value_obj {wants : Fields} {got : Json}
    (h : value anyOrder (.obj wants) got = true) : ∃ gots, got = .obj gots := by
  cases got with
  | obj gots => exact ⟨gots, rfl⟩
  | _ => simp [value] at h

theorem exists_of_value_obj_right {want : Json} {gots : Fields}
    (h : value anyOrder want (.obj gots) = true) : ∃ wants, want = .obj wants := by
  cases want with
  | obj wants => exact ⟨wants, rfl⟩
  | _ => simp [value] at h

/-- Two fields have one key, and equal values. -/
def SameField (anyOrder : Bool) (want got : String × Json) : Prop :=
  want.1 = got.1 ∧ value anyOrder want.2 got.2 = true

theorem value_obj_iff {wants gots : Fields} :
    value anyOrder (.obj wants) (.obj gots) = true ↔
      wants.length = gots.length ∧ ∀ want ∈ wants, ∃ got, gots.find? want.1 = some got ∧
        value anyOrder want.2 got = true := by
  rw [value, Bool.and_eq_true, beq_iff_eq, fields_eq_holds, holds, List.all_eq_true]
  simp only [Option.any_eq_true]

/-- **Objects are equal** if their fields are, one by one. -/
theorem value_obj_iff_forall₂ {wants gots : Fields} (hwants : Table.Ascending wants)
    (hgots : Table.Ascending gots) :
    value anyOrder (.obj wants) (.obj gots) = true ↔
      List.Forall₂ (SameField anyOrder) wants gots := by
  rw [value_obj_iff]
  constructor
  · rintro ⟨hlength, hfields⟩
    -- as many keys, each of them there: the keys are the same, and both lists ascend
    have hsubset : wants.map Prod.fst ⊆ gots.map Prod.fst := by
      intro key hkey
      obtain ⟨want, hwant, rfl⟩ := List.mem_map.mp hkey
      obtain ⟨got, hgot, -⟩ := hfields want hwant
      exact List.mem_map.mpr ⟨_, Table.mem_of_find? hgot, rfl⟩
    have hperm : (wants.map Prod.fst).Perm (gots.map Prod.fst) :=
      (hwants.nodup_keys.subperm hsubset).perm_of_length_le (by simp [hlength])
    have hkeys : wants.map Prod.fst = gots.map Prod.fst := by
      refine hperm.eq_of_pairwise (fun a b _ _ (hab : a < b) hba => ?_)
        (List.pairwise_map.mpr hwants) (List.pairwise_map.mpr hgots)
      exact absurd hba (asymm_of (· < ·) hab)
    refine List.forall₂_iff_get.mpr ⟨hlength, fun i hi hi' => ?_⟩
    have hkey : (wants.get ⟨i, hi⟩).1 = (gots.get ⟨i, hi'⟩).1 := by
      have hget := List.getElem_of_eq hkeys (i := i) (by simpa using hi)
      simpa using hget
    obtain ⟨got, hgot, hvalue⟩ := hfields _ (List.get_mem wants ⟨i, hi⟩)
    rw [hkey, ← hgots.mem_iff_find?] at hgot
    have hentry : gots.get ⟨i, hi'⟩ = ((gots.get ⟨i, hi'⟩).1, got) :=
      List.inj_on_of_nodup_map hgots.nodup_keys (List.get_mem gots _) hgot rfl
    refine ⟨hkey, ?_⟩
    rwa [show (gots.get ⟨i, hi'⟩).2 = got from congrArg Prod.snd hentry]
  · intro hfields
    refine ⟨hfields.length_eq, fun want hwant => ?_⟩
    obtain ⟨i, hi, rfl⟩ := List.getElem_of_mem hwant
    obtain ⟨hlength, hget⟩ := List.forall₂_iff_get.mp hfields
    obtain ⟨hkey, hvalue⟩ := hget i hi (hlength ▸ hi)
    refine ⟨_, ?_, hvalue⟩
    rw [← hgots.mem_iff_find?]
    simp only [List.get_eq_getElem] at hkey
    rw [hkey]
    exact List.getElem_mem _

/-! ## An equivalence -/

/-- Where two wanted items equal one given item, all that one of them equals the other equals too:
for the wanted items of an array and given items. -/
theorem uncontested_of_zigzag {wants gots : List Json}
    (h : ∀ want ∈ wants, ∀ later ∈ wants, ∀ got ∈ gots, ∀ got' ∈ gots,
      value true later got = true → value true want got = true → value true want got' = true →
        value true later got' = true) :
    Uncontested (value true) wants gots := by
  refine List.pairwise_of_forall_mem_list fun want hwant later hlater => ?_
  refine List.pairwise_of_forall_mem_list fun got hgot got' hgot' => ?_
  exact fun hwg hwg' hlg => h want hwant later hlater got hgot got' hgot' hlg hwg hwg'

/-- **The equality is difunctional**: if two wanted values equal one given value, all that one of
them equals the other equals too. -/
theorem value_zigzag {want got other got' : Json} (hwant : want.Plain) (hgot : got.Plain)
    (hother : other.Plain) (hgot' : got'.Plain) (h₁ : value true want got = true)
    (h₂ : value true other got = true) (h₃ : value true other got' = true) :
    value true want got' = true := by
  induction want using Json.scalarInduction generalizing got other got' with
  | scalar want hscalar =>
    -- all four values are the same one
    obtain rfl := (value_iff_eq_of_scalar hscalar hwant.whole hgot.whole).mp h₁
    obtain rfl := (value_iff_eq_of_scalar_right hscalar hother.whole hgot.whole).mp h₂
    exact h₃
  | arr wants ih =>
    obtain ⟨gots, rfl⟩ := exists_of_value_arr h₁
    obtain ⟨others, rfl⟩ := exists_of_value_arr_right h₂
    obtain ⟨gots', rfl⟩ := exists_of_value_arr h₃
    have hitems : ∀ want ∈ wants, ∀ got ∈ gots, ∀ other ∈ others, ∀ got' ∈ gots',
        value true want got = true → value true other got = true → value true other got' = true →
          value true want got' = true :=
      fun want hw got hg other ho got' hg' => ih want hw (hwant.item hw) (hgot.item hg)
        (hother.item ho) (hgot'.item hg')
    rw [value_arr_iff] at h₁ h₂ h₃ ⊢
    obtain ⟨p₁, hp₁⟩ := exists_equiv_of_assigned h₁.1 (assigned_of_isSome_pairOff h₁.2)
    obtain ⟨p₂, hp₂⟩ := exists_equiv_of_assigned h₂.1 (assigned_of_isSome_pairOff h₂.2)
    obtain ⟨p₃, hp₃⟩ := exists_equiv_of_assigned h₃.1 (assigned_of_isSome_pairOff h₃.2)
    refine ⟨h₁.1.trans (h₂.1.symm.trans h₃.1), isSome_pairOff_of_assigned ?_ ?_⟩
    · refine uncontested_of_zigzag fun want hw later hl got hg got' hg' => ?_
      exact ih later hl (hwant.item hl) (hgot'.item hg) (hwant.item hw) (hgot'.item hg')
    · -- from the wanted items to the given ones, back to the others and on
      refine ⟨p₁.trans (p₂.symm.trans p₃), Equiv.injective _, fun i => ?_⟩
      have hback := hp₂ (p₂.symm (p₁ i))
      simp only [Equiv.apply_symm_apply] at hback
      exact hitems _ (List.getElem_mem _) _ (List.getElem_mem _) _ (List.getElem_mem _) _
        (List.getElem_mem _) (hp₁ i) hback (hp₃ _)
  | obj wants ih =>
    obtain ⟨gots, rfl⟩ := exists_of_value_obj h₁
    obtain ⟨others, rfl⟩ := exists_of_value_obj_right h₂
    obtain ⟨gots', rfl⟩ := exists_of_value_obj h₃
    rw [value_obj_iff_forall₂ hwant.ascending hgot.ascending] at h₁
    rw [value_obj_iff_forall₂ hother.ascending hgot.ascending] at h₂
    rw [value_obj_iff_forall₂ hother.ascending hgot'.ascending] at h₃
    rw [value_obj_iff_forall₂ hwant.ascending hgot'.ascending]
    obtain ⟨hlength₁, hfields₁⟩ := List.forall₂_iff_get.mp h₁
    obtain ⟨hlength₂, hfields₂⟩ := List.forall₂_iff_get.mp h₂
    obtain ⟨hlength₃, hfields₃⟩ := List.forall₂_iff_get.mp h₃
    refine List.forall₂_iff_get.mpr ⟨by omega, fun i hi hi' => ?_⟩
    obtain ⟨hkey₁, hvalue₁⟩ := hfields₁ i hi (by omega)
    obtain ⟨hkey₂, hvalue₂⟩ := hfields₂ i (by omega) (by omega)
    obtain ⟨hkey₃, hvalue₃⟩ := hfields₃ i (by omega) hi'
    refine ⟨hkey₁.trans (hkey₂.symm.trans hkey₃), ?_⟩
    exact ih _ (List.get_mem wants _) (hwant.field (List.get_mem wants _))
      (hgot.field (List.get_mem gots _)) (hother.field (List.get_mem others _))
      (hgot'.field (List.get_mem gots' _)) hvalue₁ hvalue₂ hvalue₃

/-- **Arrays are equal** in any order if their items correspond one to one. -/
theorem value_arr_iff_assigned {wants gots : List Json} (hwants : (Json.arr wants).Plain)
    (hgots : (Json.arr gots).Plain) :
    value true (.arr wants) (.arr gots) = true ↔
      wants.length = gots.length ∧ Assigned (value true) wants gots := by
  rw [value_arr_iff]
  refine and_congr_right fun _ => ⟨assigned_of_isSome_pairOff, isSome_pairOff_of_assigned ?_⟩
  refine uncontested_of_zigzag fun want hw later hl got hg got' hg' => ?_
  exact value_zigzag (hwants.item hl) (hgots.item hg) (hwants.item hw) (hgots.item hg')

theorem value_refl {want : Json} (hwant : want.Plain) : value true want want = true := by
  induction want using Json.induction with
  | null => rfl
  | bool => simp [value]
  | num number =>
    obtain ⟨n, rfl⟩ := exists_int_of_whole hwant.whole
    simp [value, Number.sameValue]
  | str => simp [value]
  | arr items ih =>
    refine (value_arr_iff_assigned hwant hwant).mpr ⟨rfl, id, Function.injective_id, fun i => ?_⟩
    exact ih _ (List.getElem_mem _) (hwant.item (List.getElem_mem _))
  | obj fields ih =>
    rw [value_obj_iff_forall₂ hwant.ascending hwant.ascending, List.forall₂_same]
    exact fun entry hmem => ⟨rfl, ih entry hmem (hwant.field hmem)⟩

theorem value_symm {want got : Json} (hwant : want.Plain) (hgot : got.Plain)
    (h : value true want got = true) : value true got want = true :=
  value_zigzag hgot hgot hwant hwant (value_refl hgot) h (value_refl hwant)

theorem value_trans {a b c : Json} (ha : a.Plain) (hb : b.Plain) (hc : c.Plain)
    (hab : value true a b = true) (hbc : value true b c = true) : value true a c = true :=
  value_zigzag ha hb hb hc hab (value_refl hb) hbc

/-! ## Equality and rearrangement -/

/-- Corresponding items are items of both lists. -/
theorem forall₂_imp_of_mem {α β : Type} {relation relation' : α → β → Prop} {as : List α}
    {bs : List β} (h : List.Forall₂ relation as bs)
    (himp : ∀ a ∈ as, ∀ b ∈ bs, relation a b → relation' a b) :
    List.Forall₂ relation' as bs := by
  obtain ⟨hlength, hzip⟩ := List.forall₂_iff_zip.mp h
  refine List.forall₂_iff_zip.mpr ⟨hlength, fun {a b} hmem => ?_⟩
  obtain ⟨ha, hb⟩ := List.of_mem_zip hmem
  exact himp a ha b hb (hzip hmem)

/-- Values that are equal in any order can be rearranged into each other. -/
theorem rearranges_of_value {want got : Json} (hwant : want.Plain) (hgot : got.Plain)
    (h : value true want got = true) : want.Rearranges got := by
  induction want using Json.scalarInduction generalizing got with
  | scalar want hscalar =>
    obtain rfl := (value_iff_eq_of_scalar hscalar hwant.whole hgot.whole).mp h
    exact .refl
  | arr wants ih =>
    obtain ⟨gots, rfl⟩ := exists_of_value_arr h
    obtain ⟨hlength, hassigned⟩ := (value_arr_iff_assigned hwant hgot).mp h
    -- the items are rearranged where they are, and then change places
    obtain ⟨picked, hsub, hpicked⟩ := assigned_iff_forall₂.mp hassigned
    have hperm : picked.Perm gots :=
      hsub.perm_of_length_le (by rw [← hlength, hpicked.length_eq])
    have hitems : List.Forall₂ Json.Rearranges wants picked :=
      forall₂_imp_of_mem hpicked fun want hw got hg =>
        ih want hw (hwant.item hw) (hgot.item (hperm.subset hg))
    exact (Json.rearranges_arr [] hitems).tail (.items hperm)
  | obj wants ih =>
    obtain ⟨gots, rfl⟩ := exists_of_value_obj h
    rw [value_obj_iff_forall₂ hwant.ascending hgot.ascending] at h
    refine Json.rearranges_obj [] (forall₂_imp_of_mem h ?_)
    exact fun want hw got hg hsame =>
      ⟨hsame.1, ih want hw (hwant.field hw) (hgot.field hg) hsame.2⟩

/-- A value in another order is equal in any order. -/
theorem value_of_shuffles {json json' : Json} (h : json.Shuffles json') (hplain : json.Plain) :
    value true json json' = true := by
  have hplain' := h.plain hplain
  induction h with
  | @items items items' hperm =>
    refine (value_arr_iff_assigned hplain hplain').mpr ⟨hperm.length_eq, ?_⟩
    refine assigned_iff_forall₂.mpr ⟨items, hperm.subperm, ?_⟩
    exact List.forall₂_same.mpr fun item hmem => value_refl (hplain.item hmem)
  | @item before after item item' hitem ih =>
    have hvalue := ih (hplain.item (by simp)) (hplain'.item (by simp))
    refine (value_arr_iff_assigned hplain hplain').mpr ⟨by simp, ?_⟩
    refine assigned_iff_forall₂.mpr ⟨before ++ item' :: after, .refl _, ?_⟩
    refine List.rel_append (List.forall₂_same.mpr fun other hmem => ?_)
      (.cons hvalue (List.forall₂_same.mpr fun other hmem => ?_))
    · exact value_refl (hplain.item (List.mem_append_left _ hmem))
    · exact value_refl (hplain.item (List.mem_append_right _ (List.mem_cons_of_mem _ hmem)))
  | @field before after key value value' hfield ih =>
    have hvalue := ih hplain.value hplain'.value
    rw [value_obj_iff_forall₂ hplain.ascending hplain'.ascending]
    refine List.rel_append (List.forall₂_same.mpr fun other hmem => ?_)
      (.cons ⟨rfl, hvalue⟩ (List.forall₂_same.mpr fun other hmem => ?_))
    · exact ⟨rfl, value_refl (hplain.field (List.mem_append_left _ hmem))⟩
    · exact ⟨rfl, value_refl (hplain.field
        (List.mem_append_right _ (List.mem_cons_of_mem _ hmem)))⟩

/-- A value that has been rearranged is plain, and equal in any order. -/
theorem value_of_rearranges {json json' : Json} (h : json.Rearranges json')
    (hplain : json.Plain) : json'.Plain ∧ value true json json' = true := by
  induction h with
  | refl => exact ⟨hplain, value_refl hplain⟩
  | tail _ hstep ih =>
    obtain ⟨hmiddle, hvalue⟩ := ih
    exact ⟨hstep.plain hmiddle, value_trans hplain hmiddle (hstep.plain hmiddle) hvalue
      (value_of_shuffles hstep hmiddle)⟩

/-! ## Multiplicities -/

/-- Equal values are equal to the same values. -/
theorem value_congr {item want got : Json} (hitem : item.Plain) (hwant : want.Plain)
    (hgot : got.Plain) (h : value true want got = true) :
    value true item want = value true item got := by
  refine Bool.eq_iff_iff.mpr ⟨fun hw => value_trans hitem hwant hgot hw h, fun hg => ?_⟩
  exact value_trans hitem hgot hwant hg (value_symm hwant hgot h)

/-- **Arrays are equal** in any order if every value has as many equals in one as in the other. -/
theorem value_arr_iff_countP {wants gots : List Json} (hwants : (Json.arr wants).Plain)
    (hgots : (Json.arr gots).Plain) :
    value true (.arr wants) (.arr gots) = true ↔
      ∀ item : Json, item.Plain →
        wants.countP (value true item) = gots.countP (value true item) := by
  rw [value, if_pos rfl]
  rw [Json.plain_arr_iff] at hwants hgots
  induction wants generalizing gots with
  | nil =>
    rw [rearranged, List.isEmpty_iff]
    constructor
    · rintro rfl item -
      rfl
    · intro hcount
      refine List.eq_nil_iff_forall_not_mem.mpr fun got hmem => ?_
      have hzero := List.countP_eq_zero.mp (hcount got (hgots got hmem)).symm got hmem
      exact hzero (value_refl (hgots got hmem))
  | cons want wants ih =>
    obtain ⟨hwant, hwants⟩ := List.forall_mem_cons.mp hwants
    rw [rearranged]
    cases hremove : removeFirst (value true want) gots with
    | none =>
      -- the wanted item itself has no equal among those given
      refine iff_of_false Bool.false_ne_true fun hcount => ?_
      have hzero : gots.countP (value true want) = 0 :=
        List.countP_eq_zero.mpr fun got hmem => by
          simp [removeFirst_eq_none_iff.mp hremove got hmem]
      have hone := hcount want hwant
      rw [hzero, List.countP_cons_of_pos (value_refl hwant)] at hone
      omega
    | some left =>
      -- the item that is taken counts wherever the wanted one does
      obtain ⟨before, taken, after, rfl, rfl, htaken, -⟩ := exists_of_removeFirst hremove
      have hplain := hgots taken (by simp)
      rw [ih hwants fun got hmem => hgots got (by
        rcases List.mem_append.mp hmem with hmem | hmem <;> simp [hmem])]
      refine forall₂_congr fun item hitem => ?_
      have hsame := value_congr hitem hwant hplain htaken
      simp only [List.countP_cons, List.countP_append, hsame]
      omega

/-- **Equality in any order** is rearrangement. Plain values are equal if arrays in the one, at any
depth, can be put in another order so that it becomes the other; for arrays, if their items
correspond one to one to equal items. The equality is an equivalence, does not change when a side is
rearranged, and holds of no two arrays in which some value has different numbers of equals. -/
theorem value_iff_rearranges {want got other : Json} (hwant : want.Plain) (hgot : got.Plain)
    (hother : other.Plain) :
    (value true want got = true ↔ want.Rearranges got) ∧
    (∀ wants gots, want = .arr wants → got = .arr gots →
      (value true want got = true ↔ ∃ place : Fin wants.length ≃ Fin gots.length,
        ∀ i, value true wants[i] gots[place i] = true)) ∧
    (value true want want = true ∧ (value true want got = true → value true got want = true) ∧
      (value true want got = true → value true got other = true → value true want other = true)) ∧
    (∀ want' got', want.Rearranges want' → got.Rearranges got' →
      value true want' got' = value true want got) ∧
    (∀ wants gots, want = .arr wants → got = .arr gots →
      (value true want got = true ↔ ∀ item : Json, item.Plain →
        wants.countP (value true item) = gots.countP (value true item))) := by
  refine ⟨⟨rearranges_of_value hwant hgot, fun h => (value_of_rearranges h hwant).2⟩, ?_,
    ⟨value_refl hwant, value_symm hwant hgot, value_trans hwant hgot hother⟩, ?_, ?_⟩
  · rintro wants gots rfl rfl
    rw [value_arr_iff_assigned hwant hgot]
    constructor
    · rintro ⟨hlength, hassigned⟩
      exact exists_equiv_of_assigned hlength hassigned
    · rintro ⟨place, hfits⟩
      exact ⟨by simpa using Fintype.card_congr place, place, place.injective, hfits⟩
  · intro want' got' hw hg
    obtain ⟨hwant', hvalue⟩ := value_of_rearranges hw hwant
    obtain ⟨hgot', hvalue'⟩ := value_of_rearranges hg hgot
    rw [← value_congr hwant' hgot hgot' hvalue']
    refine Bool.eq_iff_iff.mpr ⟨value_trans hwant hwant' hgot hvalue, fun h => ?_⟩
    exact value_trans hwant' hwant hgot (value_symm hwant hwant' hvalue) h
  · rintro wants gots rfl rfl
    exact value_arr_iff_countP hwant hgot

/-- Both the array and the one inside it have been put in another order. -/
theorem rearranges_inside_out :
    (Json.obj [("k", .arr [.int 1, .arr [.int 2, .str "x"]])]).Plain ∧
      (Json.obj [("k", .arr [.arr [.str "x", .int 2], .int 1])]).Plain ∧
      (Json.obj [("k", .arr [.int 1, .arr [.int 2, .str "x"]])]).Rearranges
        (.obj [("k", .arr [.arr [.str "x", .int 2], .int 1])]) := by
  have hwant : (Json.obj [("k", .arr [.int 1, .arr [.int 2, .str "x"]])]).Plain := by
    simp [Json.plain_obj_iff, Json.plain_arr_iff, Json.plain_int, Json.plain_str, Table.Ascending]
  have hgot : (Json.obj [("k", .arr [.arr [.str "x", .int 2], .int 1])]).Plain := by
    simp [Json.plain_obj_iff, Json.plain_arr_iff, Json.plain_int, Json.plain_str, Table.Ascending]
  exact ⟨hwant, hgot, (value_iff_rearranges hwant hgot hwant).1.mp (by decide)⟩

end Equality

end Understudy
