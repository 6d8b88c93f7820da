import Understudy.Predicate.Containment
import Understudy.Proofs.Predicate.Rearrangement

/-!
# Containment and assignments

An array contains another if each wanted item is contained in an item of its own. The items are
paired off, each wanted item with the first one left that contains it, and no choice is taken back.
Unlike equality, containment is no equivalence: what contains a longer text contains a shorter one,
and what contains a shorter one need not contain the longer. So what is found is the assignment to
first places. It may be missed although there is an assignment, and the order of the items decides
that. Where no item is contested, the answer is whether there is an assignment.

## Main definitions

* `Containment.Compared`: comparing two values compares two of their parts
* `Containment.Settled`: no item is contested in any two arrays that are compared

## Main results

* `Containment.value_arr_iff_firstFit`: arrays are contained by the assignment to first places
* `Containment.value_of_ordered`, `Containment.value_of_rearranged`: what is equal is contained,
  always with arrays in order, and where nothing is contested in any order
-/

namespace Understudy.Containment

/-! ## Arrays -/

theorem items_eq_isSome_pairOff {wants gots : List Json} :
    items wants gots = (pairOff value wants gots).isSome := by
  induction wants generalizing gots with
  | nil => rfl
  | cons want wants ih =>
    rw [items, pairOff]
    cases removeFirst (value want) gots with
    | none => rfl
    | some left => exact ih

theorem value_arr {wants gots : List Json} :
    value (.arr wants) (.arr gots) = (pairOff value wants gots).isSome := by
  rw [value, items_eq_isSome_pairOff]

/-- **An array contains another** if its items can be assigned to the wanted ones, each wanted item
having the first place that the earlier ones leave it. -/
theorem value_arr_iff_firstFit {wants gots : List Json} :
    value (.arr wants) (.arr gots) = true ↔ ∃ place, FirstFit value wants gots place := by
  rw [value_arr, isSome_pairOff_iff_firstFit]

/-- Where nothing is contested, any assignment will do. -/
theorem value_arr_iff_assigned {wants gots : List Json} (hfree : Uncontested value wants gots) :
    value (.arr wants) (.arr gots) = true ↔ Assigned value wants gots := by
  rw [value_arr]
  exact ⟨assigned_of_isSome_pairOff, isSome_pairOff_of_assigned hfree⟩

/-- Where nothing is contested before and after, the order of items makes no difference. -/
theorem value_arr_perm {wants wants' gots gots' : List Json} (hwants : wants.Perm wants')
    (hgots : gots.Perm gots') (hfree : Uncontested value wants gots)
    (hfree' : Uncontested value wants' gots') :
    value (.arr wants') (.arr gots') = value (.arr wants) (.arr gots) := by
  rw [Bool.eq_iff_iff, value_arr_iff_assigned hfree, value_arr_iff_assigned hfree']
  exact ⟨.perm hwants.symm hgots.symm, .perm hwants hgots⟩

/-! ## Equality -/

theorem infixOf_self (chars : List Char) : infixOf chars chars = true := by
  cases chars with
  | nil => rfl
  | cons c rest => simp [infixOf]

theorem text_self (got : String) : text got got = true :=
  infixOf_self _

theorem value_obj_iff {wants gots : Fields} :
    value (.obj wants) (.obj gots) = true ↔
      ∀ want ∈ wants, ∃ got, gots.find? want.1 = some got ∧ value want.2 got = true := by
  rw [value, fields_eq_holds, holds, List.all_eq_true]
  simp only [Option.any_eq_true]

/-- Items that equal the wanted ones, each in its place. -/
theorem forall₂_of_items {anyOrder : Bool} {wants gots : List Json}
    (h : Equality.items anyOrder wants gots = true) :
    List.Forall₂ (fun want got => Equality.value anyOrder want got = true) wants gots := by
  induction wants generalizing gots with
  | nil =>
    cases gots with
    | nil => exact .nil
    | cons => simp [Equality.items] at h
  | cons want wants ih =>
    cases gots with
    | nil => simp [Equality.items] at h
    | cons got gots =>
      rw [Equality.items, Bool.and_eq_true] at h
      exact .cons h.1 (ih h.2)

/-- Scalars contain what they equal. -/
theorem value_of_scalar {anyOrder : Bool} {want got : Json} (hscalar : want.Scalar)
    (h : Equality.value anyOrder want got = true) : value want got = true := by
  cases want with
  | arr | obj => exact hscalar.elim
  | str text =>
    cases got with
    | str got =>
      obtain rfl : text = got := by simpa [Equality.value] using h
      exact text_self text
    | _ => simp [Equality.value] at h
  | _ => cases got <;> simp_all [value, Equality.value]

/-- Objects contain those that they equal if their values do. -/
theorem value_obj_of_equal {anyOrder : Bool} {wants gots : Fields}
    (h : Equality.value anyOrder (.obj wants) (.obj gots) = true)
    (himp : ∀ want ∈ wants, ∀ got, gots.find? want.1 = some got →
      Equality.value anyOrder want.2 got = true → value want.2 got = true) :
    value (.obj wants) (.obj gots) = true := by
  refine value_obj_iff.mpr fun want hmem => ?_
  obtain ⟨got, hgot, hequal⟩ := (Equality.value_obj_iff.mp h).2 want hmem
  exact ⟨got, hgot, himp want hmem got hgot hequal⟩

/-- **What is equal is contained**, arrays being taken in order. -/
theorem value_of_ordered {want got : Json} (h : Equality.value false want got = true) :
    value want got = true := by
  induction want using Json.scalarInduction generalizing got with
  | scalar want hscalar => exact value_of_scalar hscalar h
  | arr wants ih =>
    obtain ⟨gots, rfl⟩ := Equality.exists_of_value_arr h
    rw [Equality.value, if_neg Bool.false_ne_true] at h
    rw [value_arr]
    -- each wanted item finds its own place free, and takes it
    refine isSome_pairOff_of_forall₂ (Equality.forall₂_imp_of_mem (forall₂_of_items h) ?_)
    exact fun want hmem got _ hequal => ih want hmem hequal
  | obj wants ih =>
    obtain ⟨gots, rfl⟩ := Equality.exists_of_value_obj h
    exact value_obj_of_equal h fun want hmem got _ hequal => ih want hmem hequal

/-- Comparing two values compares two others: the values, or what comparing two items of arrays or
the values under one key of objects compares. -/
inductive Compared : Json → Json → Json → Json → Prop
  | self {want got : Json} : Compared want got want got
  | item {wants gots : List Json} {want got want' got' : Json} : want ∈ wants → got ∈ gots →
    Compared want got want' got' → Compared (.arr wants) (.arr gots) want' got'
  | field {wants gots : Fields} {entry : String × Json} {got want' got' : Json} :
    entry ∈ wants → gots.find? entry.1 = some got → Compared entry.2 got want' got' →
      Compared (.obj wants) (.obj gots) want' got'

/-- In no two arrays that are compared is an item contested. -/
def Settled (want got : Json) : Prop :=
  ∀ wants gots, Compared want got (.arr wants) (.arr gots) → Uncontested value wants gots

/-- **What is equal in any order is contained** if no item is contested. -/
theorem value_of_rearranged {want got : Json} (hsettled : Settled want got)
    (h : Equality.value true want got = true) : value want got = true := by
  induction want using Json.scalarInduction generalizing got with
  | scalar want hscalar => exact value_of_scalar hscalar h
  | arr wants ih =>
    obtain ⟨gots, rfl⟩ := Equality.exists_of_value_arr h
    obtain ⟨place, hinj, hfits⟩ := assigned_of_isSome_pairOff (Equality.value_arr_iff.mp h).2
    refine (value_arr_iff_assigned (hsettled _ _ .self)).mpr ⟨place, hinj, fun i => ?_⟩
    refine ih _ (List.getElem_mem _) (fun wants' gots' hcompared => ?_) (hfits i)
    exact hsettled _ _ (.item (List.getElem_mem _) (List.getElem_mem _) hcompared)
  | obj wants ih =>
    obtain ⟨gots, rfl⟩ := Equality.exists_of_value_obj h
    refine value_obj_of_equal h fun want hmem got hgot hequal => ih want hmem ?_ hequal
    exact fun wants' gots' hcompared => hsettled _ _ (.field hmem hgot hcompared)

/-- **Containment of arrays**: the wanted items take first places, which is an injective assignment
to items that contain them. Where nothing is contested it is found if there is one, in whatever
order the items are. What is equal with arrays in order is contained, and so is what is equal in any
order where nothing is contested. -/
theorem arrays_assigned {wants gots : List Json} :
    (value (.arr wants) (.arr gots) = true ↔ ∃ place, FirstFit value wants gots place) ∧
    (value (.arr wants) (.arr gots) = true → Assigned value wants gots) ∧
    (Uncontested value wants gots →
      (value (.arr wants) (.arr gots) = true ↔ Assigned value wants gots)) ∧
    (∀ wants' gots', wants.Perm wants' → gots.Perm gots' → Uncontested value wants gots →
      Uncontested value wants' gots' →
        value (.arr wants') (.arr gots') = value (.arr wants) (.arr gots)) ∧
    (∀ want got, Equality.value false want got = true → value want got = true) ∧
    (∀ want got, Settled want got → Equality.value true want got = true →
      value want got = true) := by
  refine ⟨value_arr_iff_firstFit, fun h => ?_, value_arr_iff_assigned,
    fun _ _ => value_arr_perm, fun _ _ => value_of_ordered, fun _ _ => value_of_rearranged⟩
  rw [value_arr] at h
  exact assigned_of_isSome_pairOff h

/-- Neither text is part of the other, so nothing is contested: the order of items makes no
difference, and what is equal in any order is contained. -/
theorem arrays_assigned_apart :
    value (.arr [.str "ink", .str "pen"]) (.arr [.str "cup", .str "pens", .str "ink"]) =
        value (.arr [.str "pen", .str "ink"]) (.arr [.str "ink", .str "cup", .str "pens"]) ∧
      value (.arr [.str "pen", .str "ink"]) (.arr [.str "ink", .str "pen"]) = true := by
  have hsettled : Settled (.arr [.str "pen", .str "ink"]) (.arr [.str "ink", .str "pen"]) := by
    intro wants gots hcompared
    cases hcompared with
    | self => decide
    | item hwant _ h =>
      -- the items are texts, in which no arrays are compared
      rcases List.mem_pair.mp hwant with rfl | rfl <;> cases h
  obtain ⟨-, -, -, hperm, -, hequal⟩ :=
    @arrays_assigned [.str "pen", .str "ink"] [.str "ink", .str "cup", .str "pens"]
  have hgots := List.perm_append_singleton (Json.str "ink") [.str "cup", .str "pens"]
  exact ⟨hperm _ _ (.swap ..) hgots.symm (by decide) (by decide), hequal _ _ hsettled (by decide)⟩

/-- **An assignment is missed.** The shorter text takes the place of the longer one, and the other
place does not do for that. In another order both are contained, and with their order ignored the
arrays are equal. -/
theorem shorter_takes_place_of_longer :
    value (.arr [.str "a", .str "ab"]) (.arr [.str "ab", .str "a"]) = false ∧
      Assigned value [.str "a", .str "ab"] [.str "ab", .str "a"] ∧
      value (.arr [.str "ab", .str "a"]) (.arr [.str "ab", .str "a"]) = true ∧
      value (.arr [.str "a", .str "ab"]) (.arr [.str "a", .str "ab"]) = true ∧
      Equality.value true (.arr [.str "a", .str "ab"]) (.arr [.str "ab", .str "a"]) = true := by
  refine ⟨by decide, ⟨![1, 0], by decide, ?_⟩, by decide, by decide, by decide⟩
  decide

end Understudy.Containment
