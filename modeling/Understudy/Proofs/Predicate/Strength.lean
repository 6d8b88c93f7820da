import Understudy.Proofs.Decimal.Order
import Understudy.Proofs.Predicate.Assignment

/-!
# The strongest comparison

Values that are equal with arrays in order are equal in any order, and what is equal in order is
contained. Both of the weaker comparisons pair off the items of arrays by a laxer test than equality
in order, and take no choice back. That loses nothing here: items that agree one by one are paired
off from the front, where each wanted item finds its own partner first among those that are left,
however many others would do as well.

Neither of the two weaker comparisons implies the other. What is contained need not be equal, and
what is equal in any order need not be contained, since a text may take the place of a longer one.

## Main definitions

* `Json.Numeric`: every number in a value equals itself

## Main results

* `Equality.value_rearranged_of_ordered`: what is equal in order is equal in any order
* `Equality.value_ordered_self`: a value equals itself with arrays in order
* `Equality.ordered_strongest`: equality in order implies the other two comparisons
-/

namespace Understudy

/-! ## Values that equal themselves -/

namespace Json

/-- No number in the value is the one that equals nothing. -/
def Numeric (json : Json) : Prop :=
  ∀ value : Float, Part (.num (.float value)) json → value.isNaN = false

theorem Numeric.item {items : List Json} (h : (Json.arr items).Numeric) {item : Json}
    (hmem : item ∈ items) : item.Numeric :=
  fun value hpart => h value (.item hmem hpart)

theorem Numeric.field {fields : List (String × Json)} (h : (Json.obj fields).Numeric)
    {entry : String × Json} (hmem : entry ∈ fields) : entry.2.Numeric :=
  fun value hpart => h value (.field hmem hpart)

end Json

theorem Number.sameValue_self {number : Number} (h : (Json.num number).Numeric) :
    number.sameValue number = true := by
  cases number with
  | int n => exact beq_self_eq_true n
  | float value =>
    exact Decimal.beq_iff_magnitude.mpr ⟨Decimal.isNaN_iff_magnitude.mp (h value .self), rfl⟩

namespace Equality

/-- Items equal the wanted ones, each in its place, if the values at each place are equal. -/
theorem items_iff_forall₂ {anyOrder : Bool} {wants gots : List Json} :
    items anyOrder wants gots = true ↔
      List.Forall₂ (fun want got => value anyOrder want got = true) wants gots := by
  refine ⟨Containment.forall₂_of_items, fun h => ?_⟩
  induction h with
  | nil => rfl
  | cons hequal _ ih => rw [items, hequal, ih, Bool.and_self]

/-- Arrays are equal in order if their items are equal place by place. -/
theorem value_arr_iff_forall₂ {wants gots : List Json} :
    value false (.arr wants) (.arr gots) = true ↔
      List.Forall₂ (fun want got => value false want got = true) wants gots := by
  rw [value, if_neg Bool.false_ne_true, items_iff_forall₂]

/-- **A value equals itself** with arrays in order. -/
theorem value_ordered_self {json : Json} (hwellFormed : json.WellFormed) (hnumeric : json.Numeric) :
    value false json json = true := by
  induction json using Json.induction with
  | null => rfl
  | bool flag => exact beq_self_eq_true flag
  | num number => exact Number.sameValue_self hnumeric
  | str text => exact beq_self_eq_true text
  | arr items ih =>
    rw [Json.wellFormed_arr_iff] at hwellFormed
    refine value_arr_iff_forall₂.mpr (List.forall₂_same.mpr fun item hmem => ?_)
    exact ih item hmem (hwellFormed item hmem) (hnumeric.item hmem)
  | obj fields ih =>
    -- the keys ascend, so each of them is looked up in its own field
    obtain ⟨hasc, hfields⟩ := Json.wellFormed_obj_iff.mp hwellFormed
    refine (value_obj_iff_forall₂ hasc hasc).mpr (List.forall₂_same.mpr fun entry hmem => ?_)
    exact ⟨rfl, ih entry hmem (hfields entry hmem) (hnumeric.field hmem)⟩

/-! ## Any order -/

/-- Scalars have no order to ignore. -/
theorem value_anyOrder_of_scalar {anyOrder anyOrder' : Bool} {want got : Json}
    (hscalar : want.Scalar) (h : value anyOrder want got = true) :
    value anyOrder' want got = true := by
  cases want with
  | arr | obj => exact hscalar.elim
  | _ => cases got <;> simp_all [value]

/-- **What is equal in order is equal in any order.** -/
theorem value_rearranged_of_ordered {want got : Json} (h : value false want got = true) :
    value true want got = true := by
  induction want using Json.scalarInduction generalizing got with
  | scalar want hscalar => exact value_anyOrder_of_scalar hscalar h
  | arr wants ih =>
    obtain ⟨gots, rfl⟩ := exists_of_value_arr h
    have hitems := value_arr_iff_forall₂.mp h
    -- the partner of each wanted item is the first item left when its turn comes
    refine value_arr_iff.mpr ⟨hitems.length_eq, isSome_pairOff_of_forall₂ ?_⟩
    exact forall₂_imp_of_mem hitems fun want hmem got _ hequal => ih want hmem hequal
  | obj wants ih =>
    obtain ⟨gots, rfl⟩ := exists_of_value_obj h
    obtain ⟨hlength, hfields⟩ := value_obj_iff.mp h
    refine value_obj_iff.mpr ⟨hlength, fun want hmem => ?_⟩
    obtain ⟨got, hgot, hequal⟩ := hfields want hmem
    exact ⟨got, hgot, ih want hmem hequal⟩

/-! ## Fields -/

/-- A comparison of values that is implied by equality in order implies the one of fields. -/
theorem holds_of_ordered {test : Json → Json → Bool}
    (htest : ∀ want got, value false want got = true → test want got = true) {want got : Fields}
    (h : fields false want got = true) : holds (fun key => got.find? key) test want = true := by
  rw [fields_eq_holds] at h
  exact holds_imp (fun entry _ => htest entry.2) h

/-- **Equality in order is the strongest comparison**, of fields and of values: it implies equality
in any order and containment, without any condition on the values. A well-formed value whose numbers
are numbers equals itself in order, and so contains itself. -/
theorem ordered_strongest :
    (∀ want got : Fields, fields false want got = true →
      fields true want got = true ∧ Containment.fields want got = true) ∧
    (∀ want got : Json, value false want got = true →
      value true want got = true ∧ Containment.value want got = true) ∧
    (∀ json : Json, json.WellFormed → json.Numeric →
      value false json json = true ∧ Containment.value json json = true) := by
  refine ⟨fun want got h => ⟨?_, ?_⟩, fun want got h => ⟨value_rearranged_of_ordered h,
    Containment.value_of_ordered h⟩, fun json hwellFormed hnumeric => ?_⟩
  · rw [fields_eq_holds]
    exact holds_of_ordered (fun _ _ => value_rearranged_of_ordered) h
  · rw [Containment.fields_eq_holds]
    exact holds_of_ordered (fun _ _ => Containment.value_of_ordered) h
  · have hself := value_ordered_self hwellFormed hnumeric
    exact ⟨hself, Containment.value_of_ordered hself⟩

/-- Whole numbers and fractions of the same value, inside arrays in an object; and an array that
contains itself, although its first text is a part of its second. -/
theorem ordered_strongest_nested :
    fields true [("rows", .arr [.arr [.num (.float 2.0), .str "pen"], .int 1])]
        [("rows", .arr [.arr [.int 2, .str "pen"], .num (.float 1.0)])] = true ∧
      Containment.value (.arr [.str "a", .str "ab", .num (.float 0.5)])
        (.arr [.str "a", .str "ab", .num (.float 0.5)]) = true := by
  have hnumeric : (Json.arr [.str "a", .str "ab", .num (.float 0.5)]).Numeric := by
    intro value hpart
    cases hpart with
    | item hmem hpart =>
      simp only [List.mem_cons, List.not_mem_nil, or_false] at hmem
      rcases hmem with rfl | rfl | rfl <;> cases hpart
      decide +kernel
  obtain ⟨hfields, -, hself⟩ := ordered_strongest
  refine ⟨(hfields _ _ (by decide +kernel)).1, (hself _ ?_ hnumeric).2⟩
  simp [Json.WellFormed, Json.ItemsWellFormed]

-- the number that equals nothing is the exception
example : value false (.num (.float (0 / 0))) (.num (.float (0 / 0))) = false := by decide +kernel

end Equality

end Understudy
