import Mathlib
import Understudy.Json.Basic

/-!
# The parts of a value

The items of an array and the values in an object are parts of it, and so are their parts. What is
said of every part of a value passes to its items and fields, so it can be proved by induction on
the value.

## Main definitions

* `Json.Scalar`: a value has no items or fields
* `Json.Part`: a value is a part of another
* `Json.Whole`: every number in a value is whole

## Main results

* `Json.induction`, `Json.scalarInduction`: induction on a value
-/

namespace Understudy.Json

/-- Induction on a value: what passes from its items and fields to the value is true of all. -/
@[elab_as_elim]
theorem induction {motive : Json → Prop} (null : motive .null)
    (bool : ∀ value, motive (.bool value)) (num : ∀ number, motive (.num number))
    (str : ∀ text, motive (.str text))
    (arr : ∀ items, (∀ item ∈ items, motive item) → motive (.arr items))
    (obj : ∀ fields, (∀ entry ∈ fields, motive entry.2) → motive (.obj fields)) (json : Json) :
    motive json := by
  cases json with
  | null => exact null
  | bool value => exact bool value
  | num number => exact num number
  | str text => exact str text
  | arr items =>
    refine arr items fun item hmem => ?_
    have hlt := List.sizeOf_lt_of_mem hmem
    exact induction null bool num str arr obj item
  | obj fields =>
    refine obj fields fun entry hmem => ?_
    have hlt := List.sizeOf_lt_of_mem hmem
    exact induction null bool num str arr obj entry.2
termination_by json
decreasing_by
  · simp only [Json.arr.sizeOf_spec]
    omega
  · have hentry : sizeOf entry.2 < sizeOf entry := by
      obtain ⟨key, value⟩ := entry
      simp only [Prod.mk.sizeOf_spec]
      omega
    simp only [Json.obj.sizeOf_spec]
    omega

/-- A value that has no parts but itself. -/
def Scalar : Json → Prop
  | .arr _ | .obj _ => False
  | _ => True

/-- Induction on a value where all that have no parts are treated alike. -/
@[elab_as_elim]
theorem scalarInduction {motive : Json → Prop}
    (scalar : ∀ json : Json, json.Scalar → motive json)
    (arr : ∀ items, (∀ item ∈ items, motive item) → motive (.arr items))
    (obj : ∀ fields, (∀ entry ∈ fields, motive entry.2) → motive (.obj fields)) (json : Json) :
    motive json := by
  induction json using Json.induction with
  | null => exact scalar .null trivial
  | bool value => exact scalar (.bool value) trivial
  | num number => exact scalar (.num number) trivial
  | str text => exact scalar (.str text) trivial
  | arr items ih => exact arr items ih
  | obj fields ih => exact obj fields ih

/-- A value is a part of another: itself, or a part of an item or of the value of a field. -/
inductive Part (part : Json) : Json → Prop
  | self : Part part part
  | item {items : List Json} {item : Json} : item ∈ items → Part part item → Part part (.arr items)
  | field {fields : List (String × Json)} {entry : String × Json} :
    entry ∈ fields → Part part entry.2 → Part part (.obj fields)

/-- Every number in the value is whole. -/
def Whole (json : Json) : Prop :=
  ∀ value : Float, ¬ Part (.num (.float value)) json

theorem whole_arr_iff {items : List Json} :
    (Json.arr items).Whole ↔ ∀ item ∈ items, item.Whole := by
  refine ⟨fun h item hmem value hpart => h value (.item hmem hpart), fun h value hpart => ?_⟩
  cases hpart with
  | item hmem hpart => exact h _ hmem value hpart

theorem whole_obj_iff {fields : List (String × Json)} :
    (Json.obj fields).Whole ↔ ∀ entry ∈ fields, entry.2.Whole := by
  refine ⟨fun h entry hmem value hpart => h value (.field hmem hpart), fun h value hpart => ?_⟩
  cases hpart with
  | field hmem hpart => exact h _ hmem value hpart

theorem itemsWellFormed_iff {items : List Json} :
    ItemsWellFormed items ↔ ∀ item ∈ items, item.WellFormed := by
  induction items with
  | nil => simp [ItemsWellFormed]
  | cons item rest ih => rw [ItemsWellFormed, ih, List.forall_mem_cons]

theorem fieldsWellFormed_iff {fields : List (String × Json)} :
    FieldsWellFormed fields ↔ ∀ entry ∈ fields, entry.2.WellFormed := by
  induction fields with
  | nil => simp [FieldsWellFormed]
  | cons entry rest ih => rw [FieldsWellFormed, ih, List.forall_mem_cons]

theorem wellFormed_arr_iff {items : List Json} :
    (Json.arr items).WellFormed ↔ ∀ item ∈ items, item.WellFormed := by
  rw [WellFormed, itemsWellFormed_iff]

theorem wellFormed_obj_iff {fields : List (String × Json)} :
    (Json.obj fields).WellFormed ↔
      Table.Ascending fields ∧ ∀ entry ∈ fields, entry.2.WellFormed := by
  rw [WellFormed, fieldsWellFormed_iff]

end Understudy.Json
