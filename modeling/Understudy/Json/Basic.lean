import Understudy.Table

/-!
# JSON values

The values that predicates are made of and that messages carry. A whole number is kept exactly when
it fits 64 bits, signed or unsigned; every other number is a binary64 number. The fields of an
object are a table, so two objects with the same fields are the same value.

## Main definitions

* `Number`, `Json`: the values
* `Fields`: the fields of an object, which is also what a message is
* `Json.WellFormed`: every object in a value has ascending keys
-/

namespace Understudy

/-- A number: whole and exact, or binary64. -/
inductive Number where
  | int (value : Int)
  | float (value : Float)
deriving Inhabited, DecidableEq

/-- A JSON value. -/
inductive Json where
  | null
  | bool (value : Bool)
  | num (number : Number)
  | str (text : String)
  | arr (items : List Json)
  | obj (fields : List (String × Json))
deriving Inhabited

/-- The fields of a JSON object: a message, a predicate map or a payload. -/
abbrev Fields := Table String Json

/-- The least and the greatest whole number that is kept exactly. -/
def Number.leastInt : Int := Int64.minValue.toInt

@[inherit_doc Number.leastInt]
def Number.greatestInt : Int := UInt64.size - 1

namespace Json

/-- A whole number as a value. -/
def int (value : Int) : Json := .num (.int value)

/-- A natural number as a value. -/
def nat (value : Nat) : Json := .num (.int value)

/-- The object with some fields, given in any order. -/
def object (fields : List (String × Json)) : Json :=
  .obj (Table.ofList fields)

/-- The fields of an object. -/
def fields? : Json → Option Fields
  | .obj fields => some fields
  | _ => none

/-- The items of an array. -/
def items? : Json → Option (List Json)
  | .arr items => some items
  | _ => none

/-- The text of a string. -/
def str? : Json → Option String
  | .str text => some text
  | _ => none

/-- The truth value of a boolean. -/
def bool? : Json → Option Bool
  | .bool value => some value
  | _ => none

/-- The value of a whole number. -/
def int? : Json → Option Int
  | .num (.int value) => some value
  | _ => none

/-- The value of a whole number between two bounds. -/
def intBetween? (low high : Int) (json : Json) : Option Int :=
  match json.int? with
  | some value => if low ≤ value ∧ value ≤ high then some value else none
  | none => none

mutual
/-- Whether two values are the same in every part. -/
def same : Json → Json → Bool
  | .null, .null => true
  | .bool a, .bool b => a == b
  | .num a, .num b => a = b
  | .str a, .str b => a == b
  | .arr a, .arr b => sameItems a b
  | .obj a, .obj b => sameFields a b
  | _, _ => false
termination_by structural json => json

/-- Whether two arrays are the same, item by item. -/
def sameItems : List Json → List Json → Bool
  | [], [] => true
  | a :: rest, b :: rest' => a.same b && sameItems rest rest'
  | _, _ => false
termination_by structural items => items

/-- Whether two objects are the same, field by field. -/
def sameFields : List (String × Json) → List (String × Json) → Bool
  | [], [] => true
  | (key, a) :: rest, (key', b) :: rest' => key == key' && a.same b && sameFields rest rest'
  | _, _ => false
termination_by structural fields => fields
end

instance : BEq Json := ⟨same⟩

mutual
/-- The value with the fields of every object in ascending order, the last of a repeated key
standing. -/
def ordered : Json → Json
  | .arr items => .arr (orderedItems items)
  | .obj fields => .obj (Table.ofList (orderedFields fields))
  | json => json
termination_by structural json => json

/-- The items with their objects in order. -/
def orderedItems : List Json → List Json
  | [] => []
  | item :: rest => item.ordered :: orderedItems rest
termination_by structural items => items

/-- The fields with the objects in their values in order. -/
def orderedFields : List (String × Json) → List (String × Json)
  | [] => []
  | (key, value) :: rest => (key, value.ordered) :: orderedFields rest
termination_by structural fields => fields
end

mutual
/-- Every object of the value has strictly ascending keys. -/
def WellFormed : Json → Prop
  | .arr items => ItemsWellFormed items
  | .obj fields => Table.Ascending fields ∧ FieldsWellFormed fields
  | _ => True
termination_by structural json => json

@[inherit_doc WellFormed]
def ItemsWellFormed : List Json → Prop
  | [] => True
  | item :: rest => item.WellFormed ∧ ItemsWellFormed rest
termination_by structural items => items

@[inherit_doc WellFormed]
def FieldsWellFormed : List (String × Json) → Prop
  | [] => True
  | (_, value) :: rest => value.WellFormed ∧ FieldsWellFormed rest
termination_by structural fields => fields
end

end Json

end Understudy
