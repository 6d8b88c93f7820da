import Understudy.Predicate.Basic
import Understudy.Wire.Basic

/-!
# Wire forms of predicates

A predicate is a record of its maps and its alternatives. Maps that are there but empty are written,
and maps that are not there are left out, so that reading what was written yields it again.

## Main definitions

* `Predicate.ofJson`, `Predicate.toJson`: predicates on messages
* `HeaderPredicate.ofJson`, `HeaderPredicate.toJson`: predicates on headers
-/

namespace Understudy

namespace Predicate

/-- The fields of a predicate, in order of position. -/
def fieldOrder : List String :=
  ["ignoreArrayOrder", "equals", "contains", "matches", "any"]

/-- Sets a field other than the alternatives. -/
def setField (key : String) (value : Json) (predicate : Predicate) : Reading Predicate :=
  match key with
  | "ignoreArrayOrder" => do return { predicate with anyOrder := ← Wire.flag value }
  | "equals" => do return { predicate with equalTo := ← Wire.optional Wire.fields value }
  | "contains" => do return { predicate with containing := ← Wire.optional Wire.fields value }
  | "matches" => do return { predicate with matching := ← Wire.optional Wire.fields value }
  | _ => return predicate

mutual
/-- Reads a predicate. -/
def ofJson : Json → Reading Predicate
  | .obj fields => ofFields {} fields
  | .arr items => ofPositions {} fieldOrder items
  | _ => throw .malformed
termination_by structural json => json

/-- Reads several predicates. -/
def listOfJson : Json → Reading (List Predicate)
  | .arr items => ofItems items
  | _ => throw .malformed
termination_by structural json => json

/-- Reads the predicates in an array. -/
def ofItems : List Json → Reading (List Predicate)
  | [] => return []
  | item :: rest => do return (← ofJson item) :: (← ofItems rest)
termination_by structural items => items

/-- Sets the fields of a predicate that are given by name. -/
def ofFields (predicate : Predicate) : List (String × Json) → Reading Predicate
  | [] => return predicate
  | (key, value) :: rest => do
    if key = "any" then ofFields { predicate with anyOf := ← listOfJson value } rest
    else ofFields (← setField key value predicate) rest
termination_by structural fields => fields

/-- Sets the fields of a predicate that are given by position. -/
def ofPositions (predicate : Predicate) (keys : List String) : List Json → Reading Predicate
  | [] => return predicate
  | value :: rest =>
    match keys with
    | [] => throw .malformed
    | key :: keys => do
      if key = "any" then ofPositions { predicate with anyOf := ← listOfJson value } keys rest
      else ofPositions (← setField key value predicate) keys rest
termination_by structural values => values
end

mutual
/-- The predicate as a value. -/
def toJson : Predicate → Json
  | ⟨anyOrder, equalTo, containing, matching, anyOf⟩ =>
    Json.object (Wire.field? "ignoreArrayOrder" (if anyOrder then some (.bool true) else none)
      ++ Wire.field? "equals" (equalTo.map .obj)
      ++ Wire.field? "contains" (containing.map .obj)
      ++ Wire.field? "matches" (matching.map .obj)
      ++ Wire.field? "any" (Wire.nonemptyList (listToJson anyOf)))
termination_by structural predicate => predicate

/-- Several predicates as values. -/
def listToJson : List Predicate → List Json
  | [] => []
  | predicate :: rest => predicate.toJson :: listToJson rest
termination_by structural predicates => predicates
end

end Predicate

namespace HeaderPredicate

/-- The fields of a predicate on headers, in order of position. -/
def fieldOrder : List String :=
  ["equals", "contains", "matches"]

/-- Sets a field. -/
def setField (key : String) (value : Json) (predicate : HeaderPredicate) :
    Reading HeaderPredicate :=
  match key with
  | "equals" => do return { predicate with equalTo := ← Wire.fields value }
  | "contains" => do return { predicate with containing := ← Wire.fields value }
  | "matches" => do return { predicate with matching := ← Wire.fields value }
  | _ => return predicate

/-- Reads a predicate on headers. -/
def ofJson (json : Json) : Reading HeaderPredicate :=
  Wire.record fieldOrder setField {} json

/-- The predicate as a value. -/
def toJson (predicate : HeaderPredicate) : Json :=
  Json.object (Wire.field? "equals" (Wire.nonempty predicate.equalTo)
    ++ Wire.field? "contains" (Wire.nonempty predicate.containing)
    ++ Wire.field? "matches" (Wire.nonempty predicate.matching))

end HeaderPredicate

end Understudy
