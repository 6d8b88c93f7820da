import Understudy.Decimal.Reading
import Understudy.Json.Basic

/-!
# Equality of values

A wanted value equals a given one when both are built alike and their numbers have the same value,
however they are written. Objects have the same keys. Arrays agree item by item or, where their
order is ignored, after a rearrangement. Among fields at the top only the wanted ones count.

## Main definitions

* `Number.sameValue`: numbers that have the same value
* `Equality.value`, `Equality.fields`: equal values, and fields that hold equal values
-/

namespace Understudy

/-- The nearest binary64 number. -/
def Number.toFloat : Number → Float
  | .int value => Decimal.ofInt value
  | .float value => value

/-- Whether two numbers have the same value: exactly if both are whole, and as binary64 numbers
otherwise. -/
def Number.sameValue : Number → Number → Bool
  | .int a, .int b => a == b
  | a, b => a.toFloat == b.toFloat

/-- The items without the first that passes a test; `none` if none does. -/
def removeFirst {α : Type} (test : α → Bool) : List α → Option (List α)
  | [] => none
  | item :: rest =>
    if test item then some rest else (removeFirst test rest).map fun kept => item :: kept

namespace Equality

mutual
/-- Whether a value equals a wanted one. -/
def value (anyOrder : Bool) : Json → Json → Bool
  | .null, .null => true
  | .bool want, .bool got => want == got
  | .num want, .num got => want.sameValue got
  | .str want, .str got => want == got
  | .arr want, .arr got =>
    if anyOrder then rearranged anyOrder want got else items anyOrder want got
  | .obj want, .obj got => want.length == got.length && fields anyOrder want got
  | _, _ => false
termination_by structural want => want

/-- Whether items equal the wanted ones, each in its place. -/
def items (anyOrder : Bool) : List Json → List Json → Bool
  | [], [] => true
  | want :: wants, got :: gots => value anyOrder want got && items anyOrder wants gots
  | _, _ => false
termination_by structural wants => wants

/-- Whether items equal the wanted ones in some order. Each wanted item takes the first equal one
that is left. -/
def rearranged (anyOrder : Bool) : List Json → List Json → Bool
  | [], gots => gots.isEmpty
  | want :: wants, gots =>
    match removeFirst (value anyOrder want) gots with
    | some left => rearranged anyOrder wants left
    | none => false
termination_by structural wants => wants

/-- Whether each wanted field is there with an equal value. -/
def fields (anyOrder : Bool) : List (String × Json) → Fields → Bool
  | [], _ => true
  | (key, want) :: wants, got =>
    (got.find? key).any (value anyOrder want) && fields anyOrder wants got
termination_by structural wants => wants
end

end Equality

end Understudy
