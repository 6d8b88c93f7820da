import Understudy.Predicate.Equality

/-!
# Containment of values

A value contains a wanted one when a text has it as a part, an object holds each of its fields and
an array holds its items, each in an item of its own. Other values contain what they equal.

## Main definitions

* `Containment.text`: a text inside another
* `Containment.value`, `Containment.fields`: values, and fields that hold containing values
-/

namespace Understudy.Containment

/-- Whether some characters occur in a row among others. -/
def infixOf (want : List Char) : List Char → Bool
  | [] => want.isEmpty
  | c :: rest => want.isPrefixOf (c :: rest) || infixOf want rest

/-- Whether a text holds another one. -/
def text (want got : String) : Bool :=
  infixOf want.toList got.toList

mutual
/-- Whether a value contains a wanted one. -/
def value : Json → Json → Bool
  | .str want, .str got => text want got
  | .obj want, .obj got => fields want got
  | .arr want, .arr got => items want got
  | want, got => Equality.value false want got
termination_by structural want => want

/-- Whether each wanted item is contained in an item of its own. Each takes the first that is
left. -/
def items : List Json → List Json → Bool
  | [], _ => true
  | want :: wants, gots =>
    match removeFirst (value want) gots with
    | some left => items wants left
    | none => false
termination_by structural wants => wants

/-- Whether each wanted field is there with a value that contains the wanted one. -/
def fields : List (String × Json) → Fields → Bool
  | [], _ => true
  | (key, want) :: wants, got => (got.find? key).any (value want) && fields wants got
termination_by structural wants => wants
end

end Understudy.Containment
