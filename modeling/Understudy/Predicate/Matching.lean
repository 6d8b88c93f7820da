import Understudy.Json.Printer
import Understudy.Memo.Consult
import Understudy.Predicate.Equality

/-!
# Matching values against patterns

A wanted text is a pattern that must match what the value reads as. Objects and arrays are matched
part by part, and other wanted values must be equal. A truth value never matches, and a text that is
no pattern matches nothing.

## Main definitions

* `Matching.text`: a pattern against a text
* `Matching.value`, `Matching.fields`: values, and fields that hold matching values
-/

namespace Understudy.Matching

/-- Whether a pattern matches somewhere in a text. -/
def text (pattern got : String) : Consult Bool := do
  return (← Consult.compiled pattern).any fun compiled => compiled.occursIn got

/-- Whether a pattern matches somewhere in what a value reads as. -/
def plain (pattern : String) (got : Json) : Consult Bool :=
  match got.plainText? with
  | some got => text pattern got
  | none => return false

mutual
/-- Whether a value matches a wanted one. -/
def value : Json → Json → Consult Bool
  | .str pattern, got => plain pattern got
  | .obj want, .obj got => fields want got
  | .arr want, .arr got => if want.length == got.length then items want got else return false
  | .bool _, .bool _ => return false
  | want, got => return Equality.value false want got
termination_by structural want => want

/-- Whether items match the wanted ones, each in its place. -/
def items : List Json → List Json → Consult Bool
  | want :: wants, got :: gots => do
    if ← value want got then items wants gots else return false
  | _, _ => return true
termination_by structural wants => wants

/-- Whether each wanted field is there with a matching value. -/
def fields : List (String × Json) → Fields → Consult Bool
  | [], _ => return true
  | (key, want) :: wants, got =>
    match got.find? key with
    | some got' => do if ← value want got' then fields wants got else return false
    | none => return false
termination_by structural wants => wants
end

end Understudy.Matching
