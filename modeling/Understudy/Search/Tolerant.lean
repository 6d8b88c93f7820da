import Understudy.Predicate.Message
import Understudy.Text.Spelling

/-!
# Predicates under either spelling

Within a call whose messages come one by one, a wanted field is found in a message under either
conventional spelling of its key. Only the keys of the message itself are looked up so; objects
inside it are compared as they are.

## Main definitions

* `tolerant?`: the field of a message under any spelling of a key
* `Predicate.tolerates`: whether a message satisfies a predicate
* `Predicate.hits`: how many wanted fields it satisfies, weighted
-/

namespace Understudy

/-- The field of a message under a key as it is, in camel case or in snake case. -/
def tolerant? (message : Fields) (key : String) : Option Json :=
  (message.find? key).or
    ((message.find? (Text.camelCase key)).or (message.find? (Text.snakeCase key)))

/-- Whether the message has a wanted field and its value passes a test. -/
def tolerantTest (message : Fields) (test : Json → Json → Consult Bool) (want : String × Json) :
    Consult Bool :=
  match tolerant? message want.1 with
  | some got => test want.2 got
  | none => return false

/-- The test for equal values. -/
def equalTest (anyOrder : Bool) (want got : Json) : Consult Bool :=
  return Equality.value anyOrder want got

/-- The test for contained values. -/
def containedTest (want got : Json) : Consult Bool :=
  return Containment.value want got

namespace Predicate

/-- Whether the maps of a predicate hold, one after the other. -/
def mapsTolerate (anyOrder : Bool) (equalTo containing matching : Option Fields)
    (message : Fields) : Consult Bool := do
  if ← Consult.all (tolerantTest message (equalTest anyOrder)) (equalTo.getD []) then
    if ← Consult.all (tolerantTest message containedTest) (containing.getD []) then
      Consult.all (tolerantTest message Matching.value) (matching.getD [])
    else return false
  else return false

mutual
/-- Whether a message satisfies the predicate. One that wants nothing is satisfied at once. -/
def tolerates : Predicate → Fields → Consult Bool
  | ⟨anyOrder, equalTo, containing, matching, anyOf⟩, message =>
    if isEmpty ⟨anyOrder, equalTo, containing, matching, anyOf⟩ then return true
    else do
      if ← mapsTolerate anyOrder equalTo containing matching message then
        if anyOf.isEmpty then return true else anyTolerates anyOf message
      else return false
termination_by structural predicate => predicate

/-- Whether a message satisfies one of some predicates. -/
def anyTolerates : List Predicate → Fields → Consult Bool
  | [], _ => return false
  | alternative :: rest, message => do
    if ← alternative.tolerates message then return true else anyTolerates rest message
termination_by structural alternatives => alternatives
end

/-- The weight of a wanted field that is equal. -/
def equalHit : Float := 100

/-- The weight of a wanted field that is contained. -/
def containedHit : Float := 10

/-- The weight of a wanted field that matches. -/
def matchedHit : Float := 10

/-- The wanted fields that a message satisfies, weighted; one if nothing is wanted. Alternatives do
not count. -/
def hits (predicate : Predicate) (message : Fields) : Consult Float :=
  if predicate.isEmpty then return 1
  else do
    let equal ← Consult.count (tolerantTest message (equalTest predicate.anyOrder))
      (predicate.equalTo.getD [])
    let contained ← Consult.count (tolerantTest message containedTest)
      (predicate.containing.getD [])
    let matched ← Consult.count (tolerantTest message Matching.value)
      (predicate.matching.getD [])
    return Decimal.ofNat equal * equalHit + Decimal.ofNat contained * containedHit
      + Decimal.ofNat matched * matchedHit

end Predicate

end Understudy
