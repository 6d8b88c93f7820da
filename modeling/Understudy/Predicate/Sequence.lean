import Understudy.Predicate.Message

/-!
# Predicates on sequences of messages

An ordered list of predicates against the messages of a call, one predicate for each message. An
empty message at the end only closes the call and is left out.

## Main definitions

* `effective`: the messages that count
* `Sequence.accepts`: whether every message satisfies its predicate
* `Sequence.rank`: how close the messages come, messages that satisfy their predicates first
-/

namespace Understudy

/-- The messages of a call without an empty one at the end. -/
def effective (messages : List Fields) : List Fields :=
  match messages.getLast? with
  | some [] => messages.dropLast
  | _ => messages

namespace Sequence

/-- Whether a message satisfies a predicate that wants something. -/
def satisfies (predicate : Predicate) (message : Fields) : Consult Bool :=
  if predicate.isEmpty then return false else predicate.accepts message

/-- Whether there are as many messages as predicates, at least one, and each predicate wants
something that its message satisfies. -/
def accepts (predicates : List Predicate) (messages : List Fields) : Consult Bool :=
  let messages := effective messages
  if messages.length != predicates.length || messages.isEmpty then return false
  else Consult.all (fun pair => satisfies pair.1 pair.2) (predicates.zip messages)

/-- The weight of a message whose wanted equal fields are all there. -/
def equalWeight : Float := 100

/-- The weight of the ranks of the other two maps. -/
def partialWeight : Float := 0.1

/-- The weight of each message. -/
def lengthWeight : Float := 10

/-- The weight of each message that satisfies its predicate. -/
def satisfiedWeight : Float := 1000

/-- The bonus if every message satisfies its predicate. -/
def completeBonus : Float := 10000

/-- The weight of each wanted field. -/
def fieldWeight : Float := 50

/-- Whether a message has all wanted equal fields, of which there are some. -/
def equalHit (predicate : Predicate) (message : Fields) : Bool :=
  predicate.equalTo.any fun want =>
    !want.isEmpty && Equality.fields predicate.anyOrder want message

/-- What messages add to a sum of weights, and to a number of messages that satisfy their
predicates. -/
def tally (sum : Float) (satisfied : Nat) : List (Predicate × Fields) → Consult (Float × Nat)
  | [] => return (sum, satisfied)
  | (predicate, message) :: rest => do
    let contained ← Rank.fields (predicate.containing.getD []) message
    let matched ← Rank.fields (predicate.matching.getD []) message
    let sum := if equalHit predicate message then sum + equalWeight else sum
    let hit ← satisfies predicate message
    tally (sum + (contained + matched) * partialWeight)
      (if hit then satisfied + 1 else satisfied) rest

/-- How close messages come to satisfying their predicates; zero if there are not as many of the one
as of the other, or none. -/
def rank (predicates : List Predicate) (messages : List Fields) : Consult Float :=
  let messages := effective messages
  if messages.length != predicates.length || messages.isEmpty then return 0
  else do
    let (sum, satisfied) ← tally 0 0 (predicates.zip messages)
    let complete := if satisfied = messages.length then completeBonus else 0
    return sum + Decimal.ofNat messages.length * lengthWeight
      + Decimal.ofNat satisfied * satisfiedWeight + complete
      + Decimal.ofNat ((predicates.map Predicate.fieldCount).foldl (· + ·) 0) * fieldWeight

end Sequence

end Understudy
