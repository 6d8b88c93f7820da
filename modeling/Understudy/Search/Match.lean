import Understudy.Call.Basic
import Understudy.Predicate.Sequence
import Understudy.Stub.Basic

/-!
# Stubs and queries

Whether a stub answers a query, how close it comes, and how specific it is. A stub with one
predicate answers queries with one message, or with none if it wants nothing. A stub with ordered
predicates answers queries with as many messages.

## Main definitions

* `Stub.answers`: whether the stub answers a query
* `Stub.closeness`: how close it comes, its priority not counted
* `Stub.specificity`: how many wanted fields a query has
-/

namespace Understudy

/-- Whether no message holds anything. -/
def allEmpty (messages : List Fields) : Bool :=
  messages.all List.isEmpty

namespace Predicate

/-- Whether one predicate answers the messages of a query. -/
def answers (predicate : Predicate) : List Fields → Consult Bool
  | [] => return predicate.isEmpty
  | [message] => if message.isEmpty then return predicate.isEmpty else predicate.accepts message
  | _ => return false

/-- Whether only equal fields are wanted, and at least one. -/
def wantsEqualOnly (predicate : Predicate) : Bool :=
  predicate.equalTo.any (fun want => !want.isEmpty) && predicate.containing.all List.isEmpty
    && predicate.matching.all List.isEmpty && predicate.anyOf.isEmpty

/-- How close one message comes to a predicate. Where only equal fields are wanted it is all or
nothing. -/
def closeness (predicate : Predicate) (message : Fields) : Consult Float :=
  if message.isEmpty then return if predicate.isEmpty then 1 else 0
  else if predicate.wantsEqualOnly then do
    return if ← predicate.accepts message then 1 else 0
  else predicate.rank message

/-- The number of wanted fields that a message has, each map counted on its own. -/
def sharedFields (predicate : Predicate) (message : Fields) : Nat :=
  ((predicate.maps.flatMap fun want => want.map Prod.fst).filter message.has).length

end Predicate

namespace Sequence

/-- Whether ordered predicates answer the messages of a query. At least one of them has to declare
something. -/
def answers (predicates : List Predicate) (messages : List Fields) : Consult Bool :=
  if !predicates.any fun predicate => predicate.declares || !predicate.anyOf.isEmpty then
    return false
  else if allEmpty messages then return predicates.all Predicate.isEmpty
  else
    match predicates, effective messages with
    | [predicate], [message] => predicate.accepts message
    | predicates, _ => accepts predicates messages

/-- How close the messages of a query come to ordered predicates. -/
def closeness (predicates : List Predicate) (messages : List Fields) : Consult Float :=
  if allEmpty messages then return if predicates.all Predicate.isEmpty then 1 else 0
  else
    match predicates, effective messages with
    | [predicate], [message] => predicate.closeness message
    | predicates, _ => rank predicates messages

end Sequence

namespace Stub

/-- What the closeness of a stub with ordered predicates is raised by, so that it comes before an
equivalent one with a single predicate. -/
def orderedBonus : Float := 1000

/-- What the score of a stub is raised by for each point of its priority. -/
def priorityWeight : Float := 10

/-- The part of a stub's score that comes from its priority. -/
def priorityScore (stub : Stub) : Float :=
  Decimal.ofInt stub.priority.toInt * priorityWeight

/-- Whether the stub answers a query. -/
def answers (stub : Stub) (query : Query) : Consult Bool := do
  if ← stub.headers.accepts query.headers then
    match stub.expectation with
    | .single predicate => predicate.answers query.messages
    | .ordered predicates => Sequence.answers predicates query.messages
  else return false

/-- How close the messages of a query come to what the stub expects, on top of a rank of the
headers. -/
def messageCloseness (stub : Stub) (messages : List Fields) (headers : Float) : Consult Float :=
  match stub.expectation with
  | .ordered predicates =>
    if predicates.isEmpty then return headers
    else do return headers + (← Sequence.closeness predicates messages) + orderedBonus
  | .single predicate =>
    match messages with
    | [] => do return headers + (← predicate.closeness [])
    | [message] => do return headers + (← predicate.closeness message)
    | _ => return headers

/-- Whether a query has headers and the stub refuses them. -/
def refusesHeaders (stub : Stub) (query : Query) : Consult Bool :=
  if query.headers.isEmpty then return false
  else do return !(← stub.headers.accepts query.headers)

/-- How close the stub comes to answering a query; zero if it refuses the headers that the query
has. -/
def closeness (stub : Stub) (query : Query) : Consult Float := do
  if ← stub.refusesHeaders query then return 0
  else
    stub.messageCloseness query.messages (← stub.headers.rank query.headers)

/-- The number of wanted fields that the messages of a query have, position by position. -/
def specificity (stub : Stub) (messages : List Fields) : Nat :=
  match stub.expectation with
  | .ordered predicates =>
    (List.zipWith Predicate.sharedFields predicates messages).foldl (· + ·) 0
  | .single predicate =>
    match messages with
    | [message] => predicate.sharedFields message
    | _ => 0

end Stub

end Understudy
