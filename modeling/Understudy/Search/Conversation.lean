import Understudy.Search.Match
import Understudy.Search.Tolerant

/-!
# Conversations

A call whose messages come one by one. It opens with all stubs that could answer it, and each
message leaves those whose predicate at its position it satisfies; the best of them answers. Stubs
never come back, so once none is left the call stays without an answer. Only a stub with a single
predicate that answers the first message leaves the call as it was.

## Main definitions

* `Conversation`: a call, the stubs it began with, and how far it has come
* `Conversation.next`: the answer to a message, and the call after it
* `Conversation.candidates`, `Conversation.position?`: the stubs that are left, and the position of
  the next message
-/

namespace Understudy

/-- How far a call has come. -/
inductive Progress where
  /-- No message has been taken in: the next one meets all stubs that the call began with. -/
  | fresh
  /-- The stubs that are left, and the position of the last message. -/
  | narrowing (candidates : List Stub) (position : Nat)
  /-- No stub is left. -/
  | exhausted

/-- A call whose messages come one by one. -/
structure Conversation where
  opening : Opening
  /-- The stubs that the call began with, by ascending identifier. -/
  seed : List Stub
  progress : Progress := .fresh

/-- The answer to a message. -/
structure Turn where
  stub : Stub
  /-- Whether the stub counts as used by this answer. -/
  counts : Bool

namespace Stub

/-- The closeness of a stub with ordered predicates that has none for a position. -/
def pastEnd : Float := 0.1

/-- Whether a message satisfies what the stub expects at a position. A single predicate stands at
every position. -/
def acceptsAt (message : Fields) (position : Nat) (stub : Stub) : Consult Bool :=
  match stub.expectation with
  | .single predicate => predicate.tolerates message
  | .ordered predicates =>
    match predicates[position]? with
    | some predicate => predicate.tolerates message
    | none => return false

/-- How close a message comes to what the stub expects at a position, its priority counted. -/
def rankAt (headers message : Fields) (position : Nat) (stub : Stub) : Consult Float := do
  let closeness ← match stub.expectation with
    | .ordered predicates =>
      match predicates[position]? with
      | some predicate => predicate.hits message
      | none => pure pastEnd
    | .single predicate => do
      let ofHeaders ← stub.headers.rank headers
      let ofMessage ← predicate.rank message
      pure (ofHeaders + ofMessage)
  return closeness + stub.priorityScore

end Stub

namespace Conversation

/-- The stubs that are left. -/
def candidates (conversation : Conversation) : List Stub :=
  match conversation.progress with
  | .fresh => conversation.seed
  | .narrowing candidates _ => candidates
  | .exhausted => []

/-- The position of the next message; none once no stub is left. -/
def position? (conversation : Conversation) : Option Nat :=
  match conversation.progress with
  | .fresh => some 0
  | .narrowing _ position => some (position + 1)
  | .exhausted => none

/-- The stub with the highest rank among a best one so far and some others; ties go to the
earlier. -/
def select (rank : Stub → Consult Float) (best : Option (Float × Stub)) :
    List Stub → Consult (Option (Float × Stub))
  | [] => return best
  | stub :: rest => do
    let score ← rank stub
    let beaten := best.all fun top => top.1 < score
    select rank (if beaten then some (score, stub) else best) rest

/-- How far a call has come when a stub has answered at a position with some stubs left. -/
def after (stub : Stub) (survivors : List Stub) (position : Nat) : Progress :=
  if position = 0 ∧ stub.sequence.isEmpty then .fresh else .narrowing survivors position

/-- The answer to the next message, if a stub is left to give it, and the call after it. -/
def next (conversation : Conversation) (message : Fields) :
    Consult (Option Turn × Conversation) := do
  match conversation.position? with
  | none => return (none, conversation)
  | some position =>
    let survivors ← Consult.filter (Stub.acceptsAt message position) conversation.candidates
    let best ← select (Stub.rankAt conversation.opening.headers message position) none survivors
    match best with
    | none => return (none, { conversation with progress := .exhausted })
    | some (_, stub) =>
      return (some ⟨stub, !stub.sequence.isEmpty || position == 0⟩,
        { conversation with progress := after stub survivors position })

end Conversation

end Understudy
