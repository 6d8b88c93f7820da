import Understudy.Memo.Consult
import Understudy.Stub.Basic

/-!
# Checking stubs

What a stub needs before it is registered: names, an expectation, exactly one kind of answer, and
patterns that compile. Patterns are listed with the places where they stand: those of the headers
first, then those of the predicates, each with its own before those of its alternatives.

## Main definitions

* `Stub.patterns`: the patterns of a stub with their places
* `Stub.Defect`, `Stub.defectBy?`, `Stub.defect?`: the first thing wrong with a stub
* `defects`: the defects of several stubs, by position
-/

namespace Understudy

/-- The place of an item in a list. -/
def itemPlace (place : String) (index : Nat) : String :=
  place ++ "[" ++ toString index ++ "]"

mutual
/-- The patterns in a wanted value, with their places. -/
def Json.patterns (place : String) : Json → List (String × String)
  | .str pattern => [(place, pattern)]
  | .arr items => Json.itemPatterns place 0 items
  | .obj fields => Json.fieldPatterns place fields
  | _ => []
termination_by structural json => json

/-- The patterns in wanted items, with their places. -/
def Json.itemPatterns (place : String) (index : Nat) : List Json → List (String × String)
  | [] => []
  | item :: rest =>
    item.patterns (itemPlace place index) ++ Json.itemPatterns place (index + 1) rest
termination_by structural items => items

/-- The patterns in wanted fields, with their places. -/
def Json.fieldPatterns (place : String) : List (String × Json) → List (String × String)
  | [] => []
  | (key, value) :: rest =>
    value.patterns (place ++ "." ++ key) ++ Json.fieldPatterns place rest
termination_by structural fields => fields
end

mutual
/-- The patterns of a predicate, with their places. -/
def Predicate.patterns (place : String) : Predicate → List (String × String)
  | ⟨_, _, _, matching, anyOf⟩ =>
    Json.fieldPatterns (place ++ ".matches") (matching.getD [])
      ++ Predicate.listPatterns (place ++ ".any") 0 anyOf
termination_by structural predicate => predicate

/-- The patterns of several predicates, with their places. -/
def Predicate.listPatterns (place : String) (index : Nat) :
    List Predicate → List (String × String)
  | [] => []
  | predicate :: rest =>
    predicate.patterns (itemPlace place index) ++ Predicate.listPatterns place (index + 1) rest
termination_by structural predicates => predicates
end

/-- Whether there is an answer in one part: a payload, an error or a status. -/
def Reply.isPlain (reply : Reply) : Bool :=
  !reply.error.isEmpty || reply.data.isSome || reply.status.isSome

namespace Stub

/-- The patterns of a stub, with their places. -/
def patterns (stub : Stub) : List (String × String) :=
  Json.fieldPatterns "headers.matches" stub.headers.matching ++
    match stub.expectation with
    | .single predicate => predicate.patterns "input"
    | .ordered predicates => Predicate.listPatterns "inputs" 0 predicates

/-- What can be wrong with a stub. -/
inductive Defect where
  | serviceMissing
  | methodMissing
  /-- The stub expects nothing. -/
  | expectation
  /-- The stub has no answer, or answers of both kinds. -/
  | reply
  | pattern (place pattern : String)
deriving DecidableEq

/-- The message for a defect, if it does not depend on how a pattern is broken. -/
def Defect.message? : Defect → Option String
  | .serviceMissing => some "service name is missing"
  | .methodMissing => some "method name is missing"
  | .expectation =>
    some "invalid input configuration: must have either 'input' or 'inputs', but not both"
  | .reply =>
    some "invalid output configuration: must have either 'data' or 'stream', but not both"
  | .pattern _ _ => none

/-- Whether the stub expects anything. -/
def expects (stub : Stub) : Bool :=
  match stub.expectation with
  | .single predicate => predicate.declares || !predicate.anyOf.isEmpty
  | .ordered predicates => !predicates.isEmpty

/-- The first thing wrong with a stub, where an oracle tells which texts are patterns. -/
def defectBy? (oracle : Oracle) (stub : Stub) : Option Defect :=
  if stub.service.isEmpty then some .serviceMissing
  else if stub.method.isEmpty then some .methodMissing
  else if !stub.expects then some .expectation
  else if stub.reply.isPlain == !stub.reply.stream.isEmpty then some .reply
  else
    (stub.patterns.find? fun entry => (oracle.compile? entry.2).isNone).map fun entry =>
      .pattern entry.1 entry.2

/-- The first thing wrong with a stub. -/
def defect? (stub : Stub) : Option Defect :=
  stub.defectBy? .standard

end Stub

/-- The defects of some stubs, with the positions of the stubs, from a position on. -/
def defectsFrom (position : Nat) : List Stub → List (Nat × Stub.Defect)
  | [] => []
  | stub :: rest =>
    (stub.defect?.map fun defect => (position, defect)).toList ++ defectsFrom (position + 1) rest

/-- The defects of some stubs, with the positions of the stubs. -/
def defects (stubs : List Stub) : List (Nat × Stub.Defect) :=
  defectsFrom 0 stubs

end Understudy
