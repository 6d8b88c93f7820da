import Understudy.Identifier
import Understudy.Predicate.Basic
import Understudy.Stub.Delay
import Understudy.Stub.Status

/-!
# Stubs

A stub stands in for a method of a service: it says which calls it answers and what the answer is. A
stub expects either one message or several in order, so it can never be both kinds at once.

## Main definitions

* `Expectation`: what a stub asks of the messages of a call
* `Reply`: the answer
* `Stub`, `Stub.kind`: a stub, and the kind of call it answers
-/

namespace Understudy

/-- What a stub asks of the messages of a call. -/
inductive Expectation where
  /-- One predicate for a call with one message. -/
  | single (predicate : Predicate)
  /-- Predicates in order for a call with several messages. -/
  | ordered (predicates : List Predicate)
deriving BEq

instance : Inhabited Expectation := ⟨.single {}⟩

/-- The answer to a call. -/
structure Reply where
  headers : Table String String := []
  data : Option Fields := none
  /-- The messages of an answer in several parts. -/
  stream : List Json := []
  error : String := ""
  status : Option Status := none
  delay : Option Delay := none
deriving Inhabited, BEq

/-- The kinds of calls, by who sends several messages. -/
inductive CallKind where
  | unary
  | clientStream
  | serverStream
  | bidirectional
deriving DecidableEq

/-- A stub. -/
structure Stub where
  /-- Nil until the stub is stored. -/
  id : Identifier := .nil
  service : String := ""
  method : String := ""
  /-- Empty for a stub that every session sees. -/
  session : String := ""
  priority : Int64 := 0
  /-- How often the stub may be used; zero sets no limit. -/
  times : UInt32 := 0
  headers : HeaderPredicate := {}
  expectation : Expectation := .single {}
  reply : Reply := {}
  responseHeaders : Table String String := []
  responseTrailers : Table String String := []
deriving Inhabited, BEq

namespace Stub

/-- The kind of call that the stub answers. -/
def kind (stub : Stub) : CallKind :=
  match stub.expectation, stub.reply.stream.isEmpty with
  | .single _, true => .unary
  | .single _, false => .serverStream
  | .ordered _, true => .clientStream
  | .ordered _, false => .bidirectional

/-- The predicate on the one message, if the stub expects one. -/
def single? (stub : Stub) : Option Predicate :=
  match stub.expectation with
  | .single predicate => some predicate
  | .ordered _ => none

/-- The predicates on messages in order; none if the stub expects one message. -/
def sequence (stub : Stub) : List Predicate :=
  match stub.expectation with
  | .single _ => []
  | .ordered predicates => predicates

/-- Whether a session sees the stub. -/
def visibleTo (session : String) (stub : Stub) : Bool :=
  stub.session.isEmpty || stub.session = session

end Stub

end Understudy
