import Understudy.Stub.Basic
import Understudy.Wire.Predicate

/-!
# Wire forms of stubs

A stub is a record with the expectation under one of two names, for one message or for several in
order; a stub that gives both is refused. The limit on uses may be given among the options or beside
them, and is written among the options.

## Main definitions

* `Reply.ofJson`, `Reply.toJson`: answers
* `Stub.ofJson`, `Stub.toJson`: stubs
-/

namespace Understudy

namespace Reply

/-- The fields of an answer, in order of position. -/
def fieldOrder : List String :=
  ["headers", "data", "stream", "error", "code", "delay"]

/-- Sets a field. -/
def setField (key : String) (value : Json) (reply : Reply) : Reading Reply :=
  match key with
  | "headers" => do return { reply with headers := ← Wire.texts value }
  | "data" => do return { reply with data := ← Wire.optional Wire.fields value }
  | "stream" => do return { reply with stream := ← Wire.required value.items? }
  | "error" => do return { reply with error := ← Wire.text value }
  | "code" => do return { reply with status := ← Wire.optional Wire.status value }
  | "delay" => do return { reply with delay := ← Wire.optional Wire.delay value }
  | _ => return reply

/-- Reads an answer. -/
def ofJson (json : Json) : Reading Reply :=
  Wire.record fieldOrder setField {} json

/-- The answer as a value. -/
def toJson (reply : Reply) : Json :=
  Json.object (Wire.field? "headers" (Wire.nonemptyTexts reply.headers)
    ++ Wire.field? "data" (reply.data.map .obj)
    ++ Wire.field? "stream" (Wire.nonemptyList reply.stream)
    ++ Wire.field? "error" (Wire.nonemptyText reply.error)
    ++ Wire.field? "code" (reply.status.map fun status => .nat status.number)
    ++ Wire.field? "delay" (reply.delay.map fun delay => .str delay.text))

end Reply

namespace Stub

/-- The fields of a stub as they are written. -/
structure Draft where
  id : Identifier := .nil
  service : String := ""
  method : String := ""
  session : String := ""
  priority : Int64 := 0
  /-- The limit on uses beside the options; that among the options comes first. -/
  times : UInt32 := 0
  optionTimes : UInt32 := 0
  headers : HeaderPredicate := {}
  input : Predicate := {}
  inputs : List Predicate := []
  output : Reply := {}
  responseHeaders : Table String String := []
  responseTrailers : Table String String := []

/-- The fields of a stub, in order of position. -/
def fieldOrder : List String :=
  ["id", "service", "method", "session", "priority", "times", "options", "headers", "input",
    "inputs", "output", "responseHeaders", "responseTrailers"]

/-- Reads the options of a stub, of which there is one: the limit on uses. -/
def timesOption (json : Json) : Reading UInt32 :=
  Wire.record ["times"] (fun key value times => if key = "times" then Wire.word value
    else return times) 0 json

/-- Sets a field. -/
def Draft.setField (key : String) (value : Json) (draft : Draft) : Reading Draft :=
  match key with
  | "id" => do return { draft with id := ← Wire.identifier value }
  | "service" => do return { draft with service := ← Wire.text value }
  | "method" => do return { draft with method := ← Wire.text value }
  | "session" => do return { draft with session := ← Wire.text value }
  | "priority" => do return { draft with priority := ← Wire.int value }
  | "times" => do return { draft with times := ← Wire.word value }
  | "options" => do return { draft with optionTimes := ← timesOption value }
  | "headers" => do return { draft with headers := ← HeaderPredicate.ofJson value }
  | "input" => do return { draft with input := ← Predicate.ofJson value }
  | "inputs" => do return { draft with inputs := ← Predicate.listOfJson value }
  | "output" => do return { draft with output := ← Reply.ofJson value }
  | "responseHeaders" => do return { draft with responseHeaders := ← Wire.texts value }
  | "responseTrailers" => do return { draft with responseTrailers := ← Wire.texts value }
  | _ => return draft

/-- What the two fields for expectations say together. -/
def Draft.expectation (draft : Draft) : Reading Expectation :=
  if draft.inputs.isEmpty then return .single draft.input
  else if draft.input.isUnset then return .ordered draft.inputs
  else throw (.bothExpectations draft.service draft.method)

/-- The stub that the fields describe. -/
def Draft.stub (draft : Draft) : Reading Stub := do
  let expectation ← draft.expectation
  return {
    id := draft.id
    service := draft.service
    method := draft.method
    session := draft.session
    priority := draft.priority
    times := if 0 < draft.optionTimes then draft.optionTimes else draft.times
    headers := draft.headers
    expectation
    reply := draft.output
    responseHeaders := draft.responseHeaders
    responseTrailers := draft.responseTrailers }

/-- Reads a stub. -/
def ofJson (json : Json) : Reading Stub := do
  (← Wire.record fieldOrder Draft.setField {} json).stub

/-- The field for the expectation, if it has to be written. -/
def expectationField : Expectation → List (String × Json)
  | .single predicate =>
    Wire.field? "input" (if predicate.isUnset then none else some predicate.toJson)
  | .ordered predicates =>
    Wire.field? "inputs" (Wire.nonemptyList (Predicate.listToJson predicates))

/-- The stub as a value. -/
def toJson (stub : Stub) : Json :=
  Json.object (
    Wire.field? "id" (if stub.id.isNil then none else some (.str stub.id.text))
    ++ [("service", .str stub.service), ("method", .str stub.method)]
    ++ Wire.field? "session" (Wire.nonemptyText stub.session)
    ++ Wire.field? "priority" (if stub.priority = 0 then none else some (.int stub.priority.toInt))
    ++ Wire.field? "options" (if stub.times = 0 then none
        else some (.obj [("times", .nat stub.times.toNat)]))
    ++ Wire.field? "headers" (if stub.headers.isEmpty then none else some stub.headers.toJson)
    ++ expectationField stub.expectation
    ++ [("output", stub.reply.toJson)]
    ++ Wire.field? "responseHeaders" (Wire.nonemptyTexts stub.responseHeaders)
    ++ Wire.field? "responseTrailers" (Wire.nonemptyTexts stub.responseTrailers))

/-- Whether reading what is written for the stub yields the same stub. -/
def survives (stub : Stub) : Bool :=
  match ofJson stub.toJson with
  | .ok again => again == stub
  | .error _ => false

end Stub

end Understudy
