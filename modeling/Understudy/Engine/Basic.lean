import Understudy.Engine.Settings
import Understudy.Search.Conversation
import Understudy.Search.Scan
import Understudy.Store.Lookup
import Understudy.Stub.Filing
import Understudy.Text.Spelling

/-!
# The engine

Stubs are registered, replaced and deleted; queries are answered by the best stub of their route, or
failing that by the closest one; calls with messages one by one are opened and fed. The engine marks
the stubs that have answered. A mark names an identifier, so it outlives the stub, and deleting a
session or clearing the engine takes marks away.

## Main definitions

* `Engine`: the stored stubs, the marks and the settings
* `Engine.put`, `Engine.update`, `Engine.delete`, `Engine.deleteSession`, `Engine.clear`: changes
* `Engine.find`: the answer to a query
* `Engine.converse`, `Engine.next`: a call with messages one by one
* `Engine.all`, `Engine.used`, `Engine.unused`: the stubs by ascending identifier
-/

namespace Understudy

/-- Why a search fails. -/
inductive RouteError where
  | serviceNotFound
  | methodNotFound
  | stubNotFound
deriving DecidableEq

/-- The message for a failure. -/
def RouteError.message : RouteError → String
  | .serviceNotFound => "service not found"
  | .methodNotFound => "method not found"
  | .stubNotFound => "stub not found"

/-- The failure of a search when a part of the route is unknown. -/
def Miss.routeError : Miss → RouteError
  | .left => .serviceNotFound
  | .right => .methodNotFound

/-- The answer to a query. -/
inductive Answer where
  /-- A stub that answers the query. -/
  | found (stub : Stub)
  /-- The closest stub, where none answers. -/
  | similar (stub : Stub)

/-- The registered stubs and what has been used of them. -/
structure Engine where
  store : Store Stub := {}
  /-- The identifiers of stubs that have answered. -/
  marks : List Identifier := []
  /-- The number of stubs from which a route is scanned in chunks. -/
  chunkThreshold : Nat := 100
  /-- The number of stubs in a chunk. -/
  chunkSize : Nat := 50
  /-- Whether the names of methods are spelled as titles before a search. -/
  titleMethods : Bool := false
deriving Inhabited

namespace Engine

/-- The empty engine with some settings; sizes of zero count as one. -/
def ofSettings (settings : Settings) : Engine where
  chunkThreshold := max settings.chunkThreshold 1
  chunkSize := max settings.chunkSize 1
  titleMethods := settings.titleMethods

/-! ## Contents -/

/-- Stubs by ascending identifier. -/
def byId (stubs : List Stub) : List Stub :=
  stubs.mergeSort fun a b => a.id ≤ b.id

/-- The stub of an identifier. -/
def get? (engine : Engine) (id : Identifier) : Option Stub :=
  engine.store.get? id

/-- The number of stubs. -/
def size (engine : Engine) : Nat :=
  engine.store.size

/-- All stubs. -/
def all (engine : Engine) : List Stub :=
  byId engine.store.values

/-- The stubs that are marked. -/
def used (engine : Engine) : List Stub :=
  byId (engine.store.getAll engine.marks)

/-- The stubs that are not marked. -/
def unused (engine : Engine) : List Stub :=
  byId (engine.store.values.filter fun stub => !engine.marks.contains stub.id)

/-! ## Changes -/

/-- Stores stubs as they are. -/
def register (engine : Engine) (stubs : List Stub) : Consult (List Identifier × Engine) := do
  let (ids, store) ← engine.store.upsert stubs
  return (ids, { engine with store })

/-- Some stubs with identifiers for those that have none, by position. -/
def assignIds (fresh : Nat → Identifier) (stubs : List Stub) : List Stub :=
  stubs.mapIdx fun position stub =>
    if stub.id.isNil then { stub with id := fresh position } else stub

/-- Stores stubs, with fresh identifiers for those that have none. -/
def put (engine : Engine) (fresh : Nat → Identifier) (stubs : List Stub) :
    Consult (List Identifier × Engine) :=
  engine.register (assignIds fresh stubs)

/-- Stores those of some stubs that have an identifier. -/
def update (engine : Engine) (stubs : List Stub) : Consult (List Identifier × Engine) :=
  engine.register (stubs.filter fun stub => !stub.id.isNil)

/-- Deletes the stubs of some identifiers, and yields how many there were. -/
def delete (engine : Engine) (ids : List Identifier) : Nat × Engine :=
  let (count, store) := engine.store.delete ids
  (count, { engine with store })

/-- Deletes the stubs of a session with their marks, and yields how many there were. The stubs that
every session sees are no session's. -/
def deleteSession (engine : Engine) (session : String) : Nat × Engine :=
  if session.isEmpty then (0, engine)
  else
    let (ids, store) := engine.store.deleteWhere fun stub => stub.session = session
    (ids.length, { engine with store, marks := engine.marks.filter fun id => !ids.contains id })

/-- Deletes all stubs and all marks. -/
def clear (engine : Engine) : Engine :=
  { engine with store := {}, marks := [] }

/-- Marks an identifier, unless the call only looks. -/
def mark (engine : Engine) (quiet : Bool) (id : Identifier) : Engine :=
  if quiet || engine.marks.contains id then engine
  else { engine with marks := id :: engine.marks }

/-! ## Searches -/

/-- The name of a method as it is searched for. -/
def methodName (engine : Engine) (method : String) : String :=
  if engine.titleMethods then Text.titleCase method else method

/-- The stubs of a route, by descending priority. -/
def route (engine : Engine) (service method : String) :
    Consult (Except RouteError (List Stub)) := do
  return ((← engine.store.findAll service method).map Ranking.toList).mapError Miss.routeError

/-- The stubs of a route that a session sees, by ascending identifier. -/
def visible (engine : Engine) (service method session : String) :
    Consult (Except RouteError (List Stub)) := do
  return (← engine.route service method).map fun stubs =>
    byId (stubs.filter (Stub.visibleTo session))

/-- The stub of an identifier, if it belongs to a route. -/
def named (engine : Engine) (service method : String) (id : Identifier) :
    Consult (Except RouteError Stub) := do
  match (← engine.store.findIn service method id).mapError Miss.routeError with
  | .ok (some stub) => return .ok stub
  | .ok none => return .error .stubNotFound
  | .error failure => return .error failure

/-- The answer that a scan of some stubs gives. -/
def answerOf (stubs : List Stub) (scan : Scan) : Except RouteError Answer :=
  match scan.best.bind fun best => stubs[best.index]? with
  | some stub => .ok (.found stub)
  | none =>
    match scan.similar.bind fun similar => stubs[similar.index]? with
    | some stub => .ok (.similar stub)
    | none => .error .stubNotFound

/-- The scan of a route, in chunks if the route is long. -/
def scanRoute (engine : Engine) (query : Query) (stubs : List Stub) : Consult Scan :=
  if engine.chunkThreshold ≤ stubs.length then scanChunks engine.chunkSize query stubs
  else scan query stubs 0

/-- The best stub of the query's route, or the closest one. -/
def search (engine : Engine) (query : Query) : Consult (Except RouteError Answer) := do
  match ← engine.visible query.service query.method query.session with
  | .ok stubs => return answerOf stubs (← engine.scanRoute query stubs)
  | .error failure => return .error failure

/-- The answer to a query, which may name the stub that it wants. -/
def answer (engine : Engine) (query : Query) : Consult (Except RouteError Answer) := do
  let method := engine.methodName query.method
  match query.id with
  | some id => return (← engine.named query.service method id).map Answer.found
  | none => engine.search { query with method }

/-- Marks the stub that an answer has found. -/
def markFound (engine : Engine) (quiet : Bool) : Except RouteError Answer → Engine
  | .ok (.found stub) => engine.mark quiet stub.id
  | _ => engine

/-- The answer to a query, and the engine with a mark for the stub found. -/
def find (engine : Engine) (query : Query) : Consult (Except RouteError Answer × Engine) := do
  let answer ← engine.answer query
  return (answer, engine.markFound query.quiet answer)

/-! ## Conversations -/

/-- The stubs that can answer a call: the one that it names, or those of its route that accept its
headers. -/
def seed (engine : Engine) (opening : Opening) : Consult (Except RouteError (List Stub)) := do
  match opening.id with
  | some id =>
    return (← engine.named opening.service opening.method id).map fun stub => [stub]
  | none =>
    match ← engine.visible opening.service opening.method opening.session with
    | .ok stubs =>
      return .ok (← Consult.filter (fun stub => stub.headers.accepts opening.headers) stubs)
    | .error failure => return .error failure

/-- Opens a call whose messages come one by one. -/
def converse (engine : Engine) (opening : Opening) :
    Consult (Except RouteError Conversation) := do
  let opening := { opening with method := engine.methodName opening.method }
  return (← engine.seed opening).map fun seed => { opening, seed }

/-- Marks the stub of a turn, if the turn counts. -/
def markTurn (engine : Engine) (quiet : Bool) : Option Turn → Engine
  | some turn => if turn.counts then engine.mark quiet turn.stub.id else engine
  | none => engine

/-- The stub that answers the next message of a call, the call after it, and the engine with a mark
for the stub. -/
def next (engine : Engine) (conversation : Conversation) (message : Fields) :
    Consult (Except RouteError Stub × Conversation × Engine) := do
  let (turn, conversation) ← conversation.next message
  let answer := match turn with
    | some turn => .ok turn.stub
    | none => .error .stubNotFound
  return (answer, conversation, engine.markTurn conversation.opening.quiet turn)

end Engine

end Understudy
