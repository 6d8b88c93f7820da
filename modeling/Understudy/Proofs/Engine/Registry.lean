import Understudy.Proofs.Engine.Calls
import Understudy.Proofs.Store.Contents

/-!
# A registry of stubs

What commands do, told without tables, marks in a list or searches: a map from identifiers to stubs,
the set of identifiers that count as used, and where each call stands. A response says what a
command came to, such as the identifiers that were drawn or the stub that answered; the registry
after the command is determined by the two, and only some responses are right.

## Main definitions

* `Registry`, `Registry.empty`: the state of the abstract machine
* `Registry.step`, `Registry.after`: the registry after a command and its response, and after some
* `Registry.Allows`, `Registry.Explains`: the responses that are right, and runs of right responses
* `Registry.Lists`: a list shows the stubs of a registry that count
* `Command.FreshAt`, `FreshRun`: the identifiers that commands draw are fresh

## Main results

* `Registry.Lists.unique`: one list of stubs shows them
* `Contents.upsert_eq_some`: what is stored after a batch was stored before or is in the batch
-/

namespace Understudy

/-- Where a call stands. -/
structure Standing where
  /-- Whether the call only looks. -/
  quiet : Bool
  /-- The position at which the next message is met; none once no stub is left. -/
  position : Option ℕ

/-- The stubs by identifier, the identifiers that count as used, and the calls by name. -/
structure Registry where
  stubs : Contents Stub
  used : Set Identifier
  calls : String → Option Standing

namespace Registry

/-- The registry before the first command. -/
def empty : Registry where
  stubs _ := none
  used := ∅
  calls _ := none

/-! ## What commands do -/

/-- Some stubs under some identifiers, in order. -/
def labelled (stubs : List Stub) (ids : List Identifier) : List Stub :=
  List.zipWith (fun stub id => { stub with id }) stubs ids

/-- Counts an identifier as used, unless the call only looks. -/
def mark (registry : Registry) (quiet : Bool) (id : Identifier) : Registry :=
  if quiet then registry else { registry with used := insert id registry.used }

/-- The registry after a message to a call that stood somewhere: the stub that answers counts as
used if it expects messages in order, or if the message was the first to be met. -/
def turn (registry : Registry) (name : String) (before : Standing)
    (answer : Except RouteError Stub) (position : Option ℕ) : Registry :=
  let registry := { registry with
    calls := Function.update registry.calls name (some { before with position }) }
  match answer with
  | .ok stub =>
    if stub.sequence ≠ [] ∨ before.position = some 0 then registry.mark before.quiet stub.id
    else registry
  | .error _ => registry

/-- The registry after a command that got a response. Queries without a match, failures, calls that
only look and the opening of calls leave the stubs and what is used of them as they are. -/
def step (registry : Registry) : Command → Response → Registry
  | .put _ stubs, .stored ids =>
    { registry with stubs := Contents.apply registry.stubs (.upsert (labelled stubs ids)) }
  | .update stubs, .stored _ =>
    { registry with
      stubs := Contents.apply registry.stubs (.upsert (stubs.filter fun stub => !stub.id.isNil)) }
  | .delete ids, _ => { registry with stubs := Contents.apply registry.stubs (.delete ids) }
  | .deleteSession session, _ =>
    if session = "" then registry
    else { registry with
      stubs := Contents.apply registry.stubs (.deleteWhere fun stub => stub.session = session)
      used := {id ∈ registry.used |
        ∀ stub, registry.stubs id = some stub → stub.session ≠ session} }
  | .clear, _ => { registry with stubs := fun _ => none, used := ∅ }
  | .find query, .answer (.ok (.found stub)) => registry.mark query.quiet stub.id
  | .openCall name opening, .opened (.ok _) =>
    { registry with
      calls := Function.update registry.calls name (some ⟨opening.quiet, some 0⟩) }
  | .next name _, .turn answer _ position =>
    match registry.calls name with
    | some before => registry.turn name before answer position
    | none => registry
  | _, _ => registry

/-- The registry after some commands that got some responses. -/
def after : Registry → List Command → List Response → Registry
  | registry, command :: commands, response :: responses =>
    (registry.step command response).after commands responses
  | registry, _, _ => registry

/-! ## Which responses are right -/

/-- Identifiers for some stubs that are stored: their own, and for those that have none identifiers
that differ from all that are stored or used and from all others in the batch. -/
def Issues (registry : Registry) (stubs : List Stub) (ids : List Identifier) : Prop :=
  ids.length = stubs.length ∧
  ∀ (position : ℕ) (stub : Stub) (id : Identifier), stubs[position]? = some stub →
    ids[position]? = some id →
      (stub.id ≠ .nil → id = stub.id) ∧
      (stub.id = .nil → id ≠ .nil ∧ registry.stubs id = none ∧ id ∉ registry.used ∧
        ∀ other, ids[other]? = some id → other = position)

/-- A list with those stubs whose identifiers pass a test, by strictly ascending identifier. -/
def Lists (registry : Registry) (test : Identifier → Prop) (stubs : List Stub) : Prop :=
  stubs.Pairwise (fun a b => a.id < b.id) ∧
  ∀ stub, stub ∈ stubs ↔ registry.stubs stub.id = some stub ∧ test stub.id

/-- The stored stubs of a session that has a name. -/
def ofSession (registry : Registry) (session : String) : Set Identifier :=
  {id | session ≠ "" ∧ ∃ stub, registry.stubs id = some stub ∧ stub.session = session}

/-- Whether a response to a command is right. -/
def Allows (registry : Registry) : Command → Response → Prop
  | .put _ stubs, .stored ids => registry.Issues stubs ids
  | .update stubs, .stored ids => ids = (stubs.filter fun stub => !stub.id.isNil).map Stub.id
  | .delete ids, .deleted count =>
    count = (ids.toFinset.filter fun id => (registry.stubs id).isSome).card
  | .deleteSession session, .deleted count => count = (registry.ofSession session).encard
  | .clear, .cleared => True
  | .get id, .stub stub => stub = registry.stubs id
  | .size, .size count => count = {id | (registry.stubs id).isSome}.encard
  | .all, .stubs stubs => registry.Lists (fun _ => True) stubs
  | .used, .stubs stubs => registry.Lists (· ∈ registry.used) stubs
  | .unused, .stubs stubs => registry.Lists (· ∉ registry.used) stubs
  | .find _, .answer answer => ∀ stub, answer = .ok (.found stub) ∨ answer = .ok (.similar stub) →
    registry.stubs stub.id = some stub
  | .route _ _, .route _ => True
  | .openCall _ _, .opened seed => ∀ stubs, seed = .ok stubs → ∀ stub ∈ stubs,
    registry.stubs stub.id = some stub
  | .next name _, .turn _ _ _ => (registry.calls name).isSome
  | .next name _, .noCall => registry.calls name = none
  | _, _ => False

/-- Each of some commands got one response, and that was right. -/
def Explains : Registry → List Command → List Response → Prop
  | _, [], [] => True
  | registry, command :: commands, response :: responses =>
    registry.Allows command response ∧
      (registry.step command response).Explains commands responses
  | _, _, _ => False

/-- No two lists show the same stubs. -/
theorem Lists.unique {registry : Registry} {test : Identifier → Prop} {a b : List Stub}
    (ha : registry.Lists test a) (hb : registry.Lists test b) : a = b :=
  Ascends.eq_of_mem_iff ha.1 hb.1 fun stub => (ha.2 stub).trans (hb.2 stub).symm

end Registry

/-! ## Fresh identifiers -/

/-- The identifiers under which a command stores stubs. -/
def Command.storedIds : Command → List Identifier
  | .put fresh stubs => (Engine.assignIds fresh stubs).map Stub.id
  | .update stubs => (stubs.filter fun stub => !stub.id.isNil).map Stub.id
  | _ => []

/-- The identifiers that a command draws are no nil ones, none under which a stub has been stored
before, and none under which it stores another stub. -/
def Command.FreshAt (seen : Set Identifier) : Command → Prop
  | .put fresh stubs => ∀ (position : ℕ) (stub : Stub), stubs[position]? = some stub →
    stub.id = .nil → fresh position ≠ .nil ∧ fresh position ∉ seen ∧
      ∀ other, ((Engine.assignIds fresh stubs).map Stub.id)[other]? = some (fresh position) →
        other = position
  | _ => True

/-- All identifiers that some commands draw are fresh, given those under which stubs have been
stored before. -/
def FreshRun (seen : Set Identifier) : List Command → Prop
  | [] => True
  | command :: rest =>
    command.FreshAt seen ∧ FreshRun (seen ∪ {id | id ∈ command.storedIds}) rest

namespace Contents

variable {α : Type} [Filed α] {contents : Contents α} {id : Identifier} {value : α}

/-- What is stored after a batch was stored before, or is in the batch. -/
theorem upsert_eq_some {values : List α}
    (h : Contents.apply contents (.upsert values) id = some value) :
    contents id = some value ∨ value ∈ values ∧ Filed.id value = id := by
  induction values generalizing contents with
  | nil => exact .inl h
  | cons first rest ih =>
    rcases ih h with h | ⟨hmem, hid⟩
    · have hfirst : Function.update contents (Filed.id first) (some first) id = some value := h
      rw [Function.update_apply] at hfirst
      split at hfirst
      · next he =>
        obtain rfl := Option.some.inj hfirst
        exact .inr ⟨List.mem_cons_self, he.symm⟩
      · exact .inl hfirst
    · exact .inr ⟨List.mem_cons_of_mem _ hmem, hid⟩

end Contents

end Understudy
