import Understudy.Proofs.Engine.Calls

/-!
# Calls from their opening on

A call that names no stub begins with the stubs that it can meet and that accept its headers. If no
stub at all is on its route, it fails to open, and each of its messages counts as failed. A call that
opens with no stubs fails at each message too. So what is seen of the messages is told by the
stubs that the call begins with, be they none.

## Main definitions

* `Engine.beginning`: the call that an opening comes to
* `seenOf`: what is seen of the messages of a call that is opened first of all

## Main results

* `Engine.Sound.evalBy_converse`: an opening comes to its call, or fails and has no stubs
* `Desk.seenOf_perform`: what is seen of the messages are the rounds of the call
-/

namespace Understudy

/-! ## Calls without stubs -/

namespace Conversation

variable {oracle : Oracle}

/-- A message to a call that no stub is left for. -/
theorem next_of_no_candidates (oracle : Oracle) {conversation : Conversation}
    (h : conversation.candidates = []) (message : Fields) :
    ∃ later : Conversation, (conversation.next message).evalBy oracle = (none, later) ∧
      later.candidates = [] ∧ later.position? = none := by
  cases hposition : conversation.position? with
  | none =>
    refine ⟨conversation, ?_, h, hposition⟩
    simp only [next, hposition, Consult.evalBy_pure]
  | some position =>
    refine ⟨{ conversation with progress := .exhausted }, ?_, rfl, rfl⟩
    simp only [next, hposition, h, Consult.evalBy_bind, Consult.evalBy_filter, List.filter_nil,
      select, Consult.evalBy_pure]

/-- A call that no stub is left for answers no message. -/
theorem rounds_of_no_candidates {conversation : Conversation} (h : conversation.candidates = [])
    (messages : List Fields) :
    conversation.rounds oracle messages = messages.map fun _ => ⟨none, [], none⟩ := by
  induction messages generalizing conversation with
  | nil => rfl
  | cons message rest ih =>
    obtain ⟨later, hnext, hlater, hposition⟩ := next_of_no_candidates oracle h message
    rw [rounds_cons, hnext, ih hlater, roundOf, hlater, hposition]
    rfl

end Conversation

/-! ## Openings -/

namespace Engine

variable {oracle : Oracle} {engine : Engine} {opening : Opening}

/-- The call that an opening without an identifier comes to: it begins with the stubs that it can
meet and that accept its headers. -/
def beginning (oracle : Oracle) (engine : Engine) (opening : Opening) : Conversation :=
  let method := engine.methodName opening.method
  { opening := { opening with method }
    seed := (engine.routed oracle opening.service method opening.session).filter
      fun stub => (stub.headers.accepts opening.headers).evalBy oracle }

/-- **An opening** without an identifier comes to its call, or it fails and has no stubs. -/
theorem Sound.evalBy_converse (h : engine.Sound oracle) (hid : opening.id = none) :
    (engine.converse opening).evalBy oracle = .ok (engine.beginning oracle opening) ∨
      (∃ failure, (engine.converse opening).evalBy oracle = .error failure) ∧
        (engine.beginning oracle opening).seed = [] := by
  have hvisible := h.visible_getD opening.service (engine.methodName opening.method)
    opening.session
  simp only [converse, seed, hid, Consult.evalBy_bind, beginning]
  split
  · next stubs hstubs =>
    rw [hstubs] at hvisible
    rw [← hvisible]
    simp only [Consult.evalBy_bind, Consult.evalBy_filter, Consult.evalBy_pure]
    exact .inl rfl
  · next failure hfailed =>
    rw [hfailed] at hvisible
    rw [← hvisible]
    exact .inr ⟨⟨failure, rfl⟩, rfl⟩

end Engine

/-- The response to a message that no stub is left for. -/
def Response.silent : Response :=
  .turn (.error .stubNotFound) [] none

/-- What is seen of the messages to a call, from the responses to its opening and to the commands
after it. If the call does not open, each of its messages fails. -/
def seenOf (name : String) (commands : List Command) : List Response → List Response
  | .opened (.ok _) :: later => turnsOf name commands later
  | _ => (messagesTo name commands).map fun _ => .silent

namespace Desk

variable {oracle : Oracle} {desk : Desk} {opening : Opening} {name : String}
  {commands : List Command}

/-- What is seen of the messages to a call that opens are its rounds. -/
theorem seenOf_of_opened {conversation : Conversation}
    (hopened : (desk.engine.converse opening).evalBy oracle = .ok conversation)
    (hopen : ∀ again, .openCall name again ∉ commands) :
    seenOf name commands ((desk.perform (.openCall name opening :: commands)).evalBy oracle).1 =
      (conversation.rounds oracle (messagesTo name commands)).map Round.response := by
  rw [evalBy_perform_cons]
  simp only [Command.act, Consult.evalBy_bind, hopened, Consult.evalBy_pure, seenOf]
  exact turnsOf_perform commands hopen _ (Function.update_self ..)

/-- The messages to a call that does not open fail. -/
theorem seenOf_of_failed {failure : RouteError}
    (hfailed : (desk.engine.converse opening).evalBy oracle = .error failure) :
    seenOf name commands ((desk.perform (.openCall name opening :: commands)).evalBy oracle).1 =
      (messagesTo name commands).map fun _ => .silent := by
  rw [evalBy_perform_cons]
  simp only [Command.act, Consult.evalBy_bind, hfailed, Consult.evalBy_pure, seenOf]

/-- **What is seen of the messages** to a call that names no stub, from its opening on, are the
rounds of the call that the opening comes to. -/
theorem seenOf_perform (h : desk.engine.Sound oracle) (hid : opening.id = none)
    (hopen : ∀ again, .openCall name again ∉ commands) :
    seenOf name commands ((desk.perform (.openCall name opening :: commands)).evalBy oracle).1 =
      ((desk.engine.beginning oracle opening).rounds oracle (messagesTo name commands)).map
        Round.response := by
  rcases h.evalBy_converse hid with hopened | ⟨⟨failure, hfailed⟩, hseed⟩
  · exact seenOf_of_opened hopened hopen
  · -- a call that does not open fails like one that begins with no stubs
    have hcandidates : (desk.engine.beginning oracle opening).candidates = [] := hseed
    rw [seenOf_of_failed hfailed, Conversation.rounds_of_no_candidates hcandidates, List.map_map]
    rfl

end Desk

end Understudy
