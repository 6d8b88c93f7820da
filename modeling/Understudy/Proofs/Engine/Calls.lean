import Understudy.Proofs.Engine.Search
import Understudy.Proofs.Search.Conversation

/-!
# Calls among other commands

A call is fed with messages by name, while other commands change the store, ask queries and feed
other calls. None of them is seen in the call: its responses are the rounds of its conversation, one
for each message that it is fed with. A call that is opened begins afresh with stubs in ascending
order, so its responses have the closed form of rounds.

## Main definitions

* `messagesTo`, `turnsOf`: the messages to a call, and the responses to them
* `Round.response`: a round as a response

## Main results

* `Engine.Sound.converse_ascends`: the stubs that an opened call begins with ascend
* `Desk.turnsOf_perform`: the responses to the messages of a call are its rounds
* `Desk.turns_closedForm`: they have the closed form, whatever else is done
-/

namespace Understudy

/-! ## Openings -/

/-- What is mapped to a result was one. -/
theorem exists_of_map_eq_ok {ε α β : Type} {result : Except ε α} {f : α → β} {b : β}
    (h : result.map f = .ok b) : ∃ a, result = .ok a ∧ f a = b := by
  cases result with
  | error failure => cases h
  | ok a => exact ⟨a, rfl, Except.ok.inj h⟩

namespace Engine

variable {oracle : Oracle} {engine : Engine}

theorem Sound.ascends_of_visible (h : engine.Sound oracle) {service method session : String}
    {stubs : List Stub}
    (hvisible : (engine.visible service method session).evalBy oracle = .ok stubs) :
    Ascends stubs := by
  obtain rfl := h.eq_routed_of_visible hvisible
  exact h.ascends_routed service method session

theorem Sound.seed_ascends (h : engine.Sound oracle) {opening : Opening} {stubs : List Stub}
    (hseed : (engine.seed opening).evalBy oracle = .ok stubs) : Ascends stubs := by
  unfold seed at hseed
  cases hid : opening.id with
  | some id =>
    simp only [hid, Consult.evalBy_bind, Consult.evalBy_pure] at hseed
    obtain ⟨stub, -, rfl⟩ := exists_of_map_eq_ok hseed
    exact List.pairwise_singleton _ stub
  | none =>
    simp only [hid, Consult.evalBy_bind] at hseed
    split at hseed
    · next stubs' hvisible =>
      simp only [Consult.evalBy_bind, Consult.evalBy_filter, Consult.evalBy_pure] at hseed
      exact Except.ok.inj hseed ▸ (h.ascends_of_visible hvisible).filter _
    · cases hseed

/-- An opened call begins afresh, with stubs in ascending order. -/
theorem Sound.converse_ascends (h : engine.Sound oracle) {opening : Opening}
    {conversation : Conversation}
    (hopened : (engine.converse opening).evalBy oracle = .ok conversation) :
    conversation.progress = .fresh ∧ Ascends conversation.seed := by
  simp only [converse, Consult.evalBy_bind, Consult.evalBy_pure] at hopened
  obtain ⟨stubs, hseed, rfl⟩ := exists_of_map_eq_ok hopened
  exact ⟨rfl, h.seed_ascends hseed⟩

end Engine

/-! ## Messages among other commands -/

/-- The message to a call that a command carries. -/
def Command.messageTo? (name : String) : Command → Option Fields
  | .next other message => if other = name then some message else none
  | _ => none

/-- The messages to a call among some commands. -/
def messagesTo (name : String) (commands : List Command) : List Fields :=
  commands.filterMap (Command.messageTo? name)

/-- The responses to the messages to a call among the responses to some commands. -/
def turnsOf (name : String) (commands : List Command) (responses : List Response) :
    List Response :=
  (commands.zip responses).filterMap fun entry =>
    (entry.1.messageTo? name).map fun _ => entry.2

/-- A round of a call as a response. -/
def Round.response (round : Round) : Response :=
  .turn (match round.stub with
    | some stub => .ok stub
    | none => .error .stubNotFound) round.candidates round.position

namespace Desk

variable {oracle : Oracle} {name : String}

/-- A message to a call is answered by its conversation. -/
theorem evalBy_act_next (oracle : Oracle) (desk : Desk) {conversation : Conversation}
    (hcall : desk.calls name = some conversation) (message : Fields) :
    (((Command.next name message).act desk).evalBy oracle).1 =
        (Conversation.roundOf ((conversation.next message).evalBy oracle)).response ∧
      (((Command.next name message).act desk).evalBy oracle).2.calls name =
        some ((conversation.next message).evalBy oracle).2 := by
  simp only [Command.act, hcall, Engine.next, Consult.evalBy_bind, Consult.evalBy_pure,
    Function.update_self, and_true, Conversation.roundOf, Round.response]
  cases ((conversation.next message).evalBy oracle).1 <;> rfl

/-- **A call among other commands** answers its messages as if they had come alone. -/
theorem turnsOf_perform (commands : List Command)
    (hopen : ∀ opening, .openCall name opening ∉ commands) (desk : Desk)
    {conversation : Conversation} (hcall : desk.calls name = some conversation) :
    turnsOf name commands ((desk.perform commands).evalBy oracle).1 =
      (conversation.rounds oracle (messagesTo name commands)).map Round.response := by
  induction commands generalizing desk conversation with
  | nil => rfl
  | cons command rest ih =>
    have hrest : ∀ opening, Command.openCall name opening ∉ rest := fun opening hmem =>
      hopen opening (List.mem_cons_of_mem _ hmem)
    rw [evalBy_perform_cons]
    simp only [turnsOf, messagesTo, List.zip_cons_cons, List.filterMap_cons]
    cases hmessage : command.messageTo? name with
    | none =>
      -- the command is not about this call, so the call stays as it is
      have hother : command.call? ≠ some name := by
        intro hname
        cases command with
        | openCall other opening =>
          obtain rfl := Option.some.inj hname
          exact hopen opening List.mem_cons_self
        | next other message =>
          obtain rfl := Option.some.inj hname
          simp [Command.messageTo?] at hmessage
        | _ => cases hname
      exact ih hrest _ ((calls_act desk command hother).trans hcall)
    | some message =>
      obtain rfl : command = .next name message := by
        cases command with
        | next other message' =>
          simp only [Command.messageTo?, Option.ite_none_right_eq_some] at hmessage
          obtain ⟨rfl, he⟩ := hmessage
          rw [Option.some.inj he]
        | _ => cases hmessage
      -- the call takes the message in, and the rest goes on with what is left of it
      obtain ⟨hresponse, hnext⟩ := evalBy_act_next oracle desk hcall message
      rw [Conversation.rounds_cons, List.map_cons, ← hresponse]
      exact congrArg _ (ih hrest _ hnext)

/-- **The closed form of a call.** After any run from the start, an opened call begins afresh with
stubs in ascending order. And whatever stubs in ascending order a call begins with, its responses to
the messages among any other commands are rounds in closed form. -/
theorem turns_closedForm (oracle : Oracle) (settings : Settings) (before : List Command)
    (name : String) (opening : Opening) (seed : List Stub)
    (hseed : seed.Pairwise fun a b => a.id ≤ b.id) (commands : List Command)
    (hopen : ∀ opening, .openCall name opening ∉ commands) :
    let reached := ((start settings).perform before).runBy oracle settings.caches
    let desk : Desk := { reached.1.2 with
      calls := Function.update reached.1.2.calls name (some { opening, seed }) }
    let run := (desk.perform commands).runBy oracle reached.2
    (∀ opening' conversation,
      ((reached.1.2.engine.converse opening').runBy oracle reached.2).1 = .ok conversation →
        conversation.progress = .fresh ∧ Ascends conversation.seed) ∧
    ∃ rounds, turnsOf name commands run.1.1 = rounds.map Round.response ∧
      ClosedForm oracle opening.headers seed (messagesTo name commands) rounds := by
  intro reached desk run
  obtain ⟨hreached, hcaches⟩ := runBy_perform oracle settings (start settings) before
  refine ⟨fun opening' conversation hopened => ?_, ?_⟩
  · rw [Consult.runBy_fst _ hcaches] at hopened
    -- every run from the start leaves sound tables
    have hsound : reached.1.2.engine.Sound oracle := by
      rw [show reached.1 = _ from hreached]
      exact sound_start settings before
    exact hsound.converse_ascends hopened
  · have hrun : run.1 = (desk.perform commands).evalBy oracle := Consult.runBy_fst _ hcaches
    let conversation : Conversation := { opening, seed }
    have hcall : desk.calls name = some conversation := Function.update_self ..
    have hfresh : conversation.progress = .fresh := rfl
    refine ⟨conversation.rounds oracle (messagesTo name commands), ?_,
      Conversation.closedForm_rounds hfresh hseed _⟩
    rw [hrun]
    exact turnsOf_perform commands hopen desk hcall

end Desk

namespace Errand

/-- A message that carries an item. -/
def carrying (item : String) : Fields := [("item", .str item)]

/-- What wants an item. -/
def wants (item : String) : Predicate where
  equalTo := some (carrying item)

/-- A stub that goes on with ink after a pen. -/
def writing : Stub where
  id := ⟨1⟩
  service := "Cart"
  method := "Add"
  expectation := .ordered [wants "pen", wants "ink"]

/-- A stub that takes any number of cups, and pens at a lower priority. -/
def drinking : Stub where
  id := ⟨2⟩
  service := "Cart"
  method := "Add"
  priority := -1
  expectation := .single { anyOf := [wants "cup", wants "pen"] }

/-- A cup, a pen and ink for one call, while the store is cleared and another call goes on. -/
def commands : List Command :=
  [.next "a" (carrying "cup"), .openCall "b" {}, .next "b" (carrying "pen"),
    .next "a" (carrying "pen"), .clear, .next "a" (carrying "ink"), .size,
    .next "a" (carrying "cup")]

end Errand

namespace Desk

/-- The stubs are stored, and a call that began with them is fed among other commands. -/
theorem turns_closedForm_errand :
    let stored : Command := .put (fun _ => .nil) [Errand.writing, Errand.drinking]
    let reached := ((start {}).perform [stored]).runBy .standard ({} : Settings).caches
    let desk : Desk := { reached.1.2 with
      calls := Function.update reached.1.2.calls "a"
        (some { opening := {}, seed := [Errand.writing, Errand.drinking] }) }
    (∀ opening, .openCall "a" opening ∉ Errand.commands) ∧
    ([Errand.writing, Errand.drinking].Pairwise fun a b => a.id ≤ b.id) ∧
    ∃ rounds,
      turnsOf "a" Errand.commands
        ((desk.perform Errand.commands).runBy .standard reached.2).1.1 =
          rounds.map Round.response ∧
      ClosedForm .standard [] [Errand.writing, Errand.drinking]
        (["cup", "pen", "ink", "cup"].map Errand.carrying) rounds := by
  have hopen : ∀ opening, Command.openCall "a" opening ∉ Errand.commands := by
    intro opening
    simp [Errand.commands]
  have hseed : [Errand.writing, Errand.drinking].Pairwise fun a b => a.id ≤ b.id := by
    decide
  exact ⟨hopen, hseed, (turns_closedForm .standard {} _ "a" {} _ hseed _ hopen).2⟩

end Desk

end Understudy
