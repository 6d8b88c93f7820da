import Understudy.Proofs.Engine.Effects
import Understudy.Proofs.Engine.Stock

/-!
# Sessions

A stub may belong to a session. What names no stub is answered from the stubs that its session sees,
in an order that the stubs themselves give, so the stubs of other sessions make no difference to it:
not to what is found, not to how a route is scanned, and not to any later message of a call. What
names a stub is answered by that stub if it is on the route, whichever session it belongs to.

## Main definitions

* `Engine.Alike`: two engines hold the same stubs that a session sees

## Main results

* `Desk.sessions_apart`: the stubs of other sessions make no difference
* `Desk.answered_by_permitted`: what a query or a call is answered by
-/

namespace Understudy

/-! ## Stubs of other sessions -/

namespace Engine

variable {oracle : Oracle} {a b : Engine} {session : String}

/-- Two engines hold the same stubs that a session sees: those of no session, and its own. -/
def Alike (session : String) (a b : Engine) : Prop :=
  ∀ stub : Stub, stub.session = "" ∨ stub.session = session → (stub ∈ a.all ↔ stub ∈ b.all)

/-- The session meets the same stubs on every route. -/
theorem Alike.routed_eq (h : Alike session a b) (ha : a.Sound oracle) (hb : b.Sound oracle)
    (service method : String) :
    a.routed oracle service method session = b.routed oracle service method session := by
  refine (ha.ascends_routed _ _ _).eq_of_mem_iff (hb.ascends_routed _ _ _) fun stub => ?_
  rw [mem_routed, mem_routed]
  exact and_congr_left fun hon => h stub hon.2

theorem methodName_congr (h : a.tuning = b.tuning) (method : String) :
    a.methodName method = b.methodName method := by
  have htitle : a.titleMethods = b.titleMethods := congrArg (fun tuning => tuning.2.2) h
  rw [methodName, methodName, htitle]

theorem scanRoute_congr (h : a.tuning = b.tuning) (query : Query) (stubs : List Stub) :
    a.scanRoute query stubs = b.scanRoute query stubs := by
  have hthreshold : a.chunkThreshold = b.chunkThreshold := congrArg Prod.fst h
  have hsize : a.chunkSize = b.chunkSize := congrArg (fun tuning => tuning.2.1) h
  rw [scanRoute, scanRoute, hthreshold, hsize]

/-- A query of the session is answered alike, or fails in both engines. -/
theorem Alike.toOption_answer (h : Alike session a b) (ha : a.Sound oracle) (hb : b.Sound oracle)
    (htuning : a.tuning = b.tuning) {query : Query} (hid : query.id = none)
    (hsession : query.session = session) :
    ((a.answer query).evalBy oracle).toOption = ((b.answer query).evalBy oracle).toOption := by
  subst hsession
  rw [ha.toOption_answer hid, hb.toOption_answer hid, methodName_congr htuning,
    h.routed_eq ha hb, scanRoute_congr htuning]

/-- A call of the session begins with the same stubs. -/
theorem Alike.beginning_eq (h : Alike session a b) (ha : a.Sound oracle) (hb : b.Sound oracle)
    (htuning : a.tuning = b.tuning) {opening : Opening} (hsession : opening.session = session) :
    a.beginning oracle opening = b.beginning oracle opening := by
  subst hsession
  rw [beginning, beginning, methodName_congr htuning, h.routed_eq ha hb]

end Engine

namespace Desk

/-- **Sessions are apart.** Two runs with the same settings may leave the engine with any stubs of
other sessions, with other marks and with other calls. If they leave it with the same stubs that a
session sees, then a query of that session that names no stub is answered alike, or fails after both
runs; and a call of that session that names no stub answers the same messages alike, with whatever
commands between them. If a call does not open, each of its messages fails. -/
theorem sessions_apart (oracle : Oracle) (settings : Settings) (session : String)
    (before before' : List Command) :
    let left := run oracle settings before
    let right := run oracle settings before'
    Engine.Alike session left.1.2.engine right.1.2.engine →
    (∀ query : Query, query.id = none → query.session = session →
      ((left.1.2.engine.find query).runBy oracle left.2).1.1.toOption =
        ((right.1.2.engine.find query).runBy oracle right.2).1.1.toOption) ∧
    ∀ opening : Opening, opening.id = none → opening.session = session →
      ∀ (name : String) (commands commands' : List Command),
        (∀ again, .openCall name again ∉ commands) →
        (∀ again, .openCall name again ∉ commands') →
        messagesTo name commands = messagesTo name commands' →
        seenOf name commands
            ((left.1.2.perform (.openCall name opening :: commands)).runBy oracle left.2).1.1 =
          seenOf name commands'
            ((right.1.2.perform (.openCall name opening :: commands')).runBy oracle right.2).1.1 := by
  intro left right halike
  obtain ⟨hleft, hcaches⟩ := sound_run oracle settings before
  obtain ⟨hright, hcaches'⟩ := sound_run oracle settings before'
  have htuning : left.1.2.engine.tuning = right.1.2.engine.tuning :=
    (tuning_run oracle settings before).trans (tuning_run oracle settings before').symm
  refine ⟨fun query hid hsession => ?_, fun opening hid hsession name commands commands' hopen
    hopen' hmessages => ?_⟩
  · rw [Engine.runBy_find _ _ hcaches, Engine.runBy_find _ _ hcaches']
    exact halike.toOption_answer hleft hright htuning hid hsession
  · rw [Consult.runBy_fst _ hcaches, Consult.runBy_fst _ hcaches', seenOf_perform hleft hid hopen,
      seenOf_perform hright hid hopen', hmessages,
      halike.beginning_eq hleft hright htuning hsession]

end Desk

/-! ## Two sessions

Each of two sessions has a stub of its own, and there is one that both see. All want a pen. -/

namespace Shift

/-- A stub of a session that wants a pen. -/
def serving (id : ℕ) (session : String) : Stub where
  id := ⟨BitVec.ofNat 128 id⟩
  service := "Cart"
  method := "Add"
  session := session
  expectation := .ordered [Errand.wants "pen"]

def shared : Stub := serving 2 ""

def ours : Stub := serving 3 "morning"

/-- The stub of the other session comes first by its identifier. -/
def theirs : Stub := serving 1 "evening"

/-- A call of a session with a pen, which may name a stub. -/
def query (id : Option Identifier) (session : String) : Query where
  id := id
  service := "Cart"
  method := "Add"
  session := session
  messages := [Errand.carrying "pen"]

/-- The stubs that the session sees are stored. -/
def quiet : List Command :=
  [.put (fun _ => .nil) [shared, ours]]

/-- The stubs of both sessions are stored, in another order, and the other session uses its own. -/
def busy : List Command :=
  [.put (fun _ => .nil) [ours, theirs, shared], .find (query (some theirs.id) "evening"),
    .openCall "b" (query none "evening").opening]

theorem all_quiet : (Desk.run .standard {} quiet).1.2.engine.all = [shared, ours] :=
  Desk.all_put (by decide) (.refl _) (by decide)

/-- A query and a call leave the stubs as they are. -/
theorem all_busy : (Desk.run .standard {} busy).1.2.engine.all = [theirs, shared, ours] := by
  let storing : Command := .put (fun _ => .nil) [ours, theirs, shared]
  have hstore : ∀ query opening, (Desk.run .standard {}
      ([storing] ++ [.find query] ++ [.openCall "b" opening])).1.2.engine.store =
        (Desk.run .standard {} [storing]).1.2.engine.store := by
    intro query opening
    rw [Desk.run_concat, Desk.store_act_openCall, Desk.run_concat, Desk.store_act_find]
  have hstored : (Desk.run .standard {} [storing]).1.2.engine.all = [theirs, shared, ours] :=
    Desk.all_put (by decide) (List.perm_append_singleton ours [theirs, shared]).symm (by decide)
  rw [Engine.all, show (Desk.run .standard {} busy).1.2.engine.store = _ from hstore _ _]
  exact hstored

theorem alike : Engine.Alike "morning" (Desk.run .standard {} quiet).1.2.engine
    (Desk.run .standard {} busy).1.2.engine := by
  intro stub hsession
  rw [all_quiet, all_busy, List.mem_cons (b := theirs)]
  refine (or_iff_right ?_).symm
  rintro rfl
  revert hsession
  decide

/-- A call of the session that names no stub. -/
def asking : Query := query none "morning"

/-- A pen for a call. -/
def pen (name : String) : Command :=
  .next name (Errand.carrying "pen")

/-- Two pens for a call. -/
def talk : List Command := [pen "a", pen "a"]

/-- Two pens for the call, while another call goes on and the store is cleared. -/
def bustle : List Command := [pen "a", pen "b", .clear, pen "a"]

end Shift

namespace Desk

/-- A query and a call of one session, with and without the stubs of another. -/
theorem sessions_apart_shift :
    Engine.Alike "morning" (run .standard {} Shift.quiet).1.2.engine
      (run .standard {} Shift.busy).1.2.engine ∧
    (((run .standard {} Shift.quiet).1.2.engine.find Shift.asking).runBy .standard
        (run .standard {} Shift.quiet).2).1.1.toOption =
      (((run .standard {} Shift.busy).1.2.engine.find Shift.asking).runBy .standard
        (run .standard {} Shift.busy).2).1.1.toOption ∧
    seenOf "a" Shift.talk (((run .standard {} Shift.quiet).1.2.perform
        (.openCall "a" Shift.asking.opening :: Shift.talk)).runBy .standard
          (run .standard {} Shift.quiet).2).1.1 =
      seenOf "a" Shift.bustle (((run .standard {} Shift.busy).1.2.perform
        (.openCall "a" Shift.asking.opening :: Shift.bustle)).runBy .standard
          (run .standard {} Shift.busy).2).1.1 := by
  obtain ⟨hquery, hcall⟩ :=
    sessions_apart .standard {} "morning" Shift.quiet Shift.busy Shift.alike
  refine ⟨Shift.alike, hquery Shift.asking rfl rfl, ?_⟩
  exact hcall Shift.asking.opening rfl rfl "a" Shift.talk Shift.bustle
    (by simp [Shift.talk, Shift.pen]) (by simp [Shift.bustle, Shift.pen]) rfl

end Desk

/-! ## What answers -/

namespace Conversation

variable {oracle : Oracle}

/-- **Every stub that answers** a message to a call is among those that were left before. -/
theorem mem_candidates_of_rounds {conversation : Conversation} {messages : List Fields}
    {round : Round} (hround : round ∈ conversation.rounds oracle messages) {stub : Stub}
    (hstub : round.stub = some stub) : stub ∈ conversation.candidates := by
  induction messages generalizing conversation with
  | nil => exact absurd hround List.not_mem_nil
  | cons message rest ih =>
    obtain ⟨-, hkept, hturn⟩ := next_spec oracle conversation message
    rw [rounds_cons] at hround
    rcases List.mem_cons.mp hround with rfl | hlater
    · obtain ⟨turn, hnext, rfl⟩ := Option.map_eq_some_iff.mp hstub
      exact (hturn turn hnext).1
    · -- no stub comes back, so one that answers later was left all along
      exact hkept stub (ih hlater)

end Conversation

/-- The responses in which a stub answers are those of rounds in which it does. -/
theorem Round.stub_of_response {round : Round} {stub : Stub} {candidates : List Stub}
    {position : Option ℕ} (h : round.response = .turn (.ok stub) candidates position) :
    round.stub = some stub := by
  unfold Round.response at h
  cases hstub : round.stub with
  | none =>
    rw [hstub] at h
    cases h
  | some other =>
    rw [hstub] at h
    obtain ⟨hok, -, -⟩ := Response.turn.inj h
    rw [Except.ok.inj hok]

namespace Desk

/-- **What answers is permitted**, after any run from the start. A query or a call that names no
stub is answered by stubs of its route that its session sees, and by no others. One that names a
stub is answered by no other, and that stub is found, and the call begins with it alone, if it is on
the route. Which session a named stub belongs to is not asked. -/
theorem answered_by_permitted (oracle : Oracle) (settings : Settings) (before : List Command) :
    let reached := run oracle settings before
    let engine := reached.1.2.engine
    (∀ query answer, ((engine.find query).runBy oracle reached.2).1.1 = .ok answer →
      engine.Permits oracle query.opening answer.stub) ∧
    (∀ opening name commands, (∀ again, .openCall name again ∉ commands) →
      ∀ stub candidates position, .turn (.ok stub) candidates position ∈ seenOf name commands
        ((reached.1.2.perform (.openCall name opening :: commands)).runBy oracle reached.2).1.1 →
      engine.Permits oracle opening stub) ∧
    (∀ (query : Query) id, query.id = some id → ∀ stub,
      engine.Permits oracle query.opening stub →
      ((engine.find query).runBy oracle reached.2).1.1 = .ok (.found stub)) ∧
    ∀ (opening : Opening) id, opening.id = some id → ∀ stub, engine.Permits oracle opening stub →
      ∃ conversation, ((engine.converse opening).runBy oracle reached.2).1 = .ok conversation ∧
        conversation.seed = [stub] := by
  intro reached engine
  obtain ⟨h, hcaches⟩ := sound_run oracle settings before
  refine ⟨fun query answer hanswer => ?_, fun opening name commands hopen stub candidates position
    hturn => ?_, fun query id hid stub hstub => ?_, fun opening id hid stub hstub => ?_⟩
  · rw [Engine.runBy_find _ _ hcaches] at hanswer
    exact h.permits_of_answer hanswer
  · rw [Consult.runBy_fst _ hcaches] at hturn
    cases hopened : (engine.converse opening).evalBy oracle with
    | ok conversation =>
      -- a stub that answers a message was there when the call opened
      rw [seenOf_of_opened hopened hopen] at hturn
      obtain ⟨round, hround, hresponse⟩ := List.mem_map.mp hturn
      have hmem := Conversation.mem_candidates_of_rounds hround (Round.stub_of_response hresponse)
      rw [Conversation.candidates, (h.converse_ascends hopened).1] at hmem
      exact h.permits_of_converse hopened hmem
    | error failure =>
      rw [seenOf_of_failed hopened] at hturn
      obtain ⟨-, -, hsilent⟩ := List.mem_map.mp hturn
      cases hsilent
  · rw [Engine.runBy_find _ _ hcaches]
    exact h.answer_of_permits hid hstub
  · rw [Consult.runBy_fst _ hcaches]
    exact ⟨_, h.converse_of_permits hid hstub, rfl⟩

end Desk

namespace Shift

/-- A call of one session that names the stub of another. -/
def reaching : Query := query (some theirs.id) "morning"

/-- A call of no session. -/
def roaming : Query := query none ""

/-- The answer to a query after the busy run. -/
def answer (query : Query) : Except RouteError Answer :=
  (((Desk.run .standard {} busy).1.2.engine.find query).runBy .standard
    (Desk.run .standard {} busy).2).1.1

/-- What is seen of a pen for a call that is opened after the busy run. -/
def seen (opening : Opening) : List Response :=
  seenOf "a" [pen "a"] (((Desk.run .standard {} busy).1.2.perform
    [.openCall "a" opening, pen "a"]).runBy .standard (Desk.run .standard {} busy).2).1.1

/-- The stub of the other session is on the route. -/
theorem permits_reaching :
    (Desk.run .standard {} busy).1.2.engine.Permits .standard reaching.opening theirs := by
  refine (Engine.permits_named_iff rfl).mpr ⟨?_, ?_, rfl⟩
  · rw [all_busy]
    exact List.mem_cons_self
  · rw [Engine.methodName_eq_self (Desk.titleMethods_run ..)]
    exact onRoute_of_named ⟨rfl, .inl rfl⟩

theorem answer_reaching : answer reaching = .ok (.found theirs) := by
  obtain ⟨h, hcaches⟩ := Desk.sound_run .standard {} busy
  exact (Engine.runBy_find _ reaching hcaches).trans (h.answer_of_permits rfl permits_reaching)

theorem seen_of_opened {opening : Opening} {conversation : Conversation}
    (hopened : ((Desk.run .standard {} busy).1.2.engine.converse opening).evalBy .standard =
      .ok conversation) :
    seen opening =
      (conversation.rounds .standard [Errand.carrying "pen"]).map Round.response := by
  have hcaches := (Desk.sound_run .standard {} busy).2
  rw [seen, Consult.runBy_fst _ hcaches]
  exact Desk.seenOf_of_opened hopened (by simp [pen])

theorem seen_reaching : seen reaching.opening = [.turn (.ok theirs) [theirs] (some 1)] := by
  have hopened := (Desk.sound_run .standard {} busy).1.converse_of_permits rfl permits_reaching
  rw [seen_of_opened hopened]
  rfl

theorem seen_roaming : seen roaming.opening = [.turn (.ok shared) [shared] (some 1)] := by
  have hbeginning : (Desk.run .standard {} busy).1.2.engine.beginning .standard roaming.opening =
      { opening := roaming.opening, seed := [shared] } := by
    rw [Engine.beginning, Engine.methodName_eq_self (Desk.titleMethods_run ..),
      Engine.routed_eq_filter (by rw [all_busy]; decide), all_busy]
    rfl
  have hid : roaming.opening.id = none := rfl
  rcases (Desk.sound_run .standard {} busy).1.evalBy_converse hid with hopened | ⟨-, hnone⟩
  · rw [seen_of_opened hopened, hbeginning]
    rfl
  · rw [hbeginning] at hnone
    cases hnone

end Shift

namespace Desk

/-- A query and a call that name a stub, and a call that names none. -/
theorem answered_by_permitted_shift :
    let permits := (run .standard {} Shift.busy).1.2.engine.Permits .standard
    Shift.answer Shift.reaching = .ok (.found Shift.theirs) ∧
    permits Shift.reaching.opening Shift.theirs ∧
    (∃ conversation, (((run .standard {} Shift.busy).1.2.engine.converse
      Shift.reaching.opening).runBy .standard (run .standard {} Shift.busy).2).1 =
        .ok conversation ∧ conversation.seed = [Shift.theirs]) ∧
    Shift.seen Shift.roaming.opening = [.turn (.ok Shift.shared) [Shift.shared] (some 1)] ∧
    permits Shift.roaming.opening Shift.shared := by
  intro permits
  obtain ⟨hquery, hcall, hfind, hopened⟩ := answered_by_permitted .standard {} Shift.busy
  have hpermits := hquery Shift.reaching (.found Shift.theirs) Shift.answer_reaching
  refine ⟨hfind Shift.reaching _ rfl Shift.theirs hpermits, hpermits,
    hopened Shift.reaching.opening _ rfl Shift.theirs hpermits, Shift.seen_roaming, ?_⟩
  have hseen := Shift.seen_roaming
  rw [Shift.seen] at hseen
  refine hcall Shift.roaming.opening "a" [Shift.pen "a"] (by simp [Shift.pen]) Shift.shared
    [Shift.shared] (some 1) ?_
  rw [hseen]
  exact List.mem_cons_self

/-- **A stub of one session answers another** that names it: the query finds it, and the call is
answered by it. -/
theorem named_across_sessions :
    Shift.answer Shift.reaching = .ok (.found Shift.theirs) ∧
    Shift.seen Shift.reaching.opening = [.turn (.ok Shift.theirs) [Shift.theirs] (some 1)] ∧
    ¬ (Shift.theirs.session = "" ∨ Shift.theirs.session = Shift.reaching.session) :=
  ⟨Shift.answer_reaching, Shift.seen_reaching, by decide⟩

end Desk

end Understudy
