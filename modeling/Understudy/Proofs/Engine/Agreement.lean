import Understudy.Proofs.Engine.Specificity

/-!
# All messages at once, and one by one

A query carries all messages of a call, and a call takes them in one by one. The two are decided by
rules of their own: the query looks up fields under the keys that are wanted and compares numbers of
messages, the call knows other spellings of a key and looks at one position at a time. A stub that
answers the query satisfies the rules of the call as well, so where all stubs of a route want
messages in order, the call never loses it.

## Main results

* `Stub.acceptsBy_of_answersBy`: a stub that answers a query accepts each of its messages
* `ClosedForm.narrowed`: a call whose stubs all want messages in order takes every message in
* `Desk.found_stays`: the stub that a query finds is left after every message of the call
-/

namespace Understudy

variable {oracle : Oracle}

/-! ## Stubs that answer -/

/-- **A stub that answers** a query whose messages hold something accepts each of them at its
position. -/
theorem Stub.acceptsBy_of_answersBy {stub : Stub} {predicates : List Predicate} {query : Query}
    (hordered : stub.expectation = .ordered predicates)
    (hmessages : ¬ allEmpty query.messages = true) (h : stub.answersBy oracle query = true)
    {position : ℕ} {message : Fields}
    (hmessage : (effective query.messages)[position]? = some message) :
    stub.acceptsBy oracle message position = true := by
  have hanswers := (answersBy_iff.mp h).2
  rw [hordered] at hanswers
  have haccepts := Sequence.forall₂_of_answers hanswers hmessages
  -- there is a predicate for the message, which the message satisfies under its own keys
  obtain ⟨hlt, rfl⟩ := List.getElem?_eq_some_iff.mp hmessage
  have hlt' : position < predicates.length := haccepts.length_eq ▸ hlt
  have hone := haccepts.get hlt' hlt
  rw [acceptsBy, acceptsAt, hordered]
  simp only [List.getElem?_eq_getElem hlt']
  exact Predicate.evalBy_tolerates_of_accepts _ hone

/-! ## Calls with ordered predicates -/

/-- What accepts all messages accepts the first of them. -/
theorem mem_heirs_take {stubs : List Stub} {messages : List Fields} {stub : Stub}
    (h : stub ∈ heirs oracle stubs messages) (count : ℕ) :
    stub ∈ heirs oracle stubs (messages.take count) := by
  obtain ⟨hmem, haccepts⟩ := mem_heirs.mp h
  refine mem_heirs.mpr ⟨hmem, fun position message hmessage => haccepts position message ?_⟩
  rw [List.getElem?_take] at hmessage
  exact (Option.ite_none_right_eq_some.mp hmessage).2

/-- **A call whose stubs all want messages in order** takes every message in. -/
theorem ClosedForm.narrowed {headers : Fields} {seed : List Stub} {messages : List Fields}
    {rounds : List Round} (h : ClosedForm oracle headers seed messages rounds)
    (hordered : ∀ stub ∈ seed, stub.single? = none) {j : ℕ} {message : Fields} {round : Round}
    (hmessage : messages[j]? = some message) (hround : rounds[j]? = some round) :
    Narrowed oracle headers seed (messages.take (j + 1)) message round := by
  obtain ⟨hlength, first, hfirst, halone, -, hnarrowed, -⟩ := h
  cases first with
  | zero => exact hnarrowed j (Nat.zero_le j) message round hmessage hround
  | succ first =>
    -- no stub with a single predicate is there to answer the first message alone
    have hlt : 0 < messages.length := Nat.lt_of_lt_of_le (Nat.succ_pos first) hfirst
    obtain ⟨leader, hleader, hsingle, -⟩ := halone 0 (Nat.succ_pos first) _ _
      (List.getElem?_eq_getElem hlt) (List.getElem?_eq_getElem (hlength ▸ hlt))
    rw [hordered leader (mem_heirs.mp hleader.1).1] at hsingle
    cases hsingle

/-- As long as a stub accepts all messages of a call whose stubs all want messages in order, each is
answered and leaves that stub. -/
theorem ClosedForm.stays {headers : Fields} {seed : List Stub} {messages : List Fields}
    {rounds : List Round} (h : ClosedForm oracle headers seed messages rounds)
    (hordered : ∀ stub ∈ seed, stub.single? = none) {stub : Stub}
    (hstub : stub ∈ heirs oracle seed messages) {round : Round} (hround : round ∈ rounds) :
    (∃ leader, round.stub = some leader) ∧ stub ∈ round.candidates := by
  obtain ⟨j, hj⟩ := List.getElem?_of_mem hround
  have hlt : j < messages.length := h.1 ▸ (List.getElem?_eq_some_iff.mp hj).1
  have hheir := mem_heirs_take hstub (j + 1)
  obtain ⟨leader, -, rfl⟩ := (h.narrowed hordered (List.getElem?_eq_getElem hlt) hj).2
    (List.ne_nil_of_mem hheir)
  exact ⟨⟨leader, rfl⟩, hheir⟩

/-! ## Queries and calls -/

theorem Stub.ordered_of_single? {stub : Stub} (h : stub.single? = none) :
    ∃ predicates, stub.expectation = .ordered predicates := by
  unfold single? at h
  split at h
  · cases h
  · next predicates hordered => exact ⟨predicates, hordered⟩

namespace Engine

variable {engine : Engine} {query : Query}

/-- The stubs that a call begins with ascend. -/
theorem Sound.ascends_beginning (h : engine.Sound oracle) (opening : Opening) :
    Ascends (engine.beginning oracle opening).seed :=
  (h.ascends_routed _ _ _).filter _

/-- The stub that a query finds is left after each of its messages, taken in one by one. -/
theorem Sound.stays_of_found (h : engine.Sound oracle) (hid : query.id = none)
    (hmessages : ¬ allEmpty query.messages = true)
    (hordered : ∀ stub ∈ engine.routed oracle query.service (engine.methodName query.method)
      query.session, stub.single? = none)
    {stub : Stub} (hfound : (engine.answer query).evalBy oracle = .ok (.found stub))
    {round : Round} (hround : round ∈
      (engine.beginning oracle query.opening).rounds oracle (effective query.messages)) :
    (∃ leader, round.stub = some leader) ∧ stub ∈ round.candidates := by
  obtain ⟨hmem, hanswers, -⟩ := h.found_spec hid hfound
  have hseed : stub ∈ (engine.beginning oracle query.opening).seed :=
    List.mem_filter.mpr ⟨hmem, (Stub.answersBy_iff.mp hanswers).1⟩
  obtain ⟨predicates, hpredicates⟩ := Stub.ordered_of_single? (hordered stub hmem)
  have hheir : stub ∈ heirs oracle (engine.beginning oracle query.opening).seed
      (effective query.messages) :=
    mem_heirs.mpr ⟨hseed, fun _ _ hmessage =>
      Stub.acceptsBy_of_answersBy hpredicates hmessages hanswers hmessage⟩
  have hclosed : ClosedForm oracle _ (engine.beginning oracle query.opening).seed _
      ((engine.beginning oracle query.opening).rounds oracle (effective query.messages)) :=
    Conversation.closedForm_rounds rfl ((h.ascends_beginning query.opening).imp le_of_lt) _
  exact hclosed.stays (fun other ho => hordered other (List.mem_filter.mp ho).1) hheir hround

end Engine

namespace Desk

/-- **The stub that a query finds stays**, after any run from the start. Let all stubs that a query
can meet want messages in order, and let the query have a message that holds something. Then a call
that opens like the query and is fed with its messages, without an empty one at the end and with
whatever commands between them, answers every message, and the stub that the query finds is left
after each of them. -/
theorem found_stays (oracle : Oracle) (settings : Settings) (before : List Command)
    (query : Query) (hid : query.id = none) (hmessages : ∃ message ∈ query.messages, message ≠ []) :
    let reached := run oracle settings before
    let engine := reached.1.2.engine
    (∀ stub ∈ engine.routed oracle query.service (engine.methodName query.method) query.session,
      stub.single? = none) →
    ∀ stub, ((engine.find query).runBy oracle reached.2).1.1 = .ok (.found stub) →
    ∀ name commands, (∀ again, .openCall name again ∉ commands) →
      messagesTo name commands = effective query.messages →
      let seen := seenOf name commands ((reached.1.2.perform
        (.openCall name query.opening :: commands)).runBy oracle reached.2).1.1
      seen.length = (effective query.messages).length ∧
        ∀ response ∈ seen, ∃ leader candidates position,
          response = .turn (.ok leader) candidates position ∧ stub ∈ candidates := by
  intro reached engine hordered stub hfound name commands hopen hfed seen
  obtain ⟨h, hcaches⟩ := sound_run oracle settings before
  rw [Engine.runBy_find _ _ hcaches] at hfound
  have hholds : ¬ allEmpty query.messages = true := by
    obtain ⟨message, hmem, hne⟩ := hmessages
    exact fun hall => hne (List.isEmpty_iff.mp (List.all_eq_true.mp hall message hmem))
  have hseen : seen = ((engine.beginning oracle query.opening).rounds oracle
      (effective query.messages)).map Round.response := by
    show seenOf _ _ _ = _
    rw [Consult.runBy_fst _ hcaches, seenOf_perform h hid hopen, hfed]
  rw [hseen]
  refine ⟨by rw [List.length_map, Conversation.length_rounds], fun response hresponse => ?_⟩
  obtain ⟨round, hround, rfl⟩ := List.mem_map.mp hresponse
  obtain ⟨⟨leader, hleader⟩, hleft⟩ := h.stays_of_found hid hholds hordered hfound hround
  exact ⟨leader, round.candidates, round.position, by rw [Round.response, hleader], hleft⟩

end Desk

/-! ## A query that becomes a call

One stub goes on with ink after a pen, another one with a cup. -/

namespace Dialogue

/-- A stub that goes on with a cup after a pen. -/
def resting : Stub where
  id := ⟨2⟩
  service := "Cart"
  method := "Add"
  expectation := .ordered [Errand.wants "pen", Errand.wants "cup"]

/-- A pen, ink, and an empty message. -/
def query : Query where
  service := "Cart"
  method := "Add"
  messages := [Errand.carrying "pen", Errand.carrying "ink", []]

def stored : List Command :=
  [.put (fun _ => .nil) [resting, Errand.writing]]

/-- A pen and ink for a call, while the store is cleared. -/
def talk : List Command :=
  [.next "a" (Errand.carrying "pen"), .clear, .next "a" (Errand.carrying "ink")]

/-- The stubs that the query can meet. -/
def stubs : List Stub :=
  (Desk.run .standard {} stored).1.2.engine.routed .standard query.service
    ((Desk.run .standard {} stored).1.2.engine.methodName query.method) query.session

theorem stubs_eq : stubs = [Errand.writing, resting] :=
  Desk.routed_put rfl (by decide) (.swap _ _ _) (by decide) (by decide)

theorem ordered_stubs : ∀ stub ∈ stubs, stub.single? = none := by
  rw [stubs_eq]
  decide

/-- The answer to the query. -/
def answer : Except RouteError Answer :=
  (((Desk.run .standard {} stored).1.2.engine.find query).runBy .standard
    (Desk.run .standard {} stored).2).1.1

/-- What is seen of the call. -/
def seen : List Response :=
  seenOf "a" talk (((Desk.run .standard {} stored).1.2.perform
    (.openCall "a" query.opening :: talk)).runBy .standard (Desk.run .standard {} stored).2).1.1

theorem answer_eq : answer = .ok (.found Errand.writing) := by
  obtain ⟨h, hcaches⟩ := Desk.sound_run .standard {} stored
  refine (Engine.runBy_find _ query hcaches).trans ?_
  refine h.answer_of_scan rfl stubs_eq ?_ fun _ => rfl
  rw [Desk.chunkThreshold_run]
  decide

end Dialogue

namespace Desk

/-- The stub that goes on with ink is found, and left after either message. -/
theorem found_stays_dialogue :
    (∃ message ∈ Dialogue.query.messages, message ≠ []) ∧
    (∀ stub ∈ Dialogue.stubs, stub.single? = none) ∧
    Dialogue.answer = .ok (.found Errand.writing) ∧
    Dialogue.seen.length = 2 ∧
    ∀ response ∈ Dialogue.seen, ∃ leader candidates position,
      response = .turn (.ok leader) candidates position ∧ Errand.writing ∈ candidates := by
  have hmessages : ∃ message ∈ Dialogue.query.messages, message ≠ [] :=
    ⟨Errand.carrying "pen", List.mem_cons_self, List.cons_ne_nil _ _⟩
  exact ⟨hmessages, Dialogue.ordered_stubs, Dialogue.answer_eq,
    found_stays .standard {} Dialogue.stored Dialogue.query rfl hmessages Dialogue.ordered_stubs
      Errand.writing Dialogue.answer_eq "a" Dialogue.talk (by simp [Dialogue.talk]) rfl⟩

end Desk

end Understudy
