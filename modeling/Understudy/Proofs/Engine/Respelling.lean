import Understudy.Proofs.Engine.Misses
import Understudy.Proofs.Engine.Stock
import Understudy.Proofs.Predicate.Respelling

/-!
# Calls with respelled keys

In a call whose messages come one by one a wanted field is found under either spelling of its key, so
however the keys of the messages are spelled, the same stubs accept them. Which of these stubs
answers is told by their ranks. The rank of a stub with ordered predicates does not depend on the
spelling. That of a stub with a single predicate does: it counts the wanted fields that are found
under their own key. As long as the keys that such stubs want are left as they are, respelling the
others changes nothing.

## Main definitions

* `Stub.Wants`: the keys that a stub wants
* `Stub.Spared`: two messages have the keys that a stub with a single predicate wants alike
* `Response.outline`: the response to a message without the stub that answers it

## Main results

* `Stub.acceptsAt_respelled`, `Stub.rankAt_respelled`: acceptance and ranks
* `Conversation.rounds_congr`: stubs that accept and rank messages alike answer them alike
* `Desk.answers_respelled`: a call with respelled keys, among other commands
-/

namespace Understudy

open Text (Conventional SameKey)

/-! ## Stubs -/

namespace Stub

/-- A stub wants a key in one of its predicates. -/
def Wants (stub : Stub) (key : String) : Prop :=
  ∃ predicate, (stub.single? = some predicate ∨ predicate ∈ stub.sequence) ∧ predicate.Wants key

/-- Two messages have each key alike that a stub with a single predicate wants. -/
def Spared (message message' : Fields) (stub : Stub) : Prop :=
  ∀ predicate key, stub.single? = some predicate → predicate.Wants key →
    message.find? key = message'.find? key

variable {stub : Stub} {message message' : Fields}

/-- **A stub accepts** a message however its keys are spelled. -/
theorem acceptsAt_respelled (hwell : WellSpelled message) (hrespelled : Respelled message message')
    (hkeys : ∀ key, stub.Wants key → Conventional key) (position : ℕ) :
    stub.acceptsAt message position = stub.acceptsAt message' position := by
  have hfound : ∀ predicate, (stub.single? = some predicate ∨ predicate ∈ stub.sequence) →
      predicate.tolerates message = predicate.tolerates message' := by
    intro predicate hmem
    apply Predicate.tolerates_congr
    intro key hwants
    exact hwell.tolerant?_eq hrespelled (hkeys key ⟨predicate, hmem, hwants⟩)
  unfold acceptsAt
  unfold single? sequence at hfound
  cases hexpectation : stub.expectation with
  | single predicate =>
    simp only [hexpectation] at hfound
    exact hfound predicate (.inl rfl)
  | ordered predicates =>
    simp only [hexpectation] at hfound
    dsimp only
    cases hpredicate : predicates[position]? with
    | none => rfl
    | some predicate => exact hfound predicate (.inr (List.mem_of_getElem? hpredicate))

/-- **A stub ranks** a message alike if its wanted keys are found alike: under either spelling for
ordered predicates, and under their own for a single one. -/
theorem rankAt_respelled (hwell : WellSpelled message) (hrespelled : Respelled message message')
    (hkeys : ∀ key, stub.Wants key → Conventional key) (hspared : stub.Spared message message')
    (headers : Fields) (position : ℕ) :
    stub.rankAt headers message position = stub.rankAt headers message' position := by
  unfold Wants at hkeys
  unfold Spared at hspared
  unfold rankAt
  unfold single? sequence at hkeys
  unfold single? at hspared
  cases hexpectation : stub.expectation with
  | single predicate =>
    -- this rank counts the fields that are found under their own keys
    simp only [hexpectation] at hspared
    have hrank : predicate.rank message = predicate.rank message' :=
      predicate.rank_congr (fun key => hspared predicate key rfl) hrespelled.length_eq
    simp only [hrank]
  | ordered predicates =>
    simp only [hexpectation] at hkeys
    dsimp only
    cases hpredicate : predicates[position]? with
    | none => rfl
    | some predicate =>
      have hhits : predicate.hits message = predicate.hits message' := by
        apply Predicate.hits_congr
        intro key hwants
        refine hwell.tolerant?_eq hrespelled (hkeys key ⟨predicate, .inr ?_, hwants⟩)
        exact List.mem_of_getElem? hpredicate
      simp only [hhits]

end Stub

/-! ## Conversations -/

/-- The response to a message, but for the stub that answers it. -/
def Response.outline : Response → Option (Option RouteError × List Stub × Option ℕ)
  | .turn result candidates position => some (failureOf result, candidates, position)
  | _ => none

namespace Conversation

variable {oracle : Oracle} {headers message message' : Fields} {stubs : List Stub}

/-- Some stubs accept and rank two messages alike at every position. -/
def HeardAlike (oracle : Oracle) (headers : Fields) (stubs : List Stub)
    (message message' : Fields) : Prop :=
  ∀ stub ∈ stubs, ∀ position,
    stub.acceptsBy oracle message position = stub.acceptsBy oracle message' position ∧
    stub.rankBy oracle headers message position = stub.rankBy oracle headers message' position

theorem evalBy_select_congr {rank rank' : Stub → Consult Float}
    (h : ∀ stub ∈ stubs, (rank stub).evalBy oracle = (rank' stub).evalBy oracle)
    (best : Option (Float × Stub)) :
    (select rank best stubs).evalBy oracle = (select rank' best stubs).evalBy oracle := by
  induction stubs generalizing best with
  | nil => rfl
  | cons stub rest ih =>
    obtain ⟨hstub, hrest⟩ := List.forall_mem_cons.mp h
    simp only [select, Consult.evalBy_bind, hstub]
    exact ih hrest _

/-- Two messages that the stubs of a call hear alike come to the same. -/
theorem evalBy_next_congr {conversation : Conversation}
    (h : HeardAlike oracle conversation.opening.headers conversation.candidates message message') :
    (conversation.next message).evalBy oracle = (conversation.next message').evalBy oracle := by
  unfold next
  cases conversation.position? with
  | none => rfl
  | some position =>
    have hsurvivors : conversation.candidates.filter (fun stub =>
        (stub.acceptsAt message position).evalBy oracle) =
          conversation.candidates.filter fun stub =>
            (stub.acceptsAt message' position).evalBy oracle :=
      List.filter_congr fun stub hmem => (h stub hmem position).1
    simp only [Consult.evalBy_bind, Consult.evalBy_filter, hsurvivors]
    rw [evalBy_select_congr]
    intro stub hmem
    exact (h stub (List.mem_filter.mp hmem).1 position).2

/-- **Messages that are heard alike** lead to the same rounds. -/
theorem rounds_congr {messages messages' : List Fields}
    (h : List.Forall₂ (HeardAlike oracle headers stubs) messages messages')
    {conversation : Conversation} (hheaders : conversation.opening.headers = headers)
    (hmem : ∀ stub ∈ conversation.candidates, stub ∈ stubs) :
    conversation.rounds oracle messages = conversation.rounds oracle messages' := by
  induction h generalizing conversation with
  | nil => rfl
  | @cons message message' _ _ hmessage _ ih =>
    obtain ⟨hopening, hleft, -⟩ := next_spec oracle conversation message
    have hnext : (conversation.next message).evalBy oracle =
        (conversation.next message').evalBy oracle := by
      apply evalBy_next_congr
      rw [hheaders]
      exact fun stub hstub => hmessage stub (hmem stub hstub)
    rw [rounds_cons, rounds_cons, ← hnext]
    refine congrArg _ (ih ?_ fun stub hstub => hmem stub (hleft stub hstub))
    rw [hopening, hheaders]

/-! ### Single predicates -/

/-- A call of stubs with single predicates begins again after a message that some of them accept, and
ends at one that none of them does. -/
theorem next_of_singles {conversation : Conversation} (hfresh : conversation.progress = .fresh)
    (hasc : conversation.seed.Pairwise fun a b => a.id ≤ b.id)
    (hsingle : ∀ stub ∈ conversation.seed, stub.single?.isSome = true) (message : Fields) :
    let next := (conversation.next message).evalBy oracle
    (heirs oracle conversation.seed [message] ≠ [] ∧ next.2 = conversation ∧
      Alone oracle conversation.opening.headers conversation.seed message (roundOf next)) ∨
    (heirs oracle conversation.seed [message] = [] ∧ next.2.candidates = [] ∧
      roundOf next = ⟨none, [], none⟩) := by
  intro next
  rcases next_of_fresh hfresh hasc message with
    ⟨hsame, halone⟩ | ⟨-, -, -, hnarrowed, hordered⟩
  · refine .inl ⟨?_, hsame, halone⟩
    obtain ⟨leader, hleader, -⟩ := halone
    exact List.ne_nil_of_mem hleader.1
  · by_cases hnil : heirs oracle conversation.seed [message] = []
    · have hround : roundOf next = ⟨none, [], none⟩ := hnarrowed.1 hnil
      exact .inr ⟨hnil, congrArg Round.candidates hround, hround⟩
    · -- the stub that answers would have ordered predicates
      obtain ⟨leader, hleader, hround⟩ := hnarrowed.2 hnil
      have hnone := hordered leader (by rw [hround])
      rw [hsingle leader (mem_heirs.mp hleader.1).1] at hnone
      cases hnone

/-- **Stubs with single predicates** that accept messages alike give a call the same outline. -/
theorem outlines_congr {conversation : Conversation} (hfresh : conversation.progress = .fresh)
    (hasc : conversation.seed.Pairwise fun a b => a.id ≤ b.id)
    (hsingle : ∀ stub ∈ conversation.seed, stub.single?.isSome = true)
    {messages messages' : List Fields}
    (h : List.Forall₂ (fun message message' => ∀ stub ∈ conversation.seed,
      stub.acceptsBy oracle message 0 = stub.acceptsBy oracle message' 0) messages messages') :
    ((conversation.rounds oracle messages).map Round.response).map Response.outline =
      ((conversation.rounds oracle messages').map Round.response).map Response.outline := by
  induction h with
  | nil => rfl
  | @cons message message' rest rest' hmessage hrest ih =>
    have hheirs : heirs oracle conversation.seed [message] =
        heirs oracle conversation.seed [message'] := by
      rw [heirs, heirs]
      refine List.filter_congr fun stub hmem => ?_
      simp [hmessage stub hmem]
    simp only [rounds_cons, List.map_cons]
    rcases next_of_singles hfresh hasc hsingle message with
      ⟨hsome, hsame, _, -, -, hround⟩ | ⟨hnone, hleft, hround⟩
    · rcases next_of_singles hfresh hasc hsingle message' with
        ⟨-, hsame', _, -, -, hround'⟩ | ⟨hnone', -, -⟩
      · rw [hround, hround', hsame, hsame', ih]
        rfl
      · exact absurd (hheirs.trans hnone') hsome
    · rcases next_of_singles hfresh hasc hsingle message' with
        ⟨hsome', -, -⟩ | ⟨-, hleft', hround'⟩
      · exact absurd (hheirs.symm.trans hnone) hsome'
      · -- no stub is left for the other messages, of which there are as many
        rw [hround, hround', rounds_of_no_candidates hleft, rounds_of_no_candidates hleft',
          List.map_const', List.map_const', hrest.length_eq]

end Conversation

/-! ## Calls -/

namespace Desk

/-- **A call with respelled keys, among other commands.** After any run a call opens with stubs whose
wanted keys are all spelled conventionally, and messages come that are spelled well; then they come
again, their keys spelled in any way. The same stubs accept them. If all stubs have single
predicates, the same messages fail and the same stubs are left after each. If the keys that stubs
with single predicates want are left as they were, the responses are the same throughout. -/
theorem answers_respelled (oracle : Oracle) (settings : Settings) (before : List Command) :
    let reached := run oracle settings before
    ∀ (opening : Opening) (conversation : Conversation),
      ((reached.1.2.engine.converse opening).runBy oracle reached.2).1 = .ok conversation →
      (∀ stub ∈ conversation.seed, ∀ key, stub.Wants key → Conventional key) →
      (∀ message message', WellSpelled message → Respelled message message' →
        ∀ stub ∈ conversation.seed, ∀ position,
          stub.acceptsBy oracle message position = stub.acceptsBy oracle message' position) ∧
      ∀ (name : String) (commands commands' : List Command),
        (∀ again, .openCall name again ∉ commands) →
        (∀ again, .openCall name again ∉ commands') →
        let seen := seenOf name commands
          ((reached.1.2.perform (.openCall name opening :: commands)).runBy oracle reached.2).1.1
        let seen' := seenOf name commands'
          ((reached.1.2.perform (.openCall name opening :: commands')).runBy oracle reached.2).1.1
        ((∀ stub ∈ conversation.seed, stub.single?.isSome = true) →
          List.Forall₂ (fun message message' => WellSpelled message ∧ Respelled message message')
            (messagesTo name commands) (messagesTo name commands') →
          seen.map Response.outline = seen'.map Response.outline) ∧
        (List.Forall₂ (fun message message' => (WellSpelled message ∧
            Respelled message message') ∧ ∀ stub ∈ conversation.seed, stub.Spared message message')
            (messagesTo name commands) (messagesTo name commands') →
          seen = seen') := by
  intro reached opening conversation hopened hkeys
  obtain ⟨hsound, hcaches⟩ := sound_run oracle settings before
  rw [Consult.runBy_fst _ hcaches] at hopened
  obtain ⟨hfresh, hasc⟩ := hsound.converse_ascends hopened
  have haccepts : ∀ message message', WellSpelled message → Respelled message message' →
      ∀ stub ∈ conversation.seed, ∀ position,
        stub.acceptsBy oracle message position = stub.acceptsBy oracle message' position := by
    intro message message' hwell hrespelled stub hmem position
    unfold Stub.acceptsBy
    rw [Stub.acceptsAt_respelled hwell hrespelled (hkeys stub hmem)]
  refine ⟨haccepts, ?_⟩
  intro name commands commands' hopen hopen' seen seen'
  have hrounds : ∀ commands, (∀ again, .openCall name again ∉ commands) →
      seenOf name commands
          ((reached.1.2.perform (.openCall name opening :: commands)).runBy oracle reached.2).1.1 =
        (conversation.rounds oracle (messagesTo name commands)).map Round.response := by
    intro commands hopen
    rw [Consult.runBy_fst _ hcaches]
    exact seenOf_of_opened hopened hopen
  have hseen : seen = _ := hrounds commands hopen
  have hseen' : seen' = _ := hrounds commands' hopen'
  rw [hseen, hseen']
  constructor
  · intro hsingle hmessages
    refine Conversation.outlines_congr hfresh (hasc.imp fun hlt => hlt.le) hsingle ?_
    exact hmessages.imp fun message message' h stub hmem => haccepts _ _ h.1 h.2 stub hmem 0
  · intro hmessages
    have hheard : List.Forall₂ (Conversation.HeardAlike oracle conversation.opening.headers
        conversation.seed) (messagesTo name commands) (messagesTo name commands') := by
      refine hmessages.imp ?_
      rintro message message' ⟨⟨hwell, hrespelled⟩, hspared⟩ stub hmem position
      refine ⟨haccepts _ _ hwell hrespelled stub hmem position, ?_⟩
      unfold Stub.rankBy
      rw [Stub.rankAt_respelled hwell hrespelled (hkeys stub hmem) (hspared stub hmem)]
    have hcandidates : ∀ stub ∈ conversation.candidates, stub ∈ conversation.seed := by
      unfold Conversation.candidates
      rw [hfresh]
      exact fun _ hmem => hmem
    rw [Conversation.rounds_congr hheard rfl hcandidates]

end Desk

/-! ## Labels

The name of an item is wanted under both spellings of its key, and it is sent under both. -/

namespace Label

open Text (Word)

/-- The words of the key of a name. -/
def words : List Word :=
  [⟨'i', ['t', 'e', 'm'], rfl, rfl⟩, ⟨'n', ['a', 'm', 'e'], rfl, rfl⟩]

/-- The word of the key of a color. -/
def color : List Word :=
  [⟨'c', ['o', 'l', 'o', 'r'], rfl, rfl⟩]

/-- A red pen, its name under a key. -/
def naming (key : String) : Fields :=
  [("color", .str "red"), (key, .str "pen")]

def camel : Fields := naming "itemName"

def snake : Fields := naming "item_name"

theorem conventional_camel : ∀ entry ∈ camel, Conventional entry.1 := by
  intro entry hmem
  rcases List.mem_pair.mp hmem with rfl | rfl
  · exact ⟨color, .inl rfl⟩
  · exact ⟨words, .inr rfl⟩

theorem wellSpelled_camel : WellSpelled camel :=
  ⟨conventional_camel, (apart_iff_nodup conventional_camel).mpr (by decide)⟩

theorem respelled_camel : Respelled camel snake := by
  refine ⟨snake, .cons ⟨?_, rfl⟩ (.cons ⟨?_, rfl⟩ .nil), .refl _⟩
  · exact ⟨color, .inl rfl, .inl rfl⟩
  · exact ⟨words, .inr rfl, .inl rfl⟩

/-- What wants a field. -/
def wants (key value : String) : Predicate where
  equalTo := some [(key, .str value)]

theorem eq_of_wants {key wanted value : String} (h : (wants wanted value).Wants key) :
    key = wanted := by
  cases h with
  | field hwant hmem =>
    obtain rfl : _ = [(wanted, Json.str value)] := by simpa [wants, Predicate.maps] using hwant
    exact (Prod.mk.inj (List.mem_singleton.mp hmem)).1
  | alternative hmem _ => cases hmem

def stub (id : ℕ) (expectation : Expectation) : Stub where
  id := ⟨BitVec.ofNat 128 id⟩
  service := "Cart"
  method := "Add"
  expectation := expectation

/-- A stub that wants the name of each message in order. -/
def listing : Stub := stub 1 (.ordered [wants "item_name" "pen", wants "itemName" "pen"])

/-- A stub that wants a color. -/
def painting : Stub := stub 2 (.single (wants "color" "red"))

def opening : Opening where
  service := "Cart"
  method := "Add"

/-- The desk after some stubs have been stored, and its caches. -/
def reached (stubs : List Stub) : (List Response × Desk) × Caches :=
  Desk.run .standard {} [.put (fun _ => .nil) stubs]

/-- What is seen of some messages to a call that is opened then. -/
def seen (stubs : List Stub) (messages : List Fields) : List Response :=
  seenOf "a" (messages.map (.next "a")) (((reached stubs).1.2.perform
    (.openCall "a" opening :: messages.map (.next "a"))).runBy .standard (reached stubs).2).1.1

theorem sound_reached (stubs : List Stub) : (reached stubs).2.Sound .standard :=
  (Desk.sound_run .standard {} _).2

/-- A stub with ordered predicates, and one that wants what is not respelled. -/
def mixed : List Stub := [listing, painting]

theorem converse_mixed : (((reached mixed).1.2.engine.converse opening).runBy .standard
    (reached mixed).2).1 = .ok { opening, seed := mixed } := by
  refine (Consult.runBy_fst _ (sound_reached mixed)).trans ?_
  exact Desk.converse_put rfl rfl (by decide) (by decide) (by simp [mixed]) (by decide) (by decide)

theorem conventional_single {id : ℕ} {wanted value : String} (h : Conventional wanted) :
    ∀ key, (stub id (.single (wants wanted value))).Wants key → Conventional key := by
  rintro key ⟨predicate, hpredicate, hkey⟩
  have hsingle : wants wanted value = predicate := by
    simpa [Label.stub, Stub.single?, Stub.sequence] using hpredicate
  subst hsingle
  rwa [eq_of_wants hkey]

theorem conventional_mixed : ∀ stub ∈ mixed, ∀ key, stub.Wants key → Conventional key := by
  intro stub hmem
  rcases List.mem_pair.mp hmem with rfl | rfl
  · rintro key ⟨predicate, hpredicate, hkey⟩
    have hlist : predicate = wants "item_name" "pen" ∨ predicate = wants "itemName" "pen" := by
      simpa [listing, Label.stub, Stub.single?, Stub.sequence] using hpredicate
    rcases hlist with rfl | rfl
    · rw [eq_of_wants hkey]
      exact ⟨words, .inl rfl⟩
    · rw [eq_of_wants hkey]
      exact ⟨words, .inr rfl⟩
  · exact conventional_single ⟨color, .inl rfl⟩

/-- The color is left as it is. -/
theorem spared_mixed : ∀ stub ∈ mixed, stub.Spared camel snake := by
  intro stub hmem predicate key hsingle hkey
  rcases List.mem_pair.mp hmem with rfl | rfl
  · cases hsingle
  · obtain rfl := Option.some.inj hsingle
    rw [eq_of_wants hkey]
    rfl

end Label

namespace Desk

/-- The name is sent under one spelling and then under the other, and is answered alike. -/
theorem answers_respelled_label :
    (((Label.reached Label.mixed).1.2.engine.converse Label.opening).runBy .standard
      (Label.reached Label.mixed).2).1 = .ok { opening := Label.opening, seed := Label.mixed } ∧
    (∀ stub ∈ Label.mixed, ∀ key, stub.Wants key → Conventional key) ∧
    (WellSpelled Label.camel ∧ Respelled Label.camel Label.snake) ∧
    (∀ stub ∈ Label.mixed, stub.Spared Label.camel Label.snake) ∧
    Label.seen Label.mixed [Label.camel, Label.camel] =
      Label.seen Label.mixed [Label.snake, Label.snake] := by
  have hmessage : WellSpelled Label.camel ∧ Respelled Label.camel Label.snake :=
    ⟨Label.wellSpelled_camel, Label.respelled_camel⟩
  refine ⟨Label.converse_mixed, Label.conventional_mixed, hmessage, Label.spared_mixed, ?_⟩
  obtain ⟨-, hcall⟩ := answers_respelled .standard {} _ Label.opening _ Label.converse_mixed
    Label.conventional_mixed
  refine (hcall "a" _ _ (by simp) (by simp)).2 ?_
  exact .cons ⟨hmessage, Label.spared_mixed⟩ (.cons ⟨hmessage, Label.spared_mixed⟩ .nil)

end Desk

/-! ### Two spellings that are wanted -/

namespace Label

/-- A stub that wants the name under one of its keys. -/
def camelStub : Stub := stub 1 (.single (wants "itemName" "pen"))

def snakeStub : Stub := stub 2 (.single (wants "item_name" "pen"))

def rivals : List Stub := [camelStub, snakeStub]

theorem converse_rivals :
    ((reached rivals).1.2.engine.converse opening).evalBy .standard =
      .ok { opening, seed := rivals } :=
  Desk.converse_put rfl rfl (by decide) (by decide) (by simp [rivals]) (by decide) (by decide)

theorem conventional_rivals : ∀ stub ∈ rivals, ∀ key, stub.Wants key → Conventional key := by
  intro stub hmem
  rcases List.mem_pair.mp hmem with rfl | rfl
  · exact conventional_single ⟨words, .inr rfl⟩
  · exact conventional_single ⟨words, .inl rfl⟩

/-- Both stubs accept a message under either spelling. -/
theorem heirs_rivals {message : Fields} (h : message = camel ∨ message = snake) :
    heirs .standard rivals [message] = rivals := by
  rw [heirs, List.filter_eq_self]
  rcases h with rfl | rfl <;> decide

/-- The rival answers that ranks higher. -/
theorem seen_rivals {message : Fields} (hmessage : message = camel ∨ message = snake)
    {best other : Stub} (hrivals : rivals = [best, other] ∨ rivals = [other, best])
    (hrank : other.rankBy .standard [] message 0 < best.rankBy .standard [] message 0) :
    seen rivals [message] = [.turn (.ok best) rivals (some 0)] := by
  have hmem : ∀ stub, stub ∈ rivals ↔ stub = best ∨ stub = other := by
    intro stub
    rcases hrivals with hrivals | hrivals
    · rw [hrivals, List.mem_pair]
    · rw [hrivals, List.mem_pair, or_comm]
  have hheirs := heirs_rivals hmessage
  let conversation : Conversation := { opening, seed := rivals }
  have hasc : conversation.seed.Pairwise fun a b => a.id ≤ b.id := by decide
  have hsingle : ∀ stub ∈ conversation.seed, stub.single?.isSome = true := by decide
  have hround : Conversation.roundOf ((conversation.next message).evalBy .standard) =
      ⟨some best, rivals, some 0⟩ := by
    rcases Conversation.next_of_singles rfl hasc hsingle message with
      ⟨-, -, leader, hleader, -, hround⟩ | ⟨hnil, -⟩
    · rw [hheirs] at hleader
      rcases (hmem leader).mp hleader.1 with rfl | rfl
      · exact hround
      · exact absurd hrank (hleader.2 best ((hmem best).mpr (.inl rfl))).1
    · rw [hheirs] at hnil
      cases hnil
  rw [seen, Consult.runBy_fst _ (sound_reached rivals),
    Desk.seenOf_of_opened converse_rivals (by simp)]
  show [(Conversation.roundOf ((conversation.next message).evalBy .standard)).response] = _
  rw [hround]
  rfl

theorem seen_camel : seen rivals [camel] = [.turn (.ok camelStub) rivals (some 0)] :=
  seen_rivals (.inl rfl) (.inl rfl) (by decide +kernel)

theorem seen_snake : seen rivals [snake] = [.turn (.ok snakeStub) rivals (some 0)] :=
  seen_rivals (.inr rfl) (.inr rfl) (by decide +kernel)

end Label

namespace Desk

/-- **The stub that answers changes with the spelling** of a key, where two stubs with single
predicates want it under both. -/
theorem answer_depends_on_spelling :
    (∀ stub ∈ Label.rivals, ∀ key, stub.Wants key → Conventional key) ∧
    WellSpelled Label.camel ∧ Respelled Label.camel Label.snake ∧
    Label.seen Label.rivals [Label.camel] = [.turn (.ok Label.camelStub) Label.rivals (some 0)] ∧
    Label.seen Label.rivals [Label.snake] = [.turn (.ok Label.snakeStub) Label.rivals (some 0)] ∧
    Label.camelStub ≠ Label.snakeStub := by
  refine ⟨Label.conventional_rivals, Label.wellSpelled_camel, Label.respelled_camel,
    Label.seen_camel, Label.seen_snake, fun heq => ?_⟩
  have hid := congrArg Stub.id heq
  revert hid
  decide

end Desk

end Understudy
