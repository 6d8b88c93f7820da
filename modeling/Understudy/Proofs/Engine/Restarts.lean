import Understudy.Proofs.Engine.Agreement
import Understudy.Proofs.Engine.Sessions

/-!
# Where a call starts over

As long as stubs with a single predicate answer the messages of a call from its beginning on, the
call starts over after each of them, with all its stubs. The messages after these are taken in one
after the other: whatever answers one of them has accepted all of them so far, a stub with ordered
predicates by its predicates from the first one on. So no stub that has refused a message since then
comes back, and a call without stubs with single predicates never starts over.

## Main definitions

* `Response.alone`: a stub with a single predicate answers
* `leadIn`: how many messages such stubs answer from the beginning of a call on

## Main results

* `ClosedForm.accepts_of_answers`: what answers has accepted all messages after the lead-in
* `Desk.never_readmitted`: the same after any run, among other commands
-/

namespace Understudy

/-! ## The lead-in -/

/-- Whether a stub with a single predicate answers. -/
def Response.alone : Response → Bool
  | .turn (.ok leader) _ _ => leader.single?.isSome
  | _ => false

/-- How many messages are answered by stubs with single predicates, from the first one on. -/
def leadIn (responses : List Response) : ℕ :=
  responses.findIdx fun response => !response.alone

theorem Round.alone_response (round : Round) :
    round.response.alone = round.stub.any fun stub => stub.single?.isSome := by
  unfold response
  cases round.stub <;> rfl

/-- Where the first response is that is not a stub's with a single predicate. -/
theorem leadIn_eq {rounds : List Round} {first : ℕ} (hle : first ≤ rounds.length)
    (hbefore : ∀ j < first, ∀ round, rounds[j]? = some round → round.response.alone = true)
    (hfirst : ∀ round, rounds[first]? = some round → round.response.alone = false) :
    leadIn (rounds.map Round.response) = first := by
  rw [leadIn, List.findIdx_map]
  rcases hle.lt_or_eq with hlt | rfl
  · refine (List.findIdx_eq hlt).mpr ⟨?_, fun j hj => ?_⟩
    · simp [hfirst _ (List.getElem?_eq_getElem hlt)]
    · simp [hbefore j hj _ (List.getElem?_eq_getElem (hj.trans hlt))]
  · -- all rounds belong to the lead-in
    refine List.findIdx_eq_length.mpr fun round hmem => ?_
    obtain ⟨j, hj, rfl⟩ := List.getElem_of_mem hmem
    simp [hbefore j hj _ (List.getElem?_eq_getElem hj)]

namespace ClosedForm

variable {oracle : Oracle} {headers : Fields} {seed : List Stub} {messages : List Fields}
  {rounds : List Round}

/-- **The closed form turns** at the end of the lead-in: each round before it leaves the call as it
began, and each round from there on is that of the messages since. -/
theorem at_leadIn (h : ClosedForm oracle headers seed messages rounds) :
    let first := leadIn (rounds.map Round.response)
    (∀ j < first, ∀ message round, messages[j]? = some message → rounds[j]? = some round →
      Alone oracle headers seed message round) ∧
    ∀ j ≥ first, ∀ message round, messages[j]? = some message → rounds[j]? = some round →
      Narrowed oracle headers seed ((messages.take (j + 1)).drop first) message round := by
  obtain ⟨hlength, first, hle, halone, hordered, hnarrowed, -⟩ := h
  have hfirst : leadIn (rounds.map Round.response) = first := by
    apply leadIn_eq (hlength ▸ hle)
    · intro j hj round hround
      have hlt : j < messages.length := Nat.lt_of_lt_of_le hj hle
      obtain ⟨leader, -, hsingle, rfl⟩ :=
        halone j hj _ round (List.getElem?_eq_getElem hlt) hround
      rwa [Round.alone_response]
    · intro round hround
      rw [Round.alone_response]
      cases hstub : round.stub with
      | none => rfl
      | some stub => exact hordered round stub hround hstub
  rw [hfirst]
  exact ⟨halone, hnarrowed⟩

section Answers

variable (h : ClosedForm oracle headers seed messages rounds) {n : ℕ} {round : Round} {stub : Stub}
  (hround : rounds[n]? = some round) (hstub : round.stub = some stub)

include h hround hstub

/-- Only stubs with single predicates answer within the lead-in. -/
theorem leadIn_le (hordered : stub.single? = none) : leadIn (rounds.map Round.response) ≤ n := by
  by_contra hlt
  -- within the lead-in it would be a stub with a single predicate
  have hn : n < messages.length := h.1 ▸ (List.getElem?_eq_some_iff.mp hround).1
  obtain ⟨leader, -, hsingle, rfl⟩ :=
    h.at_leadIn.1 n (Nat.lt_of_not_le hlt) _ round (List.getElem?_eq_getElem hn) hround
  obtain rfl : leader = stub := Option.some.inj hstub
  rw [hordered] at hsingle
  cases hsingle

/-- **What answers** a message after the lead-in has accepted all messages since, each at its
position. -/
theorem accepts_of_answers (hn : leadIn (rounds.map Round.response) ≤ n) {i : ℕ} {message : Fields}
    (hi : leadIn (rounds.map Round.response) ≤ i) (hin : i ≤ n)
    (hmessage : messages[i]? = some message) :
    stub.acceptsBy oracle message (i - leadIn (rounds.map Round.response)) = true := by
  have hlt : n < messages.length := h.1 ▸ (List.getElem?_eq_some_iff.mp hround).1
  obtain ⟨hnone, hsome⟩ := h.at_leadIn.2 n hn _ round (List.getElem?_eq_getElem hlt) hround
  -- some stub has accepted all messages since, for otherwise none would answer
  have hheirs : heirs oracle seed
      ((messages.take (n + 1)).drop (leadIn (rounds.map Round.response))) ≠ [] := by
    intro hnil
    rw [hnone hnil] at hstub
    cases hstub
  obtain ⟨leader, hleader, rfl⟩ := hsome hheirs
  obtain rfl : leader = stub := Option.some.inj hstub
  apply (mem_heirs.mp hleader.1).2
  rw [List.getElem?_drop, Nat.add_sub_cancel' hi, List.getElem?_take_of_lt (by omega), hmessage]

end Answers

/-- A call without stubs with single predicates has no lead-in. -/
theorem leadIn_eq_zero (h : ClosedForm oracle headers seed messages rounds)
    (hordered : ∀ stub ∈ seed, stub.single? = none) :
    leadIn (rounds.map Round.response) = 0 := by
  apply leadIn_eq (Nat.zero_le _)
  · intro j hj
    omega
  intro round hround
  -- already the first message is answered by a stub of the call, and that has ordered predicates
  have hlt : 0 < messages.length := h.1 ▸ (List.getElem?_eq_some_iff.mp hround).1
  obtain ⟨hnone, hsome⟩ := h.narrowed hordered (List.getElem?_eq_getElem hlt) hround
  rw [Round.alone_response]
  by_cases hnil : heirs oracle seed (messages.take (0 + 1)) = []
  · rw [hnone hnil]
    rfl
  · obtain ⟨leader, hleader, rfl⟩ := hsome hnil
    rw [Option.any_some, hordered leader (mem_heirs.mp hleader.1).1]
    rfl

end ClosedForm

/-- A stub with ordered predicates that accepts a message at a position has a predicate there. -/
theorem Stub.exists_of_acceptsBy {oracle : Oracle} {stub : Stub} {message : Fields} {position : ℕ}
    (hordered : stub.single? = none) (h : stub.acceptsBy oracle message position = true) :
    ∃ predicate, stub.sequence[position]? = some predicate ∧
      (predicate.tolerates message).evalBy oracle = true := by
  obtain ⟨predicates, hpredicates⟩ := Stub.ordered_of_single? hordered
  unfold acceptsBy acceptsAt at h
  rw [hpredicates] at h
  dsimp only at h
  rw [sequence, hpredicates]
  dsimp only
  cases hpredicate : predicates[position]? with
  | none =>
    rw [hpredicate] at h
    cases h
  | some predicate =>
    rw [hpredicate] at h
    exact ⟨predicate, rfl, h⟩

/-! ## Calls among other commands -/

namespace Desk

/-- **No stub is readmitted**, after any run from the start. The messages of a call that stubs with
single predicates answer from the first one on are its lead-in. If a stub answers a later message, it
has accepted each message since the lead-in, at its position among these; if a stub with ordered
predicates answers a message, that is after the lead-in, and it has accepted each message since by
its predicates from the first one on. A call that begins with stubs with ordered predicates only has
no lead-in. -/
theorem never_readmitted (oracle : Oracle) (settings : Settings) (before : List Command)
    (opening : Opening) (name : String) (commands : List Command)
    (hopen : ∀ again, .openCall name again ∉ commands) :
    let reached := run oracle settings before
    let messages := messagesTo name commands
    let seen := seenOf name commands
      ((reached.1.2.perform (.openCall name opening :: commands)).runBy oracle reached.2).1.1
    let first := leadIn seen
    (∀ n stub candidates position, seen[n]? = some (.turn (.ok stub) candidates position) →
      (first ≤ n → ∀ i message, first ≤ i → i ≤ n → messages[i]? = some message →
        stub.acceptsBy oracle message (i - first) = true) ∧
      (stub.single? = none → first ≤ n ∧ ∀ i, first ≤ i → i ≤ n →
        ∃ predicate message, stub.sequence[i - first]? = some predicate ∧
          messages[i]? = some message ∧ (predicate.tolerates message).evalBy oracle = true)) ∧
    ∀ conversation, ((reached.1.2.engine.converse opening).runBy oracle reached.2).1 =
        .ok conversation → (∀ stub ∈ conversation.seed, stub.single? = none) → first = 0 := by
  intro reached messages seen first
  obtain ⟨hsound, hcaches⟩ := sound_run oracle settings before
  rw [Consult.runBy_fst _ hcaches]
  have hrun : seen = seenOf name commands
      ((reached.1.2.perform (.openCall name opening :: commands)).evalBy oracle).1 := by
    show seenOf _ _ _ = _
    rw [Consult.runBy_fst _ hcaches]
  cases hopened : (reached.1.2.engine.converse opening).evalBy oracle with
  | error failure =>
    -- every message fails
    rw [seenOf_of_failed hopened] at hrun
    constructor
    · intro n stub candidates position hn
      rw [hrun, List.getElem?_map] at hn
      obtain ⟨-, -, hsilent⟩ := Option.map_eq_some_iff.mp hn
      cases hsilent
    · intro conversation hconversation
      cases hconversation
  | ok conversation =>
    rw [seenOf_of_opened hopened hopen] at hrun
    obtain ⟨hfresh, hasc⟩ := hsound.converse_ascends hopened
    have hclosed : ClosedForm oracle conversation.opening.headers conversation.seed messages
        (conversation.rounds oracle messages) :=
      Conversation.closedForm_rounds hfresh (hasc.imp le_of_lt) messages
    have hfirst : first = leadIn ((conversation.rounds oracle messages).map Round.response) :=
      congrArg leadIn hrun
    rw [hfirst]
    constructor
    · intro n stub candidates position hn
      rw [hrun, List.getElem?_map] at hn
      obtain ⟨round, hround, hresponse⟩ := Option.map_eq_some_iff.mp hn
      have hstub := Round.stub_of_response hresponse
      have haccepts := fun hle i message hi hin (hmessage : messages[i]? = some message) =>
        hclosed.accepts_of_answers hround hstub hle hi hin hmessage
      refine ⟨haccepts, ?_⟩
      intro hordered
      have hle := hclosed.leadIn_le hround hstub hordered
      refine ⟨hle, ?_⟩
      intro i hi hin
      -- there are as many rounds as messages
      have hlt : i < messages.length := by
        have hn : n < (conversation.rounds oracle messages).length :=
          (List.getElem?_eq_some_iff.mp hround).1
        rw [Conversation.length_rounds] at hn
        omega
      have hmessage := List.getElem?_eq_getElem hlt
      obtain ⟨predicate, hpredicate, htolerates⟩ :=
        Stub.exists_of_acceptsBy hordered (haccepts hle i _ hi hin hmessage)
      exact ⟨predicate, _, hpredicate, hmessage, htolerates⟩
    · intro other hother hordered
      obtain rfl := Except.ok.inj hother
      exact hclosed.leadIn_eq_zero hordered

end Desk

/-! ## A cup before the pen

A stub with a single predicate takes the cup, and the call starts over with a pen and ink. -/

namespace Pause

/-- A stub that takes cups. -/
def drinking : Stub where
  id := ⟨2⟩
  service := "Cart"
  method := "Add"
  expectation := .single (Errand.wants "cup")

def before : List Command :=
  [.put (fun _ => .nil) [Errand.writing, drinking]]

def opening : Opening where
  service := "Cart"
  method := "Add"

/-- The messages of the call, with another command among them. -/
def commands : List Command :=
  [.next "a" (Errand.carrying "cup"), .next "a" (Errand.carrying "pen"), .size,
    .next "a" (Errand.carrying "ink")]

/-- What is seen of the messages. -/
def seen : List Response :=
  let reached := Desk.run .standard {} before
  seenOf "a" commands
    ((reached.1.2.perform (.openCall "a" opening :: commands)).runBy .standard reached.2).1.1

theorem openCall_notMem : ∀ again, Command.openCall "a" again ∉ commands := by
  intro again
  simp [commands]

theorem seen_eq : seen =
    [.turn (.ok drinking) [Errand.writing, drinking] (some 0),
      .turn (.ok Errand.writing) [Errand.writing] (some 1),
      .turn (.ok Errand.writing) [Errand.writing] (some 2)] := by
  have hopened : ((Desk.run .standard {} before).1.2.engine.converse opening).evalBy .standard =
      .ok { opening, seed := [Errand.writing, drinking] } :=
    Desk.converse_put rfl rfl (by decide) (by decide) (by simp) (by decide) (by decide)
  rw [seen, Consult.runBy_fst _ (Desk.sound_run .standard {} before).2,
    Desk.seenOf_of_opened hopened openCall_notMem]
  rfl

end Pause

namespace Desk

/-- The pen and the ink are taken in by the two predicates, after the cup. -/
theorem never_readmitted_pause :
    (∀ again, .openCall "a" again ∉ Pause.commands) ∧
    Pause.seen[2]? = some (.turn (.ok Errand.writing) [Errand.writing] (some 2)) ∧
    Errand.writing.single? = none ∧ leadIn Pause.seen = 1 ∧
    ∀ i, 1 ≤ i → i ≤ 2 → ∃ predicate message, Errand.writing.sequence[i - 1]? = some predicate ∧
      (messagesTo "a" Pause.commands)[i]? = some message ∧
      (predicate.tolerates message).evalBy .standard = true := by
  have hturn : Pause.seen[2]? = some (.turn (.ok Errand.writing) [Errand.writing] (some 2)) := by
    rw [Pause.seen_eq]
    rfl
  have hlead : leadIn Pause.seen = 1 := by
    rw [Pause.seen_eq]
    rfl
  obtain ⟨hanswers, -⟩ :=
    never_readmitted .standard {} Pause.before Pause.opening "a" Pause.commands Pause.openCall_notMem
  have haccepts : ∀ i, leadIn Pause.seen ≤ i → i ≤ 2 → ∃ predicate message,
      Errand.writing.sequence[i - leadIn Pause.seen]? = some predicate ∧
        (messagesTo "a" Pause.commands)[i]? = some message ∧
        (predicate.tolerates message).evalBy .standard = true :=
    ((hanswers 2 _ _ _ hturn).2 rfl).2
  rw [hlead] at haccepts
  exact ⟨Pause.openCall_notMem, hturn, rfl, hlead, haccepts⟩

/-- **A stub starts its list in the middle of a call**: the stub that answers the pen, the second
message, has no predicate that accepts the first. -/
theorem starts_over_after_single :
    Pause.seen[1]? = some (.turn (.ok Errand.writing) [Errand.writing] (some 1)) ∧
    Errand.writing.single? = none ∧
    ¬ ∃ predicate message, Errand.writing.sequence[0]? = some predicate ∧
      (messagesTo "a" Pause.commands)[0]? = some message ∧
      (predicate.tolerates message).evalBy .standard = true := by
  refine ⟨by rw [Pause.seen_eq]; rfl, rfl, ?_⟩
  rintro ⟨predicate, message, hpredicate, hmessage, htolerates⟩
  obtain rfl := Option.some.inj hpredicate
  obtain rfl := Option.some.inj hmessage
  revert htolerates
  decide

end Desk

end Understudy
