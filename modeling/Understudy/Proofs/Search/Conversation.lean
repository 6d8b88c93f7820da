import Understudy.Proofs.Decimal.Order
import Understudy.Proofs.Identifier
import Understudy.Proofs.Memo.Transparency
import Understudy.Search.Conversation

/-!
# What a call answers, in closed form

A call takes its messages in one by one and keeps only the stubs that are left. The same stubs are
told by the messages alone: the *heirs* of some messages are the stubs that the call began with and
that accept each message at its position. As long as a stub with a single predicate leads the heirs
of every message on its own, it answers and the call stays as it was. From the first message on
where this fails, the leader of the heirs of all messages since then answers, until there are none.

## Main definitions

* `heirs`: the stubs that accept some messages one after the other
* `IsLeader`: the stub among some that ranks highest for a message
* `Round`, `Conversation.rounds`: what is seen of a call after each message
* `Alone`, `Narrowed`, `ClosedForm`: the closed form of the rounds of a call

## Main results

* `evalBy_select`: the selection finds a leader
* `Conversation.closedForm_rounds`: the rounds of a call have the closed form
-/

namespace Understudy

section Stubs

variable (oracle : Oracle)

/-- Whether a stub accepts a message at a position, as an oracle has it. -/
def Stub.acceptsBy (message : Fields) (position : ℕ) (stub : Stub) : Bool :=
  (stub.acceptsAt message position).evalBy oracle

/-- How high a stub ranks for a message at a position, as an oracle has it. -/
def Stub.rankBy (headers message : Fields) (position : ℕ) (stub : Stub) : Float :=
  (stub.rankAt headers message position).evalBy oracle

/-- The stubs among some that accept messages one after the other, each at its position. -/
def heirs (stubs : List Stub) (messages : List Fields) : List Stub :=
  stubs.filter fun stub => messages.zipIdx.all fun entry => stub.acceptsBy oracle entry.1 entry.2

/-- A stub among some that ranks highest for a message at a position: none ranks higher, and none
that ranks as high has a smaller identifier. -/
def IsLeader (headers message : Fields) (position : ℕ) (stubs : List Stub) (leader : Stub) :
    Prop :=
  leader ∈ stubs ∧ ∀ other ∈ stubs,
    ¬ leader.rankBy oracle headers message position <
        other.rankBy oracle headers message position ∧
    ((other.rankBy oracle headers message position ==
        leader.rankBy oracle headers message position) = true → leader.id ≤ other.id)

variable {oracle}

theorem mem_heirs {stubs : List Stub} {messages : List Fields} {stub : Stub} :
    stub ∈ heirs oracle stubs messages ↔ stub ∈ stubs ∧ ∀ (position : ℕ) (message : Fields),
      messages[position]? = some message → stub.acceptsBy oracle message position = true := by
  rw [heirs, List.mem_filter, List.all_eq_true]
  refine and_congr_right fun _ => ⟨fun h position message hm => ?_, fun h entry he => ?_⟩
  · exact h (message, position) (List.mem_zipIdx_iff_getElem?.mpr hm)
  · exact h entry.2 entry.1 (List.mem_zipIdx_iff_getElem?.mp he)

@[simp] theorem heirs_nil (stubs : List Stub) : heirs oracle stubs [] = stubs := by
  simp [heirs]

/-- One more message leaves those of the heirs that accept it at its position. -/
theorem heirs_concat (stubs : List Stub) (messages : List Fields) (message : Fields) :
    heirs oracle stubs (messages ++ [message]) =
      (heirs oracle stubs messages).filter (Stub.acceptsBy oracle message messages.length) := by
  rw [heirs, heirs, List.filter_filter]
  refine List.filter_congr fun stub _ => ?_
  rw [List.zipIdx_append, List.all_append, Bool.and_comm]
  simp

/-- A stub that accepts a message has one predicate, or some ordered ones. -/
theorem sequence_isEmpty_iff {message : Fields} {position : ℕ} {stub : Stub}
    (h : stub.acceptsBy oracle message position = true) :
    stub.sequence.isEmpty = true ↔ stub.single?.isSome = true := by
  unfold Stub.acceptsBy Stub.acceptsAt at h
  unfold Stub.sequence Stub.single?
  cases hexp : stub.expectation with
  | single predicate => simp
  | ordered predicates =>
    cases predicates with
    | nil => simp [hexp] at h
    | cons => simp

end Stubs

/-! ## The selection -/

section Selection

variable {oracle : Oracle} {headers message : Fields} {position : ℕ}

/-- What the selection holds is the leader of the stubs that it has seen, with its rank. -/
def HoldsLeader (oracle : Oracle) (headers message : Fields) (position : ℕ) (seen : List Stub) :
    Option (Float × Stub) → Prop
  | none => seen = []
  | some (rank, leader) => rank = leader.rankBy oracle headers message position ∧
      IsLeader oracle headers message position seen leader

/-- One more stub with a larger identifier takes the lead only if it ranks higher. -/
theorem HoldsLeader.concat {seen : List Stub} {best : Option (Float × Stub)}
    (h : HoldsLeader oracle headers message position seen best) (stub : Stub)
    (hid : ∀ other ∈ seen, other.id ≤ stub.id) :
    HoldsLeader oracle headers message position (seen ++ [stub])
      (if best.all (fun top => top.1 < stub.rankBy oracle headers message position) then
        some (stub.rankBy oracle headers message position, stub) else best) := by
  have hself : ¬ stub.rankBy oracle headers message position <
      stub.rankBy oracle headers message position := Decimal.lt_irrefl _
  match best, h with
  | none, h =>
    -- the first stub of all leads alone
    obtain rfl : seen = [] := h
    refine ⟨rfl, List.mem_cons_self, fun other ho => ?_⟩
    obtain rfl := List.mem_singleton.mp ho
    exact ⟨hself, fun _ => le_refl _⟩
  | some (rank, leader), ⟨hrank, hmem, hleads⟩ =>
    subst hrank
    simp only [Option.all_some, decide_eq_true_eq]
    split
    · next hlt =>
      -- a stub that beats the leader beats every stub that the leader beats
      refine ⟨rfl, List.mem_append_right _ List.mem_cons_self, fun other ho => ?_⟩
      rcases List.mem_append.mp ho with ho | ho
      · exact ⟨fun hgt => (hleads other ho).1 (Decimal.lt_trans hlt hgt),
          fun htie => absurd (Decimal.lt_of_lt_of_beq hlt htie) (hleads other ho).1⟩
      · obtain rfl := List.mem_singleton.mp ho
        exact ⟨hself, fun _ => le_refl _⟩
    · next hlt =>
      -- a stub that ties with the leader has a larger identifier
      refine ⟨rfl, List.mem_append_left _ hmem, fun other ho => ?_⟩
      rcases List.mem_append.mp ho with ho | ho
      · exact hleads other ho
      · obtain rfl := List.mem_singleton.mp ho
        exact ⟨hlt, fun _ => hid leader hmem⟩

/-- **The selection** goes on to hold the leader of all stubs, if they ascend. -/
theorem HoldsLeader.select {seen : List Stub} {best : Option (Float × Stub)}
    (h : HoldsLeader oracle headers message position seen best) (stubs : List Stub)
    (hasc : (seen ++ stubs).Pairwise fun a b => a.id ≤ b.id) :
    HoldsLeader oracle headers message position (seen ++ stubs)
      ((Conversation.select (Stub.rankAt headers message position) best stubs).evalBy oracle) := by
  induction stubs generalizing seen best with
  | nil => rwa [List.append_nil]
  | cons stub rest ih =>
    have hid : ∀ other ∈ seen, other.id ≤ stub.id := fun other ho =>
      (List.pairwise_append.mp hasc).2.2 other ho stub List.mem_cons_self
    rw [List.append_cons] at hasc ⊢
    rw [Conversation.select, Consult.evalBy_bind]
    exact ih (h.concat stub hid) hasc

theorem evalBy_select {stubs : List Stub} (hasc : stubs.Pairwise fun a b => a.id ≤ b.id) :
    HoldsLeader oracle headers message position stubs
      ((Conversation.select (Stub.rankAt headers message position) none stubs).evalBy oracle) := by
  have h : HoldsLeader oracle headers message position [] none := rfl
  exact h.select stubs hasc

end Selection

/-! ## One message -/

theorem heirs_ascend {oracle : Oracle} {stubs : List Stub} {messages : List Fields}
    (h : stubs.Pairwise fun a b => a.id ≤ b.id) :
    (heirs oracle stubs messages).Pairwise fun a b => a.id ≤ b.id :=
  List.Pairwise.filter _ h

namespace Conversation

variable {oracle : Oracle} {conversation : Conversation} {taken : List Fields}

/-- A message is met by the stubs that are left, of which those that accept it stay; the one that is
selected among them answers. -/
theorem evalBy_next_eq {position : ℕ} (hposition : conversation.position? = some position)
    (message : Fields) :
    (conversation.next message).evalBy oracle =
      let survivors := conversation.candidates.filter (Stub.acceptsBy oracle message position)
      match (select (Stub.rankAt conversation.opening.headers message position) none
          survivors).evalBy oracle with
      | none => (none, { conversation with progress := .exhausted })
      | some best => (some ⟨best.2, !best.2.sequence.isEmpty || position == 0⟩,
          { conversation with progress := after best.2 survivors position }) := by
  have hsurvivors : conversation.candidates.filter (fun stub =>
      (stub.acceptsAt message position).evalBy oracle) =
        conversation.candidates.filter (Stub.acceptsBy oracle message position) := rfl
  simp only [next, hposition, Consult.evalBy_bind, Consult.evalBy_filter, hsurvivors]
  split
  · next hbest =>
    rw [hbest]
    rfl
  · next rank leader hbest =>
    rw [hbest]
    rfl

/-- A message leaves the heirs of all messages, whose leader answers. -/
theorem evalBy_next (hasc : conversation.seed.Pairwise fun a b => a.id ≤ b.id)
    (hposition : conversation.position? = some taken.length)
    (hcandidates : conversation.candidates = heirs oracle conversation.seed taken)
    (message : Fields) :
    (heirs oracle conversation.seed (taken ++ [message]) = [] ∧
      (conversation.next message).evalBy oracle =
        (none, { conversation with progress := .exhausted })) ∨
    ∃ leader, IsLeader oracle conversation.opening.headers message taken.length
        (heirs oracle conversation.seed (taken ++ [message])) leader ∧
      (conversation.next message).evalBy oracle =
        (some ⟨leader, !leader.sequence.isEmpty || taken.length == 0⟩,
          { conversation with
            progress := after leader (heirs oracle conversation.seed (taken ++ [message]))
              taken.length }) := by
  have hselect : HoldsLeader oracle conversation.opening.headers message taken.length
      (heirs oracle conversation.seed (taken ++ [message])) _ :=
    evalBy_select (heirs_ascend hasc)
  have hsurvivors : conversation.candidates.filter (Stub.acceptsBy oracle message taken.length) =
      heirs oracle conversation.seed (taken ++ [message]) := by
    rw [heirs_concat, hcandidates]
  rw [evalBy_next_eq hposition, hsurvivors]
  dsimp only
  split
  · next hbest =>
    rw [hbest] at hselect
    exact .inl ⟨hselect, rfl⟩
  · next best hbest =>
    rw [hbest] at hselect
    exact .inr ⟨best.2, hselect.2, rfl⟩

end Conversation

/-! ## Rounds -/

/-- What is seen of a call after a message: the stub that answers, the stubs that are left, and the
position of the next message. -/
structure Round where
  stub : Option Stub
  candidates : List Stub
  position : Option ℕ

/-- The rounds of a call, one for each message. -/
def Conversation.rounds (oracle : Oracle) (conversation : Conversation) :
    List Fields → List Round
  | [] => []
  | message :: rest =>
    let next := (conversation.next message).evalBy oracle
    ⟨next.1.map Turn.stub, next.2.candidates, next.2.position?⟩ :: next.2.rounds oracle rest

section ClosedForm

variable (oracle : Oracle) (headers : Fields) (seed : List Stub)

/-- A round that leaves a call as it began: a stub with a single predicate leads those that accept
the message at the start, and answers. -/
def Alone (message : Fields) (round : Round) : Prop :=
  ∃ leader, IsLeader oracle headers message 0 (heirs oracle seed [message]) leader ∧
    leader.single?.isSome = true ∧ round = ⟨some leader, seed, some 0⟩

/-- A round of a call that has taken some messages in, the last of them just now: their heirs are
left and the leader of them answers, if there is any. -/
def Narrowed (taken : List Fields) (message : Fields) (round : Round) : Prop :=
  (heirs oracle seed taken = [] → round = ⟨none, [], none⟩) ∧
  (heirs oracle seed taken ≠ [] → ∃ leader,
    IsLeader oracle headers message (taken.length - 1) (heirs oracle seed taken) leader ∧
      round = ⟨some leader, heirs oracle seed taken, some taken.length⟩)

/-- The rounds that messages lead to, in closed form. Up to some message, each round leaves the call
as it began. The stub that answers that message, if any, has ordered predicates; from there on, each
round is that of the messages since, and once they have no heirs no stub answers any more. -/
def ClosedForm (messages : List Fields) (rounds : List Round) : Prop :=
  rounds.length = messages.length ∧ ∃ first ≤ messages.length,
    (∀ j < first, ∀ message round, messages[j]? = some message → rounds[j]? = some round →
      Alone oracle headers seed message round) ∧
    (∀ round stub, rounds[first]? = some round → round.stub = some stub →
      stub.single?.isSome = false) ∧
    (∀ j ≥ first, ∀ message round, messages[j]? = some message → rounds[j]? = some round →
      Narrowed oracle headers seed ((messages.take (j + 1)).drop first) message round) ∧
    (∀ i ≥ first, heirs oracle seed ((messages.take (i + 1)).drop first) = [] →
      ∀ j ≥ i, ∀ round, rounds[j]? = some round → round = ⟨none, [], none⟩)

end ClosedForm

namespace Conversation

variable {oracle : Oracle}

theorem length_rounds (conversation : Conversation) (messages : List Fields) :
    (conversation.rounds oracle messages).length = messages.length := by
  induction messages generalizing conversation with
  | nil => rfl
  | cons message rest ih => exact congrArg (· + 1) (ih _)

/-- What is seen of a call after a message. -/
def roundOf (next : Option Turn × Conversation) : Round :=
  ⟨next.1.map Turn.stub, next.2.candidates, next.2.position?⟩

/-- A call that has taken some messages in: their heirs are left, if there are any. -/
def Stands (oracle : Oracle) (conversation : Conversation) (taken : List Fields) : Prop :=
  (heirs oracle conversation.seed taken = [] → conversation.progress = .exhausted) ∧
  (heirs oracle conversation.seed taken ≠ [] →
    conversation.progress =
      .narrowing (heirs oracle conversation.seed taken) (taken.length - 1))

/-- A call that goes on after a stub has answered at a later position, or with ordered
predicates. -/
theorem after_eq_narrowing {leader : Stub} {survivors : List Stub} {position : ℕ}
    (h : ¬ (position = 0 ∧ leader.sequence.isEmpty = true)) :
    Conversation.after leader survivors position = .narrowing survivors position :=
  if_neg h

/-- A message whose leader narrows the call. -/
theorem narrowed_of_leader {conversation : Conversation} {taken : List Fields} {message : Fields}
    {leader : Stub} {counts : Bool}
    (hleader : IsLeader oracle conversation.opening.headers message taken.length
      (heirs oracle conversation.seed (taken ++ [message])) leader) :
    let next : Option Turn × Conversation := (some ⟨leader, counts⟩,
      { conversation with
        progress := .narrowing (heirs oracle conversation.seed (taken ++ [message]))
          taken.length })
    Stands oracle next.2 (taken ++ [message]) ∧
      Narrowed oracle conversation.opening.headers conversation.seed (taken ++ [message]) message
        (roundOf next) := by
  intro next
  have hne : heirs oracle conversation.seed (taken ++ [message]) ≠ [] :=
    List.ne_nil_of_mem hleader.1
  have hlength : (taken ++ [message]).length - 1 = taken.length := by simp
  refine ⟨⟨fun he => absurd he hne, fun _ => ?_⟩, fun he => absurd he hne, fun _ => ?_⟩
  · rw [hlength]
  · refine ⟨leader, by rwa [hlength], ?_⟩
    rw [List.length_append]
    rfl

/-- A message that no stub is left for. -/
theorem narrowed_of_nil {conversation : Conversation} {taken : List Fields}
    (hnil : heirs oracle conversation.seed taken = []) (message : Fields) :
    let next : Option Turn × Conversation := (none, { conversation with progress := .exhausted })
    Stands oracle next.2 taken ∧
      Narrowed oracle conversation.opening.headers conversation.seed taken message
        (roundOf next) := by
  intro next
  exact ⟨⟨fun _ => rfl, fun hne => absurd hnil hne⟩, fun _ => rfl, fun hne => absurd hnil hne⟩

/-- **One message more** for a call that has taken some messages in. -/
theorem Stands.next {conversation : Conversation} {taken : List Fields}
    (h : Stands oracle conversation taken) (htaken : taken ≠ [])
    (hasc : conversation.seed.Pairwise fun a b => a.id ≤ b.id) (message : Fields) :
    ∃ progress, ((conversation.next message).evalBy oracle).2 = { conversation with progress } ∧
      Stands oracle ((conversation.next message).evalBy oracle).2 (taken ++ [message]) ∧
      Narrowed oracle conversation.opening.headers conversation.seed (taken ++ [message]) message
        (roundOf ((conversation.next message).evalBy oracle)) := by
  by_cases hnil : heirs oracle conversation.seed taken = []
  · -- no stub was left before
    have hnext : (conversation.next message).evalBy oracle =
        (none, { conversation with progress := .exhausted }) := by
      have hprogress := h.1 hnil
      simp only [Conversation.next, position?, hprogress, Consult.evalBy_pure]
      rw [← hprogress]
    have hnil' : heirs oracle conversation.seed (taken ++ [message]) = [] := by
      rw [heirs_concat, hnil, List.filter_nil]
    rw [hnext]
    exact ⟨.exhausted, rfl, narrowed_of_nil hnil' message⟩
  · have hprogress := h.2 hnil
    have hlength : taken.length - 1 + 1 = taken.length :=
      Nat.sub_add_cancel (List.length_pos_iff.mpr htaken)
    have hposition : conversation.position? = some taken.length := by
      simp only [position?, hprogress, hlength]
    have hcandidates : conversation.candidates = heirs oracle conversation.seed taken := by
      simp only [candidates, hprogress]
    rcases evalBy_next hasc hposition hcandidates message with ⟨hnil', hnext⟩ | ⟨leader, hl, hnext⟩
    · rw [hnext]
      exact ⟨.exhausted, rfl, narrowed_of_nil hnil' message⟩
    · -- a leader at a later position never brings the call back to its beginning
      have hpos : ¬ (taken.length = 0 ∧ leader.sequence.isEmpty = true) := fun hz =>
        htaken (List.length_eq_zero_iff.mp hz.1)
      rw [hnext, after_eq_narrowing hpos]
      exact ⟨_, rfl, narrowed_of_leader hl⟩

/-- **The first message**: it leaves the call as it began, or is the first that is taken in. -/
theorem next_of_fresh {conversation : Conversation} (hfresh : conversation.progress = .fresh)
    (hasc : conversation.seed.Pairwise fun a b => a.id ≤ b.id) (message : Fields) :
    (((conversation.next message).evalBy oracle).2 = conversation ∧
      Alone oracle conversation.opening.headers conversation.seed message
        (roundOf ((conversation.next message).evalBy oracle))) ∨
    ∃ progress, ((conversation.next message).evalBy oracle).2 = { conversation with progress } ∧
      Stands oracle ((conversation.next message).evalBy oracle).2 [message] ∧
      Narrowed oracle conversation.opening.headers conversation.seed [message] message
        (roundOf ((conversation.next message).evalBy oracle)) ∧
      ∀ stub, (roundOf ((conversation.next message).evalBy oracle)).stub = some stub →
        stub.single?.isSome = false := by
  have hposition : conversation.position? = some ([] : List Fields).length := by
    simp only [position?, hfresh, List.length_nil]
  have hcandidates : conversation.candidates = heirs oracle conversation.seed [] := by
    simp only [candidates, hfresh, heirs_nil]
  rcases evalBy_next hasc hposition hcandidates message with ⟨hnil, hnext⟩ | ⟨leader, hl, hnext⟩
  · rw [hnext]
    exact .inr ⟨.exhausted, rfl, (narrowed_of_nil hnil message).1,
      (narrowed_of_nil hnil message).2, fun _ h => by cases h⟩
  · have haccepts : leader.acceptsBy oracle message 0 = true :=
      (mem_heirs.mp hl.1).2 0 message rfl
    rw [hnext]
    by_cases hsequence : leader.sequence.isEmpty = true
    · -- a stub with a single predicate leaves the call as it began
      have hsame : ({ conversation with
          progress := after leader (heirs oracle conversation.seed ([] ++ [message])) 0 } :
          Conversation) = conversation := by
        rw [after, if_pos ⟨rfl, hsequence⟩, ← hfresh]
      rw [List.length_nil, hsame]
      refine .inl ⟨rfl, leader, hl, (sequence_isEmpty_iff haccepts).mp hsequence, ?_⟩
      simp only [roundOf, candidates, position?, hfresh, Option.map_some]
    · -- a stub with ordered predicates narrows the call to the heirs
      rw [after_eq_narrowing fun h => hsequence h.2]
      refine .inr ⟨_, rfl, (narrowed_of_leader hl).1, (narrowed_of_leader hl).2,
        fun stub hstub => ?_⟩
      obtain rfl : leader = stub := Option.some.inj hstub
      exact Bool.eq_false_iff.mpr fun h => hsequence ((sequence_isEmpty_iff haccepts).mpr h)

/-! ## All messages -/

theorem rounds_cons (conversation : Conversation) (message : Fields) (rest : List Fields) :
    conversation.rounds oracle (message :: rest) =
      roundOf ((conversation.next message).evalBy oracle) ::
        ((conversation.next message).evalBy oracle).2.rounds oracle rest := rfl

/-- The rounds of a call that has taken some messages in. -/
theorem Stands.rounds {conversation : Conversation} {taken : List Fields}
    (h : Stands oracle conversation taken) (htaken : taken ≠ [])
    (hasc : conversation.seed.Pairwise fun a b => a.id ≤ b.id) (messages : List Fields) :
    ∀ j message round, messages[j]? = some message →
      (conversation.rounds oracle messages)[j]? = some round →
      Narrowed oracle conversation.opening.headers conversation.seed
        (taken ++ messages.take (j + 1)) message round := by
  induction messages generalizing conversation taken with
  | nil =>
    intro j message round hm
    cases hm
  | cons first rest ih =>
    obtain ⟨progress, hnext, hstands, hnarrowed⟩ := h.next htaken hasc first
    rw [rounds_cons]
    intro j message round hm hr
    cases j with
    | zero =>
      obtain rfl := Option.some.inj hm
      obtain rfl := Option.some.inj hr
      exact hnarrowed
    | succ j =>
      rw [hnext] at hstands hr
      have hlater := ih hstands (List.append_ne_nil_of_right_ne_nil _ (List.cons_ne_nil _ _))
        hasc j message round hm hr
      rwa [List.append_assoc] at hlater

/-- The messages up to a first one leave a fresh call as it began, and those from there on are taken
in. -/
theorem exists_first {conversation : Conversation} (hfresh : conversation.progress = .fresh)
    (hasc : conversation.seed.Pairwise fun a b => a.id ≤ b.id) (messages : List Fields) :
    ∃ first ≤ messages.length,
      (∀ j < first, ∀ message round, messages[j]? = some message →
        (conversation.rounds oracle messages)[j]? = some round →
        Alone oracle conversation.opening.headers conversation.seed message round) ∧
      (∀ round stub, (conversation.rounds oracle messages)[first]? = some round →
        round.stub = some stub → stub.single?.isSome = false) ∧
      (∀ j ≥ first, ∀ message round, messages[j]? = some message →
        (conversation.rounds oracle messages)[j]? = some round →
        Narrowed oracle conversation.opening.headers conversation.seed
          ((messages.take (j + 1)).drop first) message round) := by
  induction messages with
  | nil =>
    refine ⟨0, le_refl _, fun j hj => absurd hj (Nat.not_lt_zero j), fun _ _ hr => ?_,
      fun _ _ _ _ hm => ?_⟩
    · cases hr
    · cases hm
  | cons message rest ih =>
    rw [rounds_cons]
    rcases next_of_fresh hfresh hasc message with
      ⟨hsame, halone⟩ | ⟨progress, hnext, hstands, hnarrowed, hordered⟩
    · -- the call is as it began, so the rest is as if this message had not come
      obtain ⟨first, hfirst, hbefore, hat, hfrom⟩ := ih
      rw [hsame]
      refine ⟨first + 1, Nat.succ_le_succ hfirst, fun j hj m r hm hr => ?_, hat,
        fun j hj m r hm hr => ?_⟩
      · cases j with
        | zero =>
          obtain rfl := Option.some.inj hm
          obtain rfl := Option.some.inj hr
          exact halone
        | succ j => exact hbefore j (Nat.lt_of_succ_lt_succ hj) m r hm hr
      · cases j with
        | zero => exact absurd hj (Nat.not_succ_le_zero first)
        | succ j => exact hfrom j (Nat.le_of_succ_le_succ hj) m r hm hr
    · -- the first message is taken in, and so is every message after it
      refine ⟨0, Nat.zero_le _, fun j hj => absurd hj (Nat.not_lt_zero j), fun r stub hr => ?_,
        fun j _ m r hm hr => ?_⟩
      · obtain rfl := Option.some.inj hr
        exact hordered stub
      · cases j with
        | zero =>
          obtain rfl := Option.some.inj hm
          obtain rfl := Option.some.inj hr
          exact hnarrowed
        | succ j =>
          rw [List.getElem?_cons_succ, hnext] at hr
          rw [hnext] at hstands
          exact hstands.rounds (List.cons_ne_nil _ _) hasc rest j m r hm hr

/-- Messages that have no heirs never get any. -/
theorem heirs_append_eq_nil {stubs : List Stub} {messages : List Fields}
    (h : heirs oracle stubs messages = []) (more : List Fields) :
    heirs oracle stubs (messages ++ more) = [] := by
  refine List.eq_nil_iff_forall_not_mem.mpr fun stub hs => ?_
  obtain ⟨hmem, haccepts⟩ := mem_heirs.mp hs
  refine List.eq_nil_iff_forall_not_mem.mp h stub (mem_heirs.mpr ⟨hmem, fun i m hm => ?_⟩)
  exact haccepts i m (by rw [List.getElem?_append_left (List.getElem?_eq_some_iff.mp hm).1, hm])

/-- **The closed form of a call** that is fed with messages one by one. -/
theorem closedForm_rounds {conversation : Conversation} (hfresh : conversation.progress = .fresh)
    (hasc : conversation.seed.Pairwise fun a b => a.id ≤ b.id) (messages : List Fields) :
    ClosedForm oracle conversation.opening.headers conversation.seed messages
      (conversation.rounds oracle messages) := by
  obtain ⟨first, hfirst, hbefore, hat, hfrom⟩ := exists_first hfresh hasc messages
  refine ⟨length_rounds conversation messages, first, hfirst, hbefore, hat, hfrom, ?_⟩
  intro i hi hnil j hj round hr
  have hlength : j < messages.length :=
    (List.getElem?_eq_some_iff.mp hr).1.trans_eq (length_rounds conversation messages)
  refine (hfrom j (hi.trans hj) _ round (List.getElem?_eq_getElem hlength) hr).1 ?_
  -- the later messages begin with the earlier ones, which have no heirs
  obtain ⟨more, hmore⟩ :
      (messages.take (i + 1)).drop first <+: (messages.take (j + 1)).drop first :=
    List.IsPrefix.drop (List.take_prefix_take_left (Nat.succ_le_succ hj)) first
  rw [← hmore]
  exact heirs_append_eq_nil hnil more

end Conversation

end Understudy
