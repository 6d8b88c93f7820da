import Understudy.Proofs.Engine.Stock
import Understudy.Proofs.Predicate.Satisfaction

/-!
# The stub that wants most

How specific a stub is for a query is counted field by field in the messages as they came, while
whether it answers is decided without an empty message at the end and with rules of its own for
queries that hold nothing. For a stub that answers the two agree: it is as specific as it has wanted
fields. As a scan compares specificities first, the stub that is found wants at least as many fields
as any other that answers, whatever the scores are, and be they numbers or not.

## Main definitions

* `Stub.fieldCount`: the number of fields that a stub wants
* `Scan.Tops`: the best candidate of a scan is as specific as any that answers

## Main results

* `Stub.specificity_eq_fieldCount`: a stub that answers is as specific as it has wanted fields
* `Scan.kept_tops`: every scan tops what it was offered
* `Engine.Sound.found_spec`: the stub that is found for a query
* `Engine.found_wants_most`: the stub that is found wants at least as many fields as any other that
  answers
-/

namespace Understudy

/-! ## Stubs that answer -/

section Stubs

variable {oracle : Oracle} {query : Query} {messages : List Fields}

/-- A stub whose single predicate answers is as specific as that has wanted fields. -/
theorem Stub.specificity_of_single {stub : Stub} {predicate : Predicate}
    (hsingle : stub.expectation = .single predicate)
    (h : (predicate.answers messages).evalBy oracle = true) :
    stub.specificity messages = predicate.fieldCount := by
  rw [specificity, hsingle]
  match messages, h with
  | [], h => exact (Predicate.fieldCount_eq_zero h).symm
  | [message], h =>
    simp only [Predicate.answers, Consult.evalBy_ite, Consult.evalBy_pure] at h
    split at h
    · -- nothing is wanted of an empty message
      have hle := predicate.sharedFields_le_fieldCount message
      rw [Predicate.fieldCount_eq_zero h] at hle ⊢
      exact Nat.le_zero.mp hle
    · exact Predicate.sharedFields_eq_fieldCount h
  | _ :: _ :: _, h => cases h

/-- Ordered predicates that messages satisfy one by one, whatever comes after these messages. -/
theorem Predicate.sum_sharedFields {predicates : List Predicate} {counted : List Fields}
    (h : List.Forall₂ (fun predicate message => (predicate.accepts message).evalBy oracle = true)
      predicates counted) (rest : List Fields) :
    (List.zipWith Predicate.sharedFields predicates (counted ++ rest)).sum =
      (predicates.map Predicate.fieldCount).sum := by
  induction h with
  | nil => rfl
  | cons haccepts _ ih =>
    rw [List.cons_append, List.zipWith_cons_cons, List.sum_cons, ih,
      sharedFields_eq_fieldCount haccepts, List.map_cons, List.sum_cons]

/-- Messages have at most the fields that ordered predicates want. -/
theorem Predicate.sum_sharedFields_le (predicates : List Predicate) (messages : List Fields) :
    (List.zipWith Predicate.sharedFields predicates messages).sum ≤
      (predicates.map Predicate.fieldCount).sum := by
  induction predicates generalizing messages with
  | nil => exact Nat.le_refl 0
  | cons predicate rest ih =>
    cases messages with
    | nil => exact Nat.zero_le _
    | cons message later =>
      rw [List.zipWith_cons_cons, List.sum_cons, List.map_cons, List.sum_cons]
      exact Nat.add_le_add (predicate.sharedFields_le_fieldCount message) (ih later)

/-- A stub whose ordered predicates answer is as specific as they have wanted fields. -/
theorem Stub.specificity_of_ordered {stub : Stub} {predicates : List Predicate}
    (hordered : stub.expectation = .ordered predicates)
    (h : (Sequence.answers predicates messages).evalBy oracle = true) :
    stub.specificity messages = (predicates.map Predicate.fieldCount).sum := by
  have hshared : stub.specificity messages =
      (List.zipWith Predicate.sharedFields predicates messages).sum := by
    rw [specificity, hordered, List.sum_eq_foldl]
  rw [hshared]
  by_cases hempty : allEmpty messages = true
  · -- nothing is wanted of messages that hold nothing
    have hcount : (predicates.map Predicate.fieldCount).sum = 0 := by
      rw [List.sum_eq_zero_iff, List.forall_mem_map]
      exact fun predicate hmem =>
        Predicate.fieldCount_eq_zero (Sequence.isEmpty_of_answers h hempty predicate hmem)
    have hle := Predicate.sum_sharedFields_le predicates messages
    rw [hcount] at hle ⊢
    exact Nat.le_zero.mp hle
  · -- an empty message at the end has no predicate of its own
    obtain ⟨rest, hrest⟩ := effective_prefix messages
    have hsum := Predicate.sum_sharedFields (Sequence.forall₂_of_answers h hempty) rest
    rwa [hrest] at hsum

/-- The number of fields that a stub wants, those of alternatives not counted. -/
def Stub.fieldCount (stub : Stub) : ℕ :=
  match stub.expectation with
  | .single predicate => predicate.fieldCount
  | .ordered predicates => (predicates.map Predicate.fieldCount).sum

/-- **A stub that answers** is as specific as it has wanted fields. -/
theorem Stub.specificity_eq_fieldCount {stub : Stub} (h : stub.answersBy oracle query = true) :
    stub.specificity query.messages = stub.fieldCount := by
  have hmessages := (answersBy_iff.mp h).2
  cases hexpectation : stub.expectation with
  | single predicate =>
    rw [hexpectation] at hmessages
    rw [specificity_of_single hexpectation hmessages, fieldCount, hexpectation]
  | ordered predicates =>
    rw [hexpectation] at hmessages
    rw [specificity_of_ordered hexpectation hmessages, fieldCount, hexpectation]

end Stubs

/-! ## Scans -/

namespace Scan

/-- The best candidate of a scan answers and is as specific as any that does; there is none only if
none answers. -/
def Tops (scan : Scan) (offered : List Offer) : Prop :=
  match scan.best with
  | none => answering offered = []
  | some best => best ∈ answering offered ∧
      ∀ other ∈ answering offered, other.specificity ≤ best.specificity

theorem answering_append (earlier later : List Offer) :
    answering (earlier ++ later) = answering earlier ++ answering later := by
  rw [answering, List.filter_append, List.map_append, answering, answering]

/-- A later candidate that is better is at least as specific. -/
theorem specificity_le_of_better {earlier later : Candidate} (h : later.better earlier = true) :
    earlier.specificity ≤ later.specificity := by
  rw [Candidate.better, Bool.or_eq_true, Bool.and_eq_true, decide_eq_true_iff, beq_iff_eq] at h
  exact h.elim le_of_lt fun heq => heq.1.ge

/-- A later candidate that is not better is at most as specific. -/
theorem specificity_le_of_not_better {earlier later : Candidate}
    (h : ¬ later.better earlier = true) : later.specificity ≤ earlier.specificity := by
  rw [Candidate.better, Bool.or_eq_true, decide_eq_true_iff] at h
  exact not_lt.mp fun hlt => h (.inl hlt)

/-- **Merges keep it** that the best candidate is as specific as any that answers. No score has to
be a number for this. -/
theorem kept_tops : Kept Tops where
  empty := rfl
  single candidate answers := by
    cases answers with
    | true => exact ⟨List.mem_cons_self, by simp [answering]⟩
    | false => exact rfl
  merge {a b earlier later} ha hb := by
    unfold Tops at ha hb ⊢
    rw [answering_append]
    cases hfirst : a.best with
    | none =>
      rw [hfirst] at ha
      rw [ha, List.nil_append, merge, hfirst]
      exact hb
    | some first =>
      rw [hfirst] at ha
      obtain ⟨hmem, htops⟩ := ha
      cases hsecond : b.best with
      | none =>
        rw [hsecond] at hb
        rw [hb, List.append_nil, merge, hfirst, hsecond]
        exact ⟨hmem, htops⟩
      | some second =>
        rw [hsecond] at hb
        obtain ⟨hmem', htops'⟩ := hb
        rw [merge, hfirst, hsecond]
        simp only [Candidate.winner, List.mem_append]
        -- the winner is as specific as the other, hence as all that the other tops
        split
        · next hbetter =>
          have hle := specificity_le_of_better hbetter
          exact ⟨.inr hmem', fun other hother =>
            hother.elim (fun hearlier => (htops other hearlier).trans hle) (htops' other)⟩
        · next hbetter =>
          have hle := specificity_le_of_not_better hbetter
          exact ⟨.inl hmem, fun other hother =>
            hother.elim (htops other) fun hlater => (htops' other hlater).trans hle⟩

end Scan

/-! ## The stub that is found -/

section Found

variable {oracle : Oracle} {query : Query} {stubs : List Stub}

/-- The stub that a scan finds answers, and wants at least as many fields as any other that does. -/
theorem fieldCount_le_of_found {scan : Scan} {best : Stub}
    (h : scan.Tops (offers oracle query 0 stubs))
    (hfound : Engine.answerOf stubs scan = .ok (.found best)) :
    best ∈ stubs ∧ best.answersBy oracle query = true ∧
      ∀ other ∈ stubs, other.answersBy oracle query = true →
        other.fieldCount ≤ best.fieldCount := by
  rcases Engine.exists_of_answerOf hfound with
    ⟨leader, found, hindex, ⟨hleader, hanswer⟩ | ⟨-, hanswer⟩⟩
  · obtain rfl := Answer.found.inj hanswer
    rw [Scan.Tops, hleader] at h
    obtain ⟨hmem, htops⟩ := h
    -- the leader was offered by the stub at its position
    obtain ⟨position, stub, hs, hanswers, rfl⟩ := mem_answering_offers.mp hmem
    obtain rfl : stub = best := Option.some.inj (hs.symm.trans hindex)
    refine ⟨List.mem_of_getElem? hs, hanswers, fun other ho ha => ?_⟩
    obtain ⟨position', hp⟩ := List.getElem?_of_mem ho
    have hle := htops _ (mem_answering_offers.mpr ⟨position', other, hp, ha, rfl⟩)
    calc other.fieldCount
        = other.specificity query.messages := (Stub.specificity_eq_fieldCount ha).symm
      _ ≤ stub.specificity query.messages := hle
      _ = stub.fieldCount := Stub.specificity_eq_fieldCount hanswers
  · cases hanswer

end Found

namespace Engine

variable {oracle : Oracle} {query : Query}

/-- The stub that is found for a query without an identifier. -/
theorem Sound.found_spec {engine : Engine} (h : engine.Sound oracle) (hid : query.id = none)
    {best : Stub} (hfound : (engine.answer query).evalBy oracle = .ok (.found best)) :
    let stubs := engine.routed oracle query.service (engine.methodName query.method)
      query.session
    best ∈ stubs ∧ best.answersBy oracle query = true ∧
      ∀ other ∈ stubs, other.answersBy oracle query = true →
        other.fieldCount ≤ best.fieldCount := by
  intro stubs
  have hanswer := h.toOption_answer hid
  rw [hfound] at hanswer
  -- the scan tops what the stubs offer, and its answer is the one that is given
  have htops := kept_scanRoute Scan.kept_tops engine oracle
    { query with method := engine.methodName query.method } stubs
  rw [offers_rename] at htops
  exact fieldCount_le_of_found htops (eq_ok_of_toOption hanswer.symm)

/-- **The stub that is found wants most**, in every engine that a run of commands has led to, with
whatever settings and whatever the caches remember. A stub that answers is as specific as it has
wanted fields, so no stub that the query can meet and that answers it wants more fields than the one
that is found, whatever the priorities, headers and scores are. -/
theorem found_wants_most (oracle : Oracle) :
    (∀ (stub : Stub) (query : Query), stub.answersBy oracle query = true →
      stub.specificity query.messages = stub.fieldCount) ∧
    ∀ (settings : Settings) (commands : List Command) (query : Query), query.id = none →
      let reached := Desk.run oracle settings commands
      let engine := reached.1.2.engine
      let stubs := engine.routed oracle query.service (engine.methodName query.method)
        query.session
      ∀ best, ((engine.find query).runBy oracle reached.2).1.1 = .ok (.found best) →
        best ∈ stubs ∧ best.answersBy oracle query = true ∧
          ∀ other ∈ stubs, other.answersBy oracle query = true →
            other.fieldCount ≤ best.fieldCount := by
  refine ⟨fun stub query => Stub.specificity_eq_fieldCount, ?_⟩
  intro settings commands query hid reached engine stubs best hfound
  obtain ⟨h, hcaches⟩ := Desk.sound_run oracle settings commands
  rw [runBy_find _ _ hcaches] at hfound
  exact h.found_spec hid hfound

end Engine

/-! ## A vague stub and a precise one

The vague stub has the higher priority by far. The call ends with an empty message, which neither
of them has a predicate for. -/

namespace Trolley

/-- A stub that wants one message with some fields. -/
def wanting (id : ℕ) (fields : Fields) (priority : Int64) : Stub where
  id := ⟨BitVec.ofNat 128 id⟩
  service := "Cart"
  method := "Add"
  priority := priority
  expectation := .ordered [{ equalTo := some fields }]

/-- A stub that wants an item. -/
def vague : Stub := wanting 1 [("item", .str "pen")] 100

/-- A stub that wants a color as well. -/
def precise : Stub := wanting 2 [("color", .str "red"), ("item", .str "pen")] (-100)

/-- A call with a red pen. -/
def query : Query where
  service := "Cart"
  method := "Add"
  messages := [[("color", .str "red"), ("item", .str "pen")], []]

def commands : List Command :=
  [.put (fun _ => .nil) [vague, precise]]

/-- The desk after the stubs have been stored, and its caches. -/
def run : (List Response × Desk) × Caches :=
  Desk.run .standard {} commands

/-- The stubs that the call can meet. -/
def stubs : List Stub :=
  run.1.2.engine.routed .standard query.service (run.1.2.engine.methodName query.method)
    query.session

theorem stubs_eq : stubs = [vague, precise] :=
  Desk.routed_put rfl (by decide) (.refl _) (by decide) (by decide)

theorem find_query :
    ((run.1.2.engine.find query).runBy .standard run.2).1.1 = .ok (.found precise) := by
  obtain ⟨h, hcaches⟩ := Desk.sound_run .standard {} commands
  refine (Engine.runBy_find run.1.2.engine query hcaches).trans ?_
  refine h.answer_of_scan rfl stubs_eq ?_ fun _ => rfl
  rw [Desk.chunkThreshold_run]
  decide

theorem vague_mem_stubs : vague ∈ stubs := by
  rw [stubs_eq]
  exact List.mem_cons_self

theorem answersBy_vague : vague.answersBy .standard query = true := rfl

end Trolley

namespace Engine

/-- The precise stub is found, though its priority is lower. -/
theorem found_wants_most_trolley :
    Trolley.query.id = none ∧
    ((Trolley.run.1.2.engine.find Trolley.query).runBy .standard Trolley.run.2).1.1 =
      .ok (.found Trolley.precise) ∧
    Trolley.vague ∈ Trolley.stubs ∧ Trolley.vague.answersBy .standard Trolley.query = true ∧
    Trolley.vague.specificity Trolley.query.messages = Trolley.vague.fieldCount ∧
    Trolley.vague.fieldCount ≤ Trolley.precise.fieldCount := by
  obtain ⟨hspecificity, hmost⟩ := found_wants_most .standard
  obtain ⟨-, -, hle⟩ :=
    hmost {} Trolley.commands Trolley.query rfl Trolley.precise Trolley.find_query
  exact ⟨rfl, Trolley.find_query, Trolley.vague_mem_stubs, Trolley.answersBy_vague,
    hspecificity _ _ Trolley.answersBy_vague,
    hle _ Trolley.vague_mem_stubs Trolley.answersBy_vague⟩

end Engine

end Understudy
