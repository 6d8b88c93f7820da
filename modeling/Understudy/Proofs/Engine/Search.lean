import Understudy.Proofs.Engine.Commands
import Understudy.Proofs.Search.Selection
import Understudy.Proofs.Store.Contents

/-!
# A search selects the best stub

The stubs that a query can meet are those of its route that its session sees, by ascending
identifier. A scan of them, in chunks or not, holds the first of the strongest that answer and the
first of the nearest with a positive score, and as the stubs ascend, the first is the one with the
smallest identifier.

## Main definitions

* `Engine.routed`: the stubs that a query can meet
* `Stub.IsBest`, `Stub.IsClosest`: the stub that answers a query, and the one that comes closest

## Main results

* `Engine.Sound.visible_ok`: a lookup finds the stubs that a query can meet
* `answerOf_found`, `answerOf_similar`, `answerOf_error`: the answer that a scan gives
* `Engine.find_selects`: the answer of an engine that any run has led to
-/

namespace Understudy

/-- A result that is left when failures are taken together was one. -/
theorem eq_ok_of_toOption {ε α : Type} {result : Except ε α} {a : α}
    (h : result.toOption = some a) : result = .ok a := by
  cases result with
  | error failure => cases h
  | ok b => exact congrArg Except.ok (Option.some.inj h)

/-! ## Stubs by identifier -/

/-- Stubs by ascending identifier, none of which comes twice. -/
def Ascends (stubs : List Stub) : Prop :=
  stubs.Pairwise fun a b => a.id < b.id

instance (stubs : List Stub) : Decidable (Ascends stubs) :=
  inferInstanceAs (Decidable (stubs.Pairwise _))

theorem Ascends.eq_of_mem_iff {a b : List Stub} (ha : Ascends a) (hb : Ascends b)
    (h : ∀ stub, stub ∈ a ↔ stub ∈ b) : a = b := by
  have hnodup : ∀ {stubs : List Stub}, Ascends stubs → stubs.Nodup := fun hs =>
    hs.imp fun hlt he => hlt.ne (congrArg Stub.id he)
  have hperm : a.Perm b := (List.perm_ext_iff_of_nodup (hnodup ha) (hnodup hb)).mpr h
  exact hperm.eq_of_pairwise (fun x y _ _ hxy hyx => absurd hyx hxy.asymm) ha hb

theorem Ascends.filter {stubs : List Stub} (h : Ascends stubs) (test : Stub → Bool) :
    Ascends (stubs.filter test) :=
  List.Pairwise.filter test h

namespace Engine

theorem mem_byId {stubs : List Stub} {stub : Stub} : stub ∈ byId stubs ↔ stub ∈ stubs :=
  (List.mergeSort_perm _ _).mem_iff

/-- Stubs whose identifiers differ are put in ascending order. -/
theorem ascends_byId {stubs : List Stub} (h : (stubs.map Stub.id).Nodup) :
    Ascends (byId stubs) := by
  have hperm : (byId stubs).Perm stubs := List.mergeSort_perm _ _
  have hsorted : (byId stubs).Pairwise fun a b => a.id ≤ b.id := by
    refine (List.pairwise_mergeSort (fun a b c hab hbc => ?_) (fun a b => ?_) stubs).imp ?_
    · simp only [decide_eq_true_eq] at hab hbc ⊢
      exact hab.trans hbc
    · simp only [Bool.or_eq_true, decide_eq_true_eq]
      exact le_total a.id b.id
    · exact fun hle => of_decide_eq_true hle
  have hids : (byId stubs).Pairwise fun a b => a.id ≠ b.id :=
    List.pairwise_map.mp ((hperm.map Stub.id).nodup_iff.mpr h)
  exact (hsorted.and hids).imp fun hab => lt_of_le_of_ne hab.1 hab.2

variable {oracle : Oracle} {engine : Engine}

theorem Sound.ascends_all (h : engine.Sound oracle) : Ascends engine.all :=
  ascends_byId h.nodup_ids_values

theorem Sound.mem_all (h : engine.Sound oracle) {stub : Stub} :
    stub ∈ engine.all ↔ engine.get? stub.id = some stub :=
  mem_byId.trans h.mem_values

/-! ## The stubs that a query can meet -/

/-- The stubs that a query can meet: those of its route that every session sees or that belong to
its own, by ascending identifier. -/
def routed (oracle : Oracle) (engine : Engine) (service method session : String) : List Stub :=
  engine.all.filter fun stub => OnRoute oracle.digest service method stub ∧
    (stub.session = "" ∨ stub.session = session)

theorem mem_routed {service method session : String} {stub : Stub} :
    stub ∈ engine.routed oracle service method session ↔
      stub ∈ engine.all ∧ OnRoute oracle.digest service method stub ∧
        (stub.session = "" ∨ stub.session = session) := by
  rw [routed, List.mem_filter, decide_eq_true_iff]

theorem visibleTo_iff {session : String} {stub : Stub} :
    stub.visibleTo session = true ↔ stub.session = "" ∨ stub.session = session := by
  rw [Stub.visibleTo, Bool.or_eq_true, decide_eq_true_iff, String.isEmpty_iff]

/-- Where all stubs are on one route, a query meets those that its session sees. -/
theorem routed_eq_filter {service method : String}
    (hserves : ∀ stub ∈ engine.all, stub.service = service ∧ stub.method = method)
    (session : String) :
    engine.routed oracle service method session = engine.all.filter (Stub.visibleTo session) := by
  refine List.filter_congr fun stub hmem => ?_
  obtain ⟨rfl, rfl⟩ := hserves stub hmem
  have hon : OnRoute oracle.digest stub.service stub.method stub :=
    onRoute_of_named ⟨rfl, .inl rfl⟩
  rw [Bool.eq_iff_iff, decide_eq_true_iff, visibleTo_iff, and_iff_right hon]

theorem Sound.ascends_routed (h : engine.Sound oracle) (service method session : String) :
    Ascends (engine.routed oracle service method session) :=
  h.ascends_all.filter _

/-- A lookup finds the stubs that a query can meet, if any stub is on its route. -/
theorem Sound.visible_ok (h : engine.Sound oracle) {service method : String}
    (hroute : ∃ stub ∈ engine.all, OnRoute oracle.digest service method stub) (session : String) :
    (engine.visible service method session).evalBy oracle =
      .ok (engine.routed oracle service method session) := by
  obtain ⟨stub, hs, hon⟩ := hroute
  obtain ⟨ranking, hall, hids, -, hmem⟩ := h.findAll_ok ⟨stub, mem_byId.mp hs, hon⟩
  simp only [visible, route, Consult.evalBy_bind, Consult.evalBy_pure, hall]
  show Except.ok (byId (ranking.toList.filter (Stub.visibleTo session))) = _
  refine congrArg Except.ok ?_
  refine (ascends_byId ?_).eq_of_mem_iff (h.ascends_routed _ _ _) fun other => ?_
  · exact hids.sublist (List.filter_sublist.map _)
  · rw [mem_byId, List.mem_filter, hmem, visibleTo_iff, mem_routed, and_assoc]
    exact and_congr_left fun _ => mem_byId.symm

/-- A lookup fails if no stub is on its route. -/
theorem Sound.visible_error (h : engine.Sound oracle) {service method : String}
    (hroute : ∀ stub ∈ engine.all, ¬ OnRoute oracle.digest service method stub)
    (session : String) :
    ∃ failure, (engine.visible service method session).evalBy oracle = .error failure := by
  have herror : (engine.store.findAll service method).evalBy oracle = .error _ :=
    h.findAll_error fun stub hs => hroute stub (mem_byId.mpr hs)
  simp only [visible, route, Consult.evalBy_bind, Consult.evalBy_pure, herror]
  exact ⟨_, rfl⟩

/-- The stubs that a lookup finds are those that a query can meet. -/
theorem Sound.eq_routed_of_visible (h : engine.Sound oracle) {service method session : String}
    {stubs : List Stub}
    (hvisible : (engine.visible service method session).evalBy oracle = .ok stubs) :
    stubs = engine.routed oracle service method session := by
  by_cases hroute : ∃ stub ∈ engine.all, OnRoute oracle.digest service method stub
  · rw [h.visible_ok hroute session] at hvisible
    exact (Except.ok.inj hvisible).symm
  · obtain ⟨failure, herror⟩ := h.visible_error
      (fun stub hs hon => hroute ⟨stub, hs, hon⟩) session
    rw [herror] at hvisible
    cases hvisible

end Engine

/-! ## The answer that a scan gives -/

namespace Stub

variable (oracle : Oracle) (query : Query)

/-- The stub among some that answers a query best: of those that answer it, none is more specific,
none as specific has a higher score, and none that ties with it on both has a smaller identifier. -/
def IsBest (stubs : List Stub) (best : Stub) : Prop :=
  best ∈ stubs ∧ best.answersBy oracle query = true ∧
    ∀ other ∈ stubs, other.answersBy oracle query = true →
      other.specificity query.messages ≤ best.specificity query.messages ∧
      (other.specificity query.messages = best.specificity query.messages →
        ¬ best.scoreBy oracle query < other.scoreBy oracle query ∧
        ((other.scoreBy oracle query == best.scoreBy oracle query) = true → best.id ≤ other.id))

/-- The stub among some that comes closest to a query: its score is positive, none has a higher one,
and none with the same one has a smaller identifier. -/
def IsClosest (stubs : List Stub) (closest : Stub) : Prop :=
  closest ∈ stubs ∧ 0 < closest.scoreBy oracle query ∧ ∀ other ∈ stubs,
    ¬ closest.scoreBy oracle query < other.scoreBy oracle query ∧
    ((other.scoreBy oracle query == closest.scoreBy oracle query) = true → closest.id ≤ other.id)

/-- How strong the candidate is that a stub offers. -/
def strengthBy (stub : Stub) : ℕ ×ₗ WithBot (ℤ ×ₗ ℤ ×ₗ ℤ) :=
  toLex (stub.specificity query.messages, Decimal.magnitude (stub.scoreBy oracle query))

/-- How near the candidate comes that a stub offers. -/
def nearnessBy (stub : Stub) : WithBot (ℤ ×ₗ ℤ ×ₗ ℤ) :=
  Decimal.magnitude (stub.scoreBy oracle query)

theorem strength_offer (position : ℕ) (stub : Stub) :
    (stub.offer oracle query position).1.strength = stub.strengthBy oracle query := rfl

theorem nearness_offer (position : ℕ) (stub : Stub) :
    (stub.offer oracle query position).1.nearness = stub.nearnessBy oracle query := rfl

end Stub

theorem Ascends.id_le {stubs : List Stub} (h : Ascends stubs) {i j : ℕ} {a b : Stub}
    (ha : stubs[i]? = some a) (hb : stubs[j]? = some b) (hij : i ≤ j) : a.id ≤ b.id := by
  obtain ⟨hi, rfl⟩ := List.getElem?_eq_some_iff.mp ha
  obtain ⟨hj, rfl⟩ := List.getElem?_eq_some_iff.mp hb
  rcases hij.lt_or_eq with hlt | rfl
  · exact (List.pairwise_iff_getElem.mp h i j hi hj hlt).le
  · exact le_refl _

section Answers

variable {oracle : Oracle} {query : Query} {stubs : List Stub} {scan : Scan}

theorem mem_answering_offers {candidate : Candidate} :
    candidate ∈ answering (offers oracle query 0 stubs) ↔ ∃ (position : ℕ) (stub : Stub),
      stubs[position]? = some stub ∧ stub.answersBy oracle query = true ∧
        candidate = (stub.offer oracle query position).1 := by
  rw [mem_answering, mem_offers]
  constructor
  · rintro ⟨position, stub, hs, he⟩
    obtain ⟨rfl, ha⟩ := Prod.mk.inj he
    exact ⟨position, stub, hs, ha.symm, by rw [Nat.zero_add]; rfl⟩
  · rintro ⟨position, stub, hs, ha, rfl⟩
    refine ⟨position, stub, hs, ?_⟩
    rw [Nat.zero_add, ← ha]
    rfl

theorem mem_positive_offers {candidate : Candidate} :
    candidate ∈ positive (offers oracle query 0 stubs) ↔ ∃ (position : ℕ) (stub : Stub),
      stubs[position]? = some stub ∧ 0 < stub.scoreBy oracle query ∧
        candidate = (stub.offer oracle query position).1 := by
  rw [mem_positive]
  constructor
  · rintro ⟨⟨answers, ho⟩, hpos⟩
    obtain ⟨position, stub, hs, he⟩ := mem_offers.mp ho
    obtain ⟨rfl, -⟩ := Prod.mk.inj he
    exact ⟨position, stub, hs, hpos, by rw [Nat.zero_add]; rfl⟩
  · rintro ⟨position, stub, hs, hpos, rfl⟩
    exact ⟨⟨_, mem_offers.mpr ⟨position, stub, hs, by rw [Nat.zero_add]⟩⟩, hpos⟩

/-- The leader of what some stubs offer is offered by the first of those that rank highest. -/
theorem Leads.exists_stub {κ : Type} [LinearOrder κ] {key : Candidate → κ} {rank : Stub → κ}
    {eligible : Stub → Prop} {candidates : List Candidate} {leader? : Option Candidate}
    (h : Leads key candidates leader?)
    (hcandidates : ∀ candidate, candidate ∈ candidates ↔ ∃ (position : ℕ) (stub : Stub),
      stubs[position]? = some stub ∧ eligible stub ∧
        candidate = (stub.offer oracle query position).1)
    (hkey : ∀ position stub, key (Stub.offer oracle query position stub).1 = rank stub)
    (hasc : Ascends stubs) (hsome : ∃ stub ∈ stubs, eligible stub) :
    ∃ leader best, leader? = some leader ∧ stubs[leader.index]? = some best ∧ eligible best ∧
      ∀ other ∈ stubs, eligible other →
        rank other ≤ rank best ∧ (rank other = rank best → best.id ≤ other.id) := by
  have hoffered : ∀ stub ∈ stubs, eligible stub → ∃ position, stubs[position]? = some stub ∧
      (stub.offer oracle query position).1 ∈ candidates := by
    intro stub hs he
    obtain ⟨position, hp⟩ := List.getElem?_of_mem hs
    exact ⟨position, hp, (hcandidates _).mpr ⟨position, stub, hp, he, rfl⟩⟩
  cases leader? with
  | none =>
    -- an eligible stub offers a candidate, so there is a leader
    obtain ⟨stub, hs, he⟩ := hsome
    obtain ⟨position, -, hmem⟩ := hoffered stub hs he
    rw [show candidates = [] from h] at hmem
    cases hmem
  | some leader =>
    obtain ⟨hleader, hleads⟩ := h
    obtain ⟨position, best, hp, heligible, rfl⟩ := (hcandidates leader).mp hleader
    refine ⟨_, best, rfl, hp, heligible, fun other ho he => ?_⟩
    obtain ⟨position', hp', hmem⟩ := hoffered other ho he
    obtain ⟨hle, htie⟩ := hleads _ hmem
    rw [hkey, hkey] at hle htie
    -- the stubs ascend, so the one at the smaller index has the smaller identifier
    exact ⟨hle, fun heq => hasc.id_le hp hp' (htie heq)⟩

theorem Leads.eq_none {κ : Type} [LinearOrder κ] {key : Candidate → κ}
    {leader? : Option Candidate} (h : Leads key [] leader?) : leader? = none := by
  cases leader? with
  | none => rfl
  | some leader => cases h.1

/-- A number that is not smaller than another is not beaten by it. -/
theorem not_lt_of_magnitude_le {a b : Float} (h : Decimal.magnitude b ≤ Decimal.magnitude a) :
    ¬ a < b := fun hlt => (Decimal.lt_iff_magnitude.mp hlt).2.not_ge h

/-- If some stub answers, the best of them is found. -/
theorem answerOf_found (h : scan.Covers (offers oracle query 0 stubs)) (hasc : Ascends stubs)
    (hsome : ∃ stub ∈ stubs, stub.answersBy oracle query = true) :
    ∃ best, Engine.answerOf stubs scan = .ok (.found best) ∧
      best.IsBest oracle query stubs := by
  obtain ⟨leader, best, hleader, hindex, hanswers, hbest⟩ := h.best.exists_stub
    (fun _ => mem_answering_offers) (Stub.strength_offer oracle query) hasc hsome
  refine ⟨best, ?_, List.mem_of_getElem? hindex, hanswers, fun other ho ha => ?_⟩
  · simp only [Engine.answerOf, hleader, Option.bind_some, hindex]
  · obtain ⟨hle, htie⟩ := hbest other ho ha
    rw [Stub.strengthBy, Stub.strengthBy] at hle htie
    rw [Prod.Lex.toLex_le_toLex] at hle
    refine ⟨hle.elim le_of_lt fun he => he.1.le, fun hspecific => ⟨?_, fun hscore => ?_⟩⟩
    · exact not_lt_of_magnitude_le (hle.elim (fun hlt => absurd hspecific hlt.ne) And.right)
    · exact htie (by rw [hspecific, (Decimal.beq_iff_magnitude.mp hscore).2])

theorem answering_offers_eq_nil
    (hnone : ∀ stub ∈ stubs, ¬ stub.answersBy oracle query = true) :
    answering (offers oracle query 0 stubs) = [] := by
  refine List.eq_nil_iff_forall_not_mem.mpr fun candidate hmem => ?_
  obtain ⟨position, stub, hs, ha, -⟩ := mem_answering_offers.mp hmem
  exact hnone stub (List.mem_of_getElem? hs) ha

theorem positive_offers_eq_nil (hfar : ∀ stub ∈ stubs, ¬ 0 < stub.scoreBy oracle query) :
    positive (offers oracle query 0 stubs) = [] := by
  refine List.eq_nil_iff_forall_not_mem.mpr fun candidate hmem => ?_
  obtain ⟨position, stub, hs, hpos, -⟩ := mem_positive_offers.mp hmem
  exact hfar stub (List.mem_of_getElem? hs) hpos

theorem best_eq_none (h : scan.Covers (offers oracle query 0 stubs))
    (hnone : ∀ stub ∈ stubs, ¬ stub.answersBy oracle query = true) : scan.best = none := by
  have hbest := h.best
  rw [answering_offers_eq_nil hnone] at hbest
  exact hbest.eq_none

/-- If no stub answers, the one that comes closest is similar. -/
theorem answerOf_similar (h : scan.Covers (offers oracle query 0 stubs)) (hasc : Ascends stubs)
    (hnone : ∀ stub ∈ stubs, ¬ stub.answersBy oracle query = true)
    (hsome : ∃ stub ∈ stubs, 0 < stub.scoreBy oracle query) :
    ∃ closest, Engine.answerOf stubs scan = .ok (.similar closest) ∧
      closest.IsClosest oracle query stubs := by
  obtain ⟨leader, closest, hleader, hindex, hpos, hclosest⟩ := h.similar.exists_stub
    (fun _ => mem_positive_offers) (Stub.nearness_offer oracle query) hasc hsome
  refine ⟨closest, ?_, List.mem_of_getElem? hindex, hpos, fun other ho => ?_⟩
  · simp only [Engine.answerOf, best_eq_none h hnone, Option.bind_none, hleader,
      Option.bind_some, hindex]
  · -- a stub that is as close or closer has a positive score as well
    refine ⟨fun hlt => ?_, fun hscore => ?_⟩
    · exact not_lt_of_magnitude_le (hclosest other ho (Decimal.lt_trans hpos hlt)).1 hlt
    · exact (hclosest other ho (Decimal.lt_of_lt_of_beq hpos hscore)).2
        (Decimal.beq_iff_magnitude.mp hscore).2

/-- If no stub answers and none comes close, no stub is found. -/
theorem answerOf_error (h : scan.Covers (offers oracle query 0 stubs))
    (hnone : ∀ stub ∈ stubs, ¬ stub.answersBy oracle query = true)
    (hfar : ∀ stub ∈ stubs, ¬ 0 < stub.scoreBy oracle query) :
    Engine.answerOf stubs scan = .error .stubNotFound := by
  have hsimilar := h.similar
  rw [positive_offers_eq_nil hfar] at hsimilar
  simp only [Engine.answerOf, best_eq_none h hnone, hsimilar.eq_none, Option.bind_none]

end Answers

/-! ## The answer of an engine -/

namespace Engine

variable {oracle : Oracle} {engine : Engine} {query : Query}

/-- What stubs offer does not depend on the names that a query is routed by. -/
theorem offers_rename (oracle : Oracle) (query : Query) (method : String) (offset : ℕ)
    (stubs : List Stub) :
    offers oracle { query with method } offset stubs = offers oracle query offset stubs := by
  induction stubs generalizing offset with
  | nil => rfl
  | cons stub rest ih =>
    rw [offers, offers, ih]
    rfl

/-- What merges keep holds of the scan of a route, in chunks or not. -/
theorem kept_scanRoute {holds : Scan → List Offer → Prop} (h : Scan.Kept holds) (engine : Engine)
    (oracle : Oracle) (query : Query) (stubs : List Stub) :
    holds ((engine.scanRoute query stubs).evalBy oracle) (offers oracle query 0 stubs) := by
  unfold scanRoute
  split
  · exact h.scanChunks stubs engine.chunkSize
  · exact h.scan stubs 0

theorem evalBy_scanRoute_covers (engine : Engine) {stubs : List Stub}
    (h : Numeric oracle query stubs) (method : String) :
    ((engine.scanRoute { query with method } stubs).evalBy oracle).Covers
      (offers oracle query 0 stubs) := by
  have hcovers := kept_scanRoute Scan.kept_covers engine oracle { query with method } stubs
  rw [offers_rename] at hcovers
  exact hcovers (h.offers 0) (pairwise_offers 0 stubs)

/-- A query without an identifier is answered by a scan of the stubs that it can meet. -/
theorem Sound.evalBy_answer (h : engine.Sound oracle) (hid : query.id = none)
    (hroute : ∃ stub ∈ engine.all,
      OnRoute oracle.digest query.service (engine.methodName query.method) stub)
    {stubs : List Stub} (hstubs : stubs = engine.routed oracle query.service
      (engine.methodName query.method) query.session) (hnumeric : Numeric oracle query stubs) :
    ∃ scan : Scan, scan.Covers (offers oracle query 0 stubs) ∧
      (engine.answer query).evalBy oracle = answerOf stubs scan := by
  have hvisible := h.visible_ok hroute query.session
  rw [← hstubs] at hvisible
  refine ⟨_, evalBy_scanRoute_covers engine hnumeric (engine.methodName query.method), ?_⟩
  simp only [answer, hid, search, Consult.evalBy_bind, hvisible, Consult.evalBy_pure]

/-- No stubs, no answer. -/
theorem answerOf_nil (scan : Scan) : answerOf [] scan = .error .stubNotFound := by
  obtain ⟨best, similar⟩ := scan
  cases best <;> cases similar <;> rfl

/-- The stub of an answer is at the position of the best candidate, or of the nearest one. -/
theorem exists_of_answerOf {stubs : List Stub} {scan : Scan} {answer : Answer}
    (h : answerOf stubs scan = .ok answer) :
    ∃ leader stub, stubs[leader.index]? = some stub ∧
      (scan.best = some leader ∧ answer = .found stub ∨
        scan.similar = some leader ∧ answer = .similar stub) := by
  unfold answerOf at h
  split at h
  · next stub hstub =>
    obtain ⟨leader, hleader, hget⟩ := Option.bind_eq_some_iff.mp hstub
    exact ⟨leader, stub, hget, .inl ⟨hleader, (Except.ok.inj h).symm⟩⟩
  · split at h
    · next stub hstub =>
      obtain ⟨leader, hleader, hget⟩ := Option.bind_eq_some_iff.mp hstub
      exact ⟨leader, stub, hget, .inr ⟨hleader, (Except.ok.inj h).symm⟩⟩
    · cases h

/-- A lookup comes to the stubs that a query can meet: where it fails, there are none. -/
theorem Sound.visible_getD (h : engine.Sound oracle) (service method session : String) :
    ((engine.visible service method session).evalBy oracle).toOption.getD [] =
      engine.routed oracle service method session := by
  cases hvisible : (engine.visible service method session).evalBy oracle with
  | ok stubs => exact h.eq_routed_of_visible hvisible
  | error failure =>
    refine (List.eq_nil_iff_forall_not_mem.mpr fun stub hmem => ?_).symm
    obtain ⟨hs, hon, -⟩ := mem_routed.mp hmem
    rw [h.visible_ok ⟨stub, hs, hon⟩] at hvisible
    cases hvisible

/-- The answer to a query without an identifier, failures taken together, is told by the stubs that
the query can meet. -/
theorem Sound.toOption_answer (h : engine.Sound oracle) (hid : query.id = none) :
    let method := engine.methodName query.method
    let stubs := engine.routed oracle query.service method query.session
    ((engine.answer query).evalBy oracle).toOption =
      (answerOf stubs
        ((engine.scanRoute { query with method } stubs).evalBy oracle)).toOption := by
  intro method stubs
  have hvisible := h.visible_getD query.service method query.session
  simp only [answer, hid, search, Consult.evalBy_bind]
  split
  · next stubs' hfound =>
    rw [hfound] at hvisible
    obtain rfl : stubs' = stubs := hvisible
    simp only [Consult.evalBy_bind, Consult.evalBy_pure]
    rfl
  · next failure hfailed =>
    rw [hfailed] at hvisible
    rw [show stubs = [] from hvisible.symm, answerOf_nil]
    rfl

/-- The answer to a query whose route is too short to be scanned in chunks. -/
theorem Sound.answer_of_scan (h : engine.Sound oracle) (hid : query.id = none) {stubs : List Stub}
    (hstubs : engine.routed oracle query.service (engine.methodName query.method) query.session =
      stubs) (hshort : stubs.length < engine.chunkThreshold) {answer : Answer}
    (hanswer : ∀ method,
      answerOf stubs ((scan { query with method } stubs 0).evalBy oracle) = .ok answer) :
    (engine.answer query).evalBy oracle = .ok answer := by
  have hroute : engine.scanRoute { query with method := engine.methodName query.method } stubs =
      scan { query with method := engine.methodName query.method } stubs 0 :=
    if_neg hshort.not_ge
  refine eq_ok_of_toOption ((h.toOption_answer hid).trans ?_)
  rw [hstubs, hroute, hanswer]
  rfl

/-- With sound caches, a query is answered as if nothing were remembered. -/
theorem runBy_find (engine : Engine) (query : Query) {caches : Caches}
    (hcaches : caches.Sound oracle) :
    ((engine.find query).runBy oracle caches).1.1 = (engine.answer query).evalBy oracle := by
  rw [Consult.runBy_fst _ hcaches, find, Consult.evalBy_bind]
  rfl

/-- **A search selects the best stub**, in every engine that a run of commands has led to, with
whatever settings and whatever the caches remember. Of the stubs of the query's route that its
session sees, by ascending identifier, a stub that answers the query is found if there is one: the
most specific, among those the one with the highest score, and among those the one with the smallest
identifier. If none answers, the one with the highest positive score is similar, again with the
smallest identifier. Otherwise there is no stub. -/
theorem find_selects (oracle : Oracle) (settings : Settings) (commands : List Command)
    (query : Query) (hid : query.id = none) :
    let run := ((Desk.start settings).perform commands).runBy oracle settings.caches
    let engine := run.1.2.engine
    let stubs := engine.routed oracle query.service (engine.methodName query.method) query.session
    let answer := ((engine.find query).runBy oracle run.2).1.1
    (∃ stub ∈ engine.all,
      OnRoute oracle.digest query.service (engine.methodName query.method) stub) →
    Numeric oracle query stubs →
    Ascends stubs ∧
    ((∃ stub ∈ stubs, stub.answersBy oracle query = true) →
      ∃ best, answer = .ok (.found best) ∧ best.IsBest oracle query stubs) ∧
    ((∀ stub ∈ stubs, ¬ stub.answersBy oracle query = true) →
      ((∃ stub ∈ stubs, 0 < stub.scoreBy oracle query) →
        ∃ closest, answer = .ok (.similar closest) ∧ closest.IsClosest oracle query stubs) ∧
      ((∀ stub ∈ stubs, ¬ 0 < stub.scoreBy oracle query) →
        answer = .error .stubNotFound)) := by
  intro run engine stubs answer hroute hnumeric
  obtain ⟨hrun, hcaches⟩ := Desk.runBy_perform oracle settings (Desk.start settings) commands
  have h : engine.Sound oracle := by
    show run.1.2.engine.Sound oracle
    rw [show run.1 = _ from hrun]
    exact Desk.sound_start settings commands
  have hasc : Ascends stubs := h.ascends_routed _ _ _
  have hanswer : answer = (engine.answer query).evalBy oracle := by
    show ((engine.find query).runBy oracle run.2).1.1 = _
    rw [Consult.runBy_fst _ hcaches, find, Consult.evalBy_bind]
    rfl
  obtain ⟨scan, hscan, heval⟩ := h.evalBy_answer hid hroute rfl hnumeric
  rw [hanswer, heval]
  exact ⟨hasc, answerOf_found hscan hasc, fun hnone =>
    ⟨answerOf_similar hscan hasc hnone, answerOf_error hscan hnone⟩⟩

end Engine

/-! ## A route with a tie

Four stubs of one method under the short form of a service, of which two tie and are found in
different chunks. -/

namespace Tie

/-- A stub that wants an item. -/
def wanting (id : ℕ) (item : String) (priority : Int64) : Stub where
  id := ⟨BitVec.ofNat 128 id⟩
  service := "Cart"
  method := "Add"
  priority := priority
  expectation := .single { equalTo := some [("item", .str item)] }

/-- A call with a pen. -/
def query : Query where
  service := "shop.Cart"
  method := "Add"
  messages := [[("item", .str "pen")]]

/-- Routes of two stubs are scanned in chunks already. -/
def settings : Settings where
  chunkThreshold := 2
  chunkSize := 2

def commands : List Command :=
  [.put (fun _ => .nil)
    [wanting 3 "pen" 1, wanting 2 "pen" 1, wanting 1 "ink" 5, wanting 4 "pen" 0]]

/-- The desk after the stubs have been stored, and its caches. -/
def run : (List Response × Desk) × Caches :=
  ((Desk.start settings).perform commands).runBy .standard settings.caches

/-- The stubs that the call can meet. -/
def stubs : List Stub :=
  run.1.2.engine.routed .standard query.service (run.1.2.engine.methodName query.method)
    query.session

theorem stubs_eq : stubs =
    [wanting 1 "ink" 5, wanting 2 "pen" 1, wanting 3 "pen" 1, wanting 4 "pen" 0] := by
  cbv

theorem numeric_stubs : Numeric .standard query stubs := by
  rw [stubs_eq]
  show ∀ stub ∈ [wanting 1 "ink" 5, wanting 2 "pen" 1, wanting 3 "pen" 1, wanting 4 "pen" 0],
    (stub.scoreBy .standard query).isNaN = false
  decide +kernel

theorem wanting_mem_stubs : wanting 2 "pen" 1 ∈ stubs := by
  rw [stubs_eq]
  exact List.mem_cons_of_mem _ List.mem_cons_self

theorem answersBy_wanting : (wanting 2 "pen" 1).answersBy .standard query = true := by
  decide +kernel

end Tie

namespace Engine

/-- One of the stubs that tie is found, and it is the one with the smaller identifier. -/
theorem find_selects_tie :
    Tie.query.id = none ∧
    (∃ stub ∈ Tie.run.1.2.engine.all, OnRoute Oracle.standard.digest Tie.query.service
      (Tie.run.1.2.engine.methodName Tie.query.method) stub) ∧
    Numeric .standard Tie.query Tie.stubs ∧
    ∃ best, ((Tie.run.1.2.engine.find Tie.query).runBy .standard Tie.run.2).1.1 =
        .ok (.found best) ∧
      best.IsBest .standard Tie.query Tie.stubs := by
  have hroute : ∃ stub ∈ Tie.run.1.2.engine.all, OnRoute Oracle.standard.digest
      Tie.query.service (Tie.run.1.2.engine.methodName Tie.query.method) stub :=
    ⟨_, (mem_routed.mp Tie.wanting_mem_stubs).1, (mem_routed.mp Tie.wanting_mem_stubs).2.1⟩
  refine ⟨rfl, hroute, Tie.numeric_stubs, ?_⟩
  exact (find_selects .standard Tie.settings Tie.commands Tie.query rfl hroute
    Tie.numeric_stubs).2.1 ⟨_, Tie.wanting_mem_stubs, Tie.answersBy_wanting⟩

end Engine

end Understudy
