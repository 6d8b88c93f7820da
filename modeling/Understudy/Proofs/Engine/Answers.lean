import Understudy.Proofs.Engine.Openings

/-!
# What may answer

A query and a call are answered by the stub that they name, or by stubs of their route that their
session sees. The one condition is exact for what names a stub: if the stub is on the route, it
answers.

## Main definitions

* `Answer.stub`: the stub of an answer
* `Engine.Permits`: a stub may answer a call

## Main results

* `Engine.Sound.named_eq_ok_iff`: the stub that is found by its identifier
* `Engine.Sound.permits_of_answer`, `Engine.Sound.permits_of_converse`: what answers may answer
* `Engine.Sound.answer_of_permits`, `Engine.Sound.converse_of_permits`: a stub that is named answers
-/

namespace Understudy

/-- The stub of an answer, found or similar. -/
def Answer.stub : Answer → Stub
  | found stub => stub
  | similar stub => stub

namespace Engine

variable {oracle : Oracle} {engine : Engine}

/-! ## Stubs by their identifier -/

theorem Sound.id_of_get? (h : engine.Sound oracle) {id : Identifier} {stub : Stub}
    (hstub : engine.get? id = some stub) : stub.id = id :=
  (Store.Sound.bucket_of_get? h hstub).1

/-- What is found by its identifier is the stored stub of that identifier, if it is on the route. -/
theorem Sound.toOption_named (h : engine.Sound oracle) (service method : String)
    (id : Identifier) :
    ((engine.named service method id).evalBy oracle).toOption =
      (engine.get? id).filter fun stub => OnRoute oracle.digest service method stub := by
  simp only [named, Consult.evalBy_bind]
  by_cases hroute : ∃ stub ∈ engine.store.values, OnRoute oracle.digest service method stub
  · rw [Store.Sound.findIn_ok h id hroute]
    show _ = (engine.store.get? id).filter _
    cases (engine.store.get? id).filter fun stub => OnRoute oracle.digest service method stub <;>
      rfl
  · have hnone : ∀ stub ∈ engine.store.values, ¬ OnRoute oracle.digest service method stub :=
      fun stub hs hon => hroute ⟨stub, hs, hon⟩
    rw [Store.Sound.findIn_error h id hnone]
    refine (Option.filter_eq_none_iff.mpr fun stub hstub hon => ?_).symm
    -- the stub of the identifier would be on the route
    have hmem : stub ∈ engine.all := h.mem_all.mpr (by rwa [h.id_of_get? hstub])
    exact hnone stub (mem_byId.mp hmem) (of_decide_eq_true hon)

theorem Sound.named_eq_ok_iff (h : engine.Sound oracle) {service method : String}
    {id : Identifier} {stub : Stub} :
    (engine.named service method id).evalBy oracle = .ok stub ↔
      stub ∈ engine.all ∧ OnRoute oracle.digest service method stub ∧ stub.id = id := by
  have hnamed := h.toOption_named service method id
  constructor
  · intro hok
    rw [hok] at hnamed
    obtain ⟨hget, hon⟩ := Option.filter_eq_some_iff.mp hnamed.symm
    have hid := h.id_of_get? hget
    exact ⟨h.mem_all.mpr (by rwa [hid]), of_decide_eq_true hon, hid⟩
  · rintro ⟨hmem, hon, rfl⟩
    refine eq_ok_of_toOption (hnamed.trans ?_)
    exact Option.filter_eq_some_iff.mpr ⟨h.mem_all.mp hmem, decide_eq_true hon⟩

/-! ## Stubs that may answer -/

/-- A stub that may answer a call: it is on the route of the call, and the call names it or, if it
names none, its session sees it. -/
def Permits (oracle : Oracle) (engine : Engine) (opening : Opening) (stub : Stub) : Prop :=
  stub ∈ engine.all ∧
    OnRoute oracle.digest opening.service (engine.methodName opening.method) stub ∧
    match opening.id with
    | some id => stub.id = id
    | none => stub.session = "" ∨ stub.session = opening.session

section Permits

variable {opening : Opening} {stub : Stub}

theorem permits_named_iff {id : Identifier} (hid : opening.id = some id) :
    engine.Permits oracle opening stub ↔ stub ∈ engine.all ∧
      OnRoute oracle.digest opening.service (engine.methodName opening.method) stub ∧
      stub.id = id := by
  rw [Permits, hid]

theorem permits_unnamed_iff (hid : opening.id = none) :
    engine.Permits oracle opening stub ↔ stub ∈ engine.routed oracle opening.service
      (engine.methodName opening.method) opening.session := by
  rw [Permits, hid, mem_routed]

end Permits

/-- An answer of a scan is one of the stubs that are scanned. -/
theorem mem_of_answerOf {stubs : List Stub} {scan : Scan} {answer : Answer}
    (h : answerOf stubs scan = .ok answer) : answer.stub ∈ stubs := by
  obtain ⟨leader, stub, hget, ⟨-, rfl⟩ | ⟨-, rfl⟩⟩ := exists_of_answerOf h
  · exact List.mem_of_getElem? hget
  · exact List.mem_of_getElem? hget

/-- A query is answered by a stub that may answer it. -/
theorem Sound.permits_of_answer (h : engine.Sound oracle) {query : Query} {answer : Answer}
    (hanswer : (engine.answer query).evalBy oracle = .ok answer) :
    engine.Permits oracle query.opening answer.stub := by
  cases hid : query.id with
  | some id =>
    simp only [Engine.answer, hid, Consult.evalBy_bind, Consult.evalBy_pure] at hanswer
    obtain ⟨stub, hnamed, rfl⟩ := exists_of_map_eq_ok hanswer
    have hopening : query.opening.id = some id := hid
    exact (permits_named_iff hopening).mpr (h.named_eq_ok_iff.mp hnamed)
  | none =>
    have hscan := h.toOption_answer hid
    rw [hanswer] at hscan
    have hopening : query.opening.id = none := hid
    exact (permits_unnamed_iff hopening).mpr (mem_of_answerOf (eq_ok_of_toOption hscan.symm))

/-- A call begins with stubs that may answer it. -/
theorem Sound.permits_of_converse (h : engine.Sound oracle) {opening : Opening}
    {conversation : Conversation}
    (hopened : (engine.converse opening).evalBy oracle = .ok conversation) {stub : Stub}
    (hstub : stub ∈ conversation.seed) : engine.Permits oracle opening stub := by
  cases hid : opening.id with
  | some id =>
    simp only [converse, seed, hid, Consult.evalBy_bind, Consult.evalBy_pure] at hopened
    obtain ⟨stubs, hseed, rfl⟩ := exists_of_map_eq_ok hopened
    obtain ⟨other, hnamed, rfl⟩ := exists_of_map_eq_ok hseed
    obtain rfl := List.mem_singleton.mp hstub
    exact (permits_named_iff hid).mpr (h.named_eq_ok_iff.mp hnamed)
  | none =>
    rcases h.evalBy_converse hid with hbegun | ⟨⟨failure, hfailed⟩, -⟩
    · obtain rfl : conversation = _ := Except.ok.inj (hopened.symm.trans hbegun)
      exact (permits_unnamed_iff hid).mpr (List.mem_filter.mp hstub).1
    · rw [hfailed] at hopened
      cases hopened

/-- The stub that a query names answers it. -/
theorem Sound.answer_of_permits (h : engine.Sound oracle) {query : Query} {id : Identifier}
    (hid : query.id = some id) {stub : Stub} (hstub : engine.Permits oracle query.opening stub) :
    (engine.answer query).evalBy oracle = .ok (.found stub) := by
  have hopening : query.opening.id = some id := hid
  have hnamed := h.named_eq_ok_iff.mpr ((permits_named_iff hopening).mp hstub)
  simp only [answer, hid, Consult.evalBy_bind, Consult.evalBy_pure]
  exact congrArg (Except.map Answer.found) hnamed

/-- A call that names a stub begins with that stub alone. -/
theorem Sound.converse_of_permits (h : engine.Sound oracle) {opening : Opening} {id : Identifier}
    (hid : opening.id = some id) {stub : Stub} (hstub : engine.Permits oracle opening stub) :
    (engine.converse opening).evalBy oracle =
      .ok { opening := { opening with method := engine.methodName opening.method }
            seed := [stub] } := by
  have hnamed := h.named_eq_ok_iff.mpr ((permits_named_iff hid).mp hstub)
  simp only [converse, seed, hid, Consult.evalBy_bind, Consult.evalBy_pure, hnamed]
  rfl

end Engine

end Understudy
