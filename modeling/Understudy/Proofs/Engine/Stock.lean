import Understudy.Proofs.Engine.Openings

/-!
# The stubs in stock

A desk that has stored some stubs, each with an identifier of its own, has these stubs and no
others, whatever their names are and wherever their digests file them. So a query meets those of
them that are on its route, and a call begins with them.

## Main results

* `Desk.all_put`: the stubs that have been stored are all there are
* `Desk.routed_put`, `Desk.converse_put`: a query meets them, and a call begins with them
* `Desk.find_put`: a query finds the leader of a scan of them
-/

namespace Understudy

/-- No stub that has an identifier gets another. -/
theorem Engine.assignIds_of_named {fresh : ℕ → Identifier} {stubs : List Stub}
    (hnamed : ∀ stub ∈ stubs, stub.id ≠ .nil) : assignIds fresh stubs = stubs := by
  have hkept : ∀ position (h : position < stubs.length),
      (if stubs[position].id.isNil then { stubs[position] with id := fresh position }
        else stubs[position]) = stubs[position] := by
    intro position h
    exact if_neg fun hnil => hnamed _ (List.getElem_mem h) (of_decide_eq_true hnil)
  refine List.ext_getElem (by simp [assignIds]) fun position hleft hright => ?_
  simpa [assignIds] using hkept position hright

namespace Desk

variable {oracle : Oracle} {settings : Settings} {fresh : ℕ → Identifier} {stubs : List Stub}

/-- Each of the stubs is stored under its identifier. -/
theorem get?_put (hnamed : ∀ stub ∈ stubs, stub.id ≠ .nil) :
    (run oracle settings [.put fresh stubs]).1.2.engine.get? =
      Contents.apply (fun _ => none) (.upsert stubs) := by
  rw [run_fst_snd, after_cons, after_nil]
  simp only [Command.act, Engine.put, Engine.assignIds_of_named hnamed, Consult.evalBy_bind,
    Consult.evalBy_pure, Engine.evalBy_register]
  exact Store.Sound.get?_file Store.Sound.empty stubs

/-- **The stubs that have been stored** are all there are. -/
theorem all_put {listed : List Stub} (hnamed : ∀ stub ∈ stubs, stub.id ≠ .nil)
    (hlisted : stubs.Perm listed) (hasc : Ascends listed) :
    (run oracle settings [.put fresh stubs]).1.2.engine.all = listed := by
  have hids : (stubs.map Filed.id).Nodup := by
    rw [(hlisted.map Filed.id).nodup_iff]
    exact List.pairwise_map.mpr (hasc.imp fun hlt he => hlt.ne he)
  have hsound := (sound_run oracle settings [.put fresh stubs]).1
  -- both lists ascend, so they are equal if they have the same members
  refine hsound.ascends_all.eq_of_mem_iff hasc fun stub => ?_
  rw [hsound.mem_all, get?_put hnamed, Contents.upsert_eq_some_iff hids, ← hlisted.mem_iff]
  constructor
  · rintro (⟨hmem, -⟩ | ⟨-, hnone⟩)
    · exact hmem
    · cases hnone
  · intro hmem
    exact .inl ⟨hmem, rfl⟩

/-- **A query meets the stubs that have been stored** if all of them are on its route and its
session sees them. -/
theorem routed_put {listed : List Stub} {service method session : String}
    (htitle : settings.titleMethods = false) (hnamed : ∀ stub ∈ stubs, stub.id ≠ .nil)
    (hlisted : stubs.Perm listed) (hasc : Ascends listed)
    (hserves : ∀ stub ∈ listed, stub.service = service ∧ stub.method = method ∧
      (stub.session = "" ∨ stub.session = session)) :
    let engine := (run oracle settings [.put fresh stubs]).1.2.engine
    engine.routed oracle service (engine.methodName method) session = listed := by
  intro engine
  have hall : engine.all = listed := all_put hnamed hlisted hasc
  have hroute : ∀ stub ∈ engine.all, stub.service = service ∧ stub.method = method := by
    intro stub hmem
    rw [hall] at hmem
    exact ⟨(hserves stub hmem).1, (hserves stub hmem).2.1⟩
  rw [Engine.methodName_eq_self ((titleMethods_run ..).trans htitle),
    Engine.routed_eq_filter hroute, hall, List.filter_eq_self]
  intro stub hmem
  exact Engine.visibleTo_iff.mpr (hserves stub hmem).2.2

/-- **A call begins with the stubs that have been stored** if all of them are on its route, its
session sees them and they accept its headers. -/
theorem converse_put {opening : Opening} (hid : opening.id = none)
    (htitle : settings.titleMethods = false) (hnamed : ∀ stub ∈ stubs, stub.id ≠ .nil)
    (hasc : Ascends stubs) (hne : stubs ≠ [])
    (hserves : ∀ stub ∈ stubs, stub.service = opening.service ∧ stub.method = opening.method ∧
      (stub.session = "" ∨ stub.session = opening.session))
    (haccepts : ∀ stub ∈ stubs, (stub.headers.accepts opening.headers).evalBy oracle = true) :
    ((run oracle settings [.put fresh stubs]).1.2.engine.converse opening).evalBy oracle =
      .ok { opening, seed := stubs } := by
  have hbeginning : (run oracle settings [.put fresh stubs]).1.2.engine.beginning oracle opening =
      { opening, seed := stubs } := by
    rw [Engine.beginning, routed_put htitle hnamed (.refl stubs) hasc hserves,
      Engine.methodName_eq_self ((titleMethods_run ..).trans htitle),
      List.filter_eq_self.mpr haccepts]
  rcases (sound_run oracle settings [.put fresh stubs]).1.evalBy_converse hid with
    hopened | ⟨-, hnone⟩
  · rw [hopened, hbeginning]
  · rw [hbeginning] at hnone
    exact absurd hnone hne

/-- A scan does not depend on the name of the method. -/
theorem scan_rename (query : Query) (method : String) (stubs : List Stub) (offset : ℕ) :
    scan { query with method } stubs offset = scan query stubs offset := by
  have halike : OfferAlike { query with method } query stubs := fun _ _ _ => rfl
  exact scan_congr halike offset

/-- **A query finds the leader** of a scan of the stubs that have been stored, if all of them are on
its route, its session sees them and they are too few to be scanned in chunks. -/
theorem find_put {query : Query} (hid : query.id = none) (htitle : settings.titleMethods = false)
    (hnamed : ∀ stub ∈ stubs, stub.id ≠ .nil) (hasc : Ascends stubs)
    (hserves : ∀ stub ∈ stubs, stub.service = query.service ∧ stub.method = query.method ∧
      (stub.session = "" ∨ stub.session = query.session))
    (hshort : stubs.length < max settings.chunkThreshold 1) (position : ℕ) {best : Stub}
    (hleader : ((scan query stubs 0).evalBy oracle).best.map Candidate.index = some position)
    (hbest : stubs[position]? = some best) :
    let reached := run oracle settings [.put fresh stubs]
    ((reached.1.2.engine.find query).runBy oracle reached.2).1.1 = .ok (.found best) := by
  intro reached
  obtain ⟨h, hcaches⟩ := sound_run oracle settings [.put fresh stubs]
  refine (Engine.runBy_find reached.1.2.engine query hcaches).trans ?_
  refine h.answer_of_scan hid (routed_put htitle hnamed (.refl stubs) hasc hserves) ?_
    fun method => ?_
  · rwa [chunkThreshold_run]
  · obtain ⟨leader, hscan, hindex⟩ := Option.map_eq_some_iff.mp hleader
    simp only [scan_rename, Engine.answerOf, hscan, Option.bind_some, hindex, hbest]

end Desk

end Understudy
