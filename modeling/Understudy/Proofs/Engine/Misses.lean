import Understudy.Proofs.Engine.Effects

/-!
# How a lookup misses

A query, a listing and the opening of a call look up a route: a service and a method. What they miss
is told by the names of the stored stubs alone, whatever has been stored and deleted before: the
service if no stub is one of it, and the method if there are such stubs and none of them has it. If
nothing is missing, a listing and a call that names no stub succeed, and the others can fail only
because no stub answers. A command that fails leaves the engine as it is.

## Main definitions

* `Stub.Serves`: a stub is one of a service, under its full name or the short one
* `Engine.missing?`: what is missing of a route
* `Command.route?`, `Response.failure?`: the route that a command looks up, and how a response fails

## Main results

* `Engine.Sound.failure_route`, `Engine.Sound.failure_named`: what the two kinds of lookup miss
* `Desk.failure_act`: what a command misses
* `Desk.engine_act_of_failure`: a command that fails leaves the engine as it is
* `Desk.misses_classified`: both, after any run
-/

namespace Understudy

/-! ## Failures -/

/-- The failure of a result, if it is one. -/
def failureOf {ε α : Type} : Except ε α → Option ε
  | .error failure => some failure
  | .ok _ => none

section Failures

variable {ε δ α β : Type}

@[simp] theorem failureOf_ok (value : α) : failureOf (.ok value : Except ε α) = none := rfl

@[simp] theorem failureOf_error (failure : ε) :
    failureOf (.error failure : Except ε α) = some failure := rfl

@[simp] theorem failureOf_map (result : Except ε α) (f : α → β) :
    failureOf (result.map f) = failureOf result := by
  cases result <;> rfl

@[simp] theorem failureOf_mapError (result : Except ε α) (f : ε → δ) :
    failureOf (result.mapError f) = (failureOf result).map f := by
  cases result <;> rfl

end Failures

/-! ## What is missing of a route -/

/-- Whether a stub is one of a service: it has the name of the service, or what follows the last
point of that name. -/
def Stub.Serves (service : String) (stub : Stub) : Prop :=
  stub.service = service ∨
    ∃ qualifier, service = qualifier ++ "." ++ stub.service ∧ '.' ∉ stub.service.toList

theorem Stub.serves_iff {service : String} {stub : Stub} :
    stub.Serves service ↔ stub.service ∈ routeNames service := by
  rw [Serves, routeNames, List.mem_cons, Option.mem_toList, shortName?_eq_some_iff]

instance (service : String) (stub : Stub) : Decidable (stub.Serves service) :=
  decidable_of_iff _ Stub.serves_iff.symm

namespace Engine

/-- What is missing of a route: the service if no stub is one of it, and the method if no stub of
the service has it. -/
def missing? (engine : Engine) (service method : String) : Option RouteError :=
  if ∃ stub ∈ engine.all, stub.Serves service ∧ stub.method = method then none
  else if ∃ stub ∈ engine.all, stub.Serves service then some .methodNotFound
  else some .serviceNotFound

variable {engine : Engine} {service method : String}

theorem missing?_eq_none_iff : engine.missing? service method = none ↔
    ∃ stub ∈ engine.all, stub.Serves service ∧ stub.method = method := by
  unfold missing?
  split
  · next hroute => exact iff_of_true rfl hroute
  · next hroute => split <;> exact iff_of_false (by simp) hroute

theorem missing?_eq_service_iff : engine.missing? service method = some .serviceNotFound ↔
    ∀ stub ∈ engine.all, ¬ stub.Serves service := by
  unfold missing?
  split
  · next hroute =>
    obtain ⟨stub, hs, hserves, -⟩ := hroute
    exact iff_of_false (by simp) fun hnone => hnone stub hs hserves
  · split
    · next hservice =>
      obtain ⟨stub, hs, hserves⟩ := hservice
      exact iff_of_false (by simp) fun hnone => hnone stub hs hserves
    · next hservice =>
      exact iff_of_true rfl fun stub hs hserves => hservice ⟨stub, hs, hserves⟩

theorem missing?_eq_method_iff : engine.missing? service method = some .methodNotFound ↔
    (∃ stub ∈ engine.all, stub.Serves service) ∧
      ∀ stub ∈ engine.all, stub.Serves service → stub.method ≠ method := by
  unfold missing?
  split
  · next hroute =>
    obtain ⟨stub, hs, hserves, hmethod⟩ := hroute
    exact iff_of_false (by simp) fun hnone => hnone.2 stub hs hserves hmethod
  · next hroute =>
    split
    · next hservice =>
      refine iff_of_true rfl ⟨hservice, fun stub hs hserves hmethod => ?_⟩
      exact hroute ⟨stub, hs, hserves, hmethod⟩
    · next hservice => exact iff_of_false (by simp) fun hsome => hservice hsome.1

/-! ## Lookups -/

variable {oracle : Oracle}

/-- Without collisions, the stubs on a route are those of the service that have the method. -/
theorem Sound.onRoute_iff_serves (h : engine.Sound oracle)
    (hinj : Set.InjOn oracle.digest (namesInUse engine.get? service method)) {stub : Stub}
    (hs : stub ∈ engine.all) :
    OnRoute oracle.digest service method stub ↔ stub.Serves service ∧ stub.method = method := by
  rw [onRoute_iff_named hinj (h.mem_all.mp hs)]
  exact and_comm

/-- Without collisions, the digest of a service is known if some stub is one of it. -/
theorem Sound.knows_service_iff (h : engine.Sound oracle)
    (hinj : Set.InjOn oracle.digest (namesInUse engine.get? service method)) :
    (∃ name ∈ routeNames service, ∃ stub ∈ engine.store.values,
        oracle.digest (Filed.left stub) = oracle.digest name) ↔
      ∃ stub ∈ engine.all, stub.Serves service := by
  constructor
  · rintro ⟨name, hname, stub, hs, hdigest⟩
    have hmem : stub ∈ engine.all := mem_byId.mpr hs
    refine ⟨stub, hmem, Stub.serves_iff.mpr ?_⟩
    -- the two names are in use, so they are the same
    have hservice : Filed.left stub = name := by
      apply hinj _ _ hdigest
      · exact .inr (.inr ⟨stub.id, stub, h.mem_all.mp hmem, .inl rfl⟩)
      · exact .inr (.inl hname)
    rwa [← hservice] at hname
  · rintro ⟨stub, hs, hserves⟩
    exact ⟨stub.service, Stub.serves_iff.mp hserves, stub, mem_byId.mp hs, rfl⟩

/-- **The keys of a route** are missed for the reason that is told by the names. -/
theorem Sound.failure_position (h : engine.Sound oracle)
    (hinj : Set.InjOn oracle.digest (namesInUse engine.get? service method)) :
    (failureOf ((engine.store.position service method).evalBy oracle)).map Miss.routeError =
      engine.missing? service method := by
  by_cases hroute : ∃ stub ∈ engine.all, stub.Serves service ∧ stub.method = method
  · rw [missing?_eq_none_iff.mpr hroute]
    obtain ⟨stub, hs, hnamed⟩ := hroute
    rw [Store.Sound.position_ok h ⟨stub, mem_byId.mp hs, (h.onRoute_iff_serves hinj hs).mpr hnamed⟩]
    rfl
  · rw [Store.Sound.position_error h, missing?, if_neg hroute, failureOf_error]
    · simp only [h.knows_service_iff hinj]
      split <;> rfl
    · intro stub hs hon
      have hmem : stub ∈ engine.all := mem_byId.mpr hs
      exact hroute ⟨stub, hmem, (h.onRoute_iff_serves hinj hmem).mp hon⟩

theorem Sound.failure_route (h : engine.Sound oracle)
    (hinj : Set.InjOn oracle.digest (namesInUse engine.get? service method)) :
    failureOf ((engine.route service method).evalBy oracle) = engine.missing? service method := by
  rw [← h.failure_position hinj]
  simp only [route, Store.findAll, Consult.evalBy_bind, Consult.evalBy_pure, failureOf_mapError,
    failureOf_map]

theorem Sound.failure_visible (h : engine.Sound oracle)
    (hinj : Set.InjOn oracle.digest (namesInUse engine.get? service method)) (session : String) :
    failureOf ((engine.visible service method session).evalBy oracle) =
      engine.missing? service method := by
  rw [← h.failure_route hinj]
  simp only [visible, Consult.evalBy_bind, Consult.evalBy_pure, failureOf_map]

/-- How a lookup fails that is after one stub: for what is missing, or else for the stub. -/
def FailsFor (missing? failure? : Option RouteError) : Prop :=
  failure? = missing? ∨ missing? = none ∧ failure? = some .stubNotFound

theorem Sound.failure_named (h : engine.Sound oracle)
    (hinj : Set.InjOn oracle.digest (namesInUse engine.get? service method)) (id : Identifier) :
    FailsFor (engine.missing? service method)
      (failureOf ((engine.named service method id).evalBy oracle)) := by
  have hfind : (failureOf ((engine.store.findIn service method id).evalBy oracle)).map
      Miss.routeError = engine.missing? service method := by
    rw [← h.failure_position hinj]
    simp only [Store.findIn, Consult.evalBy_bind, Consult.evalBy_pure, failureOf_map]
  rw [← hfind]
  simp only [named, Consult.evalBy_bind]
  cases (engine.store.findIn service method id).evalBy oracle with
  | error miss => exact .inl rfl
  | ok found =>
    cases found with
    | none => exact .inr ⟨rfl, rfl⟩
    | some stub => exact .inl rfl

/-- A scan fails only for want of a stub. -/
theorem failure_answerOf (stubs : List Stub) (scan : Scan) :
    FailsFor none (failureOf (answerOf stubs scan)) := by
  unfold answerOf
  split
  · exact .inl rfl
  · split
    · exact .inl rfl
    · exact .inr ⟨rfl, rfl⟩

/-! ## Queries and calls -/

theorem Sound.failure_answer (h : engine.Sound oracle) (htitle : engine.titleMethods = false)
    {query : Query}
    (hinj : Set.InjOn oracle.digest (namesInUse engine.get? query.service query.method)) :
    FailsFor (engine.missing? query.service query.method)
      (failureOf ((engine.answer query).evalBy oracle)) := by
  cases hid : query.id with
  | some id =>
    simp only [answer, hid, methodName_eq_self htitle, Consult.evalBy_bind, Consult.evalBy_pure,
      failureOf_map]
    exact h.failure_named hinj id
  | none =>
    have hvisible := h.failure_visible hinj query.session
    rw [← hvisible]
    simp only [answer, hid, methodName_eq_self htitle, search, Consult.evalBy_bind]
    -- the route is missed, or its stubs are scanned
    cases (engine.visible query.service query.method query.session).evalBy oracle with
    | error failure => exact .inl rfl
    | ok stubs =>
      simp only [Consult.evalBy_bind, Consult.evalBy_pure, failureOf_ok]
      exact failure_answerOf _ _

theorem Sound.failure_converse (h : engine.Sound oracle) (htitle : engine.titleMethods = false)
    {opening : Opening}
    (hinj : Set.InjOn oracle.digest (namesInUse engine.get? opening.service opening.method)) :
    let failure? := failureOf ((engine.converse opening).evalBy oracle)
    (opening.id = none → failure? = engine.missing? opening.service opening.method) ∧
      FailsFor (engine.missing? opening.service opening.method) failure? := by
  intro failure?
  cases hid : opening.id with
  | some id =>
    simp only [failure?, converse, seed, hid, methodName_eq_self htitle, Consult.evalBy_bind,
      Consult.evalBy_pure, failureOf_map]
    refine ⟨fun hnone => ?_, h.failure_named hinj id⟩
    cases hnone
  | none =>
    have hmissing : failure? = engine.missing? opening.service opening.method := by
      rw [← h.failure_visible hinj opening.session]
      simp only [failure?, converse, seed, hid, methodName_eq_self htitle, Consult.evalBy_bind,
        Consult.evalBy_pure, failureOf_map]
      cases (engine.visible opening.service opening.method opening.session).evalBy oracle with
      | error failure => rfl
      | ok stubs => simp only [Consult.evalBy_bind, Consult.evalBy_pure, failureOf_ok]
    exact ⟨fun _ => hmissing, .inl hmissing⟩

end Engine

/-! ## Commands -/

/-- The route that a command looks up: a service and a method. -/
def Command.route? : Command → Option (String × String)
  | .find query => some (query.service, query.method)
  | .route service method => some (service, method)
  | .openCall _ opening => some (opening.service, opening.method)
  | _ => none

/-- Whether a command is after one stub: a query is, and a call that names one. -/
def Command.seeksOne : Command → Bool
  | .find _ => true
  | .openCall _ opening => opening.id.isSome
  | _ => false

/-- How a response fails, if it does. -/
def Response.failure? : Response → Option RouteError
  | .answer result => failureOf result
  | .route result => failureOf result
  | .opened result => failureOf result
  | .turn result _ _ => failureOf result
  | _ => none

namespace Desk

variable {oracle : Oracle} {desk : Desk}

/-- **What a command misses** is what is missing of its route; if nothing is, only a command that
is after one stub fails, and that for want of it. -/
theorem failure_act (h : desk.engine.Sound oracle) (htitle : desk.engine.titleMethods = false)
    {command : Command} {service method : String}
    (hroute : command.route? = some (service, method))
    (hinj : Set.InjOn oracle.digest (namesInUse desk.engine.get? service method)) :
    let failure? := ((command.act desk).evalBy oracle).1.failure?
    (command.seeksOne = false → failure? = desk.engine.missing? service method) ∧
      Engine.FailsFor (desk.engine.missing? service method) failure? := by
  cases command with
  | find query =>
    obtain ⟨rfl, rfl⟩ := Prod.mk.inj (Option.some.inj hroute)
    simp only [Command.act, Engine.find, Consult.evalBy_bind, Consult.evalBy_pure]
    refine ⟨fun hseeks => ?_, h.failure_answer htitle hinj⟩
    cases hseeks
  | route =>
    obtain ⟨rfl, rfl⟩ := Prod.mk.inj (Option.some.inj hroute)
    simp only [Command.act, Consult.evalBy_bind, Consult.evalBy_pure]
    exact ⟨fun _ => h.failure_route hinj, .inl (h.failure_route hinj)⟩
  | openCall name opening =>
    obtain ⟨rfl, rfl⟩ := Prod.mk.inj (Option.some.inj hroute)
    obtain ⟨hunnamed, hfails⟩ := h.failure_converse htitle hinj
    have hresponse : (((Command.openCall name opening).act desk).evalBy oracle).1.failure? =
        failureOf ((desk.engine.converse opening).evalBy oracle) := by
      simp only [Command.act, Consult.evalBy_bind]
      cases (desk.engine.converse opening).evalBy oracle <;> rfl
    rw [hresponse]
    exact ⟨fun hseeks => hunnamed (Option.not_isSome_iff_eq_none.mp (by simpa [Command.seeksOne]
      using hseeks)), hfails⟩
  | _ => cases hroute

/-- **A command that fails** leaves the engine as it is. -/
theorem engine_act_of_failure (desk : Desk) (command : Command)
    (hfailure : ((command.act desk).evalBy oracle).1.failure? ≠ none) :
    ((command.act desk).evalBy oracle).2.engine = desk.engine := by
  cases command with
  | find query =>
    simp only [Command.act, Engine.find, Consult.evalBy_bind, Consult.evalBy_pure] at hfailure ⊢
    -- only a stub that is found is marked
    cases hanswer : (desk.engine.answer query).evalBy oracle with
    | error failure => rfl
    | ok answer =>
      rw [hanswer] at hfailure
      exact absurd rfl hfailure
  | next name message =>
    cases hcall : desk.calls name with
    | none => simp only [Command.act, hcall, Consult.evalBy_pure]
    | some conversation =>
      simp only [Command.act, hcall, Engine.next, Consult.evalBy_bind,
        Consult.evalBy_pure] at hfailure ⊢
      cases hturn : ((conversation.next message).evalBy oracle).1 with
      | none => rfl
      | some turn =>
        rw [hturn] at hfailure
        exact absurd rfl hfailure
  | openCall name opening =>
    simp only [Command.act, Consult.evalBy_bind]
    split <;> rfl
  | route service method => simp only [Command.act, Consult.evalBy_bind, Consult.evalBy_pure]
  | put | update =>
    simp only [Command.act, Consult.evalBy_bind, Consult.evalBy_pure] at hfailure
    exact absurd rfl hfailure
  | delete | deleteSession | clear | get | size | all | used | unused => exact absurd rfl hfailure

/-- **What a lookup misses, after any run.** Without titles and without collisions among the names
in use, a query, a listing or the opening of a call misses the service exactly if no stored stub is
one of it, and the method exactly if some stored stub is one of the service and none of these has the
method. If one has it, only what is after one stub fails, and that for want of it. A command that
fails leaves the engine as it is. -/
theorem misses_classified (oracle : Oracle) (settings : Settings)
    (htitle : settings.titleMethods = false) (before : List Command) :
    let reached := run oracle settings before
    let engine := reached.1.2.engine
    ∀ command : Command,
      let outcome := ((command.act reached.1.2).runBy oracle reached.2).1
      (∀ service method, command.route? = some (service, method) →
        Set.InjOn oracle.digest (namesInUse engine.get? service method) →
        (outcome.1.failure? = some .serviceNotFound ↔
          ∀ stub ∈ engine.all, ¬ stub.Serves service) ∧
        (outcome.1.failure? = some .methodNotFound ↔
          (∃ stub ∈ engine.all, stub.Serves service) ∧
            ∀ stub ∈ engine.all, stub.Serves service → stub.method ≠ method) ∧
        ((∃ stub ∈ engine.all, stub.Serves service ∧ stub.method = method) →
          outcome.1.failure? = none ∨
            command.seeksOne = true ∧ outcome.1.failure? = some .stubNotFound)) ∧
      (outcome.1.failure? ≠ none → outcome.2.engine = engine) := by
  intro reached engine command outcome
  obtain ⟨hsound, hcaches⟩ := sound_run oracle settings before
  have hengine : engine.titleMethods = false :=
    (titleMethods_run oracle settings before).trans htitle
  have houtcome : outcome = (command.act reached.1.2).evalBy oracle :=
    Consult.runBy_fst _ hcaches
  rw [houtcome]
  refine ⟨fun service method hroute hinj => ?_, engine_act_of_failure _ command⟩
  obtain ⟨hlisted, hfails⟩ := failure_act hsound hengine hroute hinj
  have hservice : engine.missing? service method = some .serviceNotFound ↔
      ∀ stub ∈ engine.all, ¬ stub.Serves service := Engine.missing?_eq_service_iff
  rw [← hservice, ← Engine.missing?_eq_method_iff, ← Engine.missing?_eq_none_iff]
  rcases hfails with hmissing | ⟨hnone, hstub⟩
  · rw [hmissing]
    exact ⟨Iff.rfl, Iff.rfl, .inl⟩
  · -- nothing is missing of the route, but the stub does not answer
    have hseeks : command.seeksOne = true := by
      rw [← Bool.not_eq_false]
      intro hseeks
      -- what is not after one stub fails for what is missing only
      have hfailure := hlisted hseeks
      rw [hstub, hnone] at hfailure
      cases hfailure
    rw [hstub, hnone]
    exact ⟨by simp, by simp, fun _ => .inr ⟨hseeks, rfl⟩⟩

end Desk

/-! ## A stub that has moved

Of three stubs one goes with its session, one is moved to another route and one is deleted. -/

namespace Removal

/-- A stub of a route. -/
def filed (id : ℕ) (service method session : String) : Stub where
  id := ⟨BitVec.ofNat 128 id⟩
  service := service
  method := method
  session := session
  expectation := .ordered [Errand.wants "pen"]

/-- The stub that is left, where it is in the end. -/
def moved : Stub := filed 1 "Cart" "Drop" ""

def history : List Command :=
  [.put (fun _ => .nil)
      [filed 1 "shop.Cart" "Add" "", filed 2 "Cart" "Add" "spring", filed 3 "Mug" "Wash" ""],
    .deleteSession "spring", .update [moved], .delete [⟨3⟩]]

/-- A call with a cup, which nothing wants. -/
def query (id : Option Identifier) (service method : String) : Query where
  id := id
  service := service
  method := method
  messages := [Errand.carrying "cup"]

theorem all_history : (Desk.run .standard {} history).1.2.engine.all = [moved] := by
  cbv

/-- The names that a lookup compares: no two of them have the same digest. -/
theorem injOn_digest {service method : String}
    (hdigest : ∀ a ∈ namesAmong [moved] service method, ∀ b ∈ namesAmong [moved] service method,
      digest a = digest b → a = b) :
    Set.InjOn Oracle.standard.digest
      (namesInUse (Desk.run .standard {} history).1.2.engine.get? service method) := by
  refine injOn_namesInUse (fun id stub hstub => ?_) hdigest
  -- the only stub that is stored is the one that has moved
  have hsound := (Desk.sound_run .standard {} history).1
  rw [← all_history, hsound.mem_all, hsound.id_of_get? hstub]
  exact hstub

end Removal

namespace Desk

/-- The method is missed where the stub was, and the service that has no stub any more; where the
stub is now, a listing succeeds. -/
theorem misses_classified_history :
    let reached := run .standard {} Removal.history
    let outcome := fun command : Command =>
      ((command.act reached.1.2).runBy .standard reached.2).1
    let left := outcome (.find (Removal.query none "shop.Cart" "Add"))
    let gone := outcome (.openCall "a" (Removal.query (some ⟨3⟩) "Mug" "Wash").opening)
    left.1.failure? = some .methodNotFound ∧ left.2.engine = reached.1.2.engine ∧
    gone.1.failure? = some .serviceNotFound ∧ gone.2.engine = reached.1.2.engine ∧
    (outcome (.route "shop.Cart" "Drop")).1.failure? = none := by
  dsimp only
  have hmisses := misses_classified .standard {} rfl Removal.history
  dsimp only at hmisses
  obtain ⟨hfails, hleaves⟩ := hmisses (.find (Removal.query none "shop.Cart" "Add"))
  obtain ⟨hfails', hleaves'⟩ :=
    hmisses (.openCall "a" (Removal.query (some ⟨3⟩) "Mug" "Wash").opening)
  obtain ⟨hlists, -⟩ := hmisses (.route "shop.Cart" "Drop")
  have hmoved := hfails "shop.Cart" "Add" rfl (Removal.injOn_digest (by decide +kernel))
  have hdeleted := hfails' "Mug" "Wash" rfl (Removal.injOn_digest (by decide +kernel))
  have hlisted := hlists "shop.Cart" "Drop" rfl (Removal.injOn_digest (by decide +kernel))
  rw [Removal.all_history] at hmoved hdeleted hlisted
  have hleft := hmoved.2.1.mpr (by decide)
  have hgone := hdeleted.1.mpr (by decide)
  refine ⟨hleft, hleaves ?_, hgone, hleaves' ?_, ?_⟩
  · rw [hleft]
    exact Option.some_ne_none _
  · rw [hgone]
    exact Option.some_ne_none _
  · rcases hlisted.2.2 (by decide) with hnone | ⟨hseeks, -⟩
    · exact hnone
    · cases hseeks

end Desk

end Understudy
