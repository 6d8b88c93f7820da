import Understudy.Proofs.Engine.Effects
import Understudy.Proofs.Engine.Registry

/-!
# An engine is a registry

Each command does to an engine and its calls what it does to the registry that they stand for, and
gets a response that the registry allows. The registry of a desk is read off it, and between two
commands the desk is *orderly*: its tables are sound, no mark comes twice, and every stub that is
stored, marked or left in a call has an identifier under which a stub has been stored at some time.
So an identifier under which none has been is new to all of them.

## Main definitions

* `Desk.registry`: the registry that a desk stands for
* `Desk.Orderly`: what holds of a desk between two commands

## Main results

* `Desk.Orderly.lists_all`, `Desk.Orderly.lists_used`, `Desk.Orderly.lists_unused`: listings
* `Desk.Orderly.registry_act`: a command does to a desk what it does to its registry
* `Desk.Orderly.allows_act`: its response is one that the registry allows
* `Desk.Orderly.act`: a command keeps a desk orderly
* `Desk.Orderly.perform`, `Desk.refines_registry`: so does a run of commands
-/

namespace Understudy

/-! ## The registry of a desk -/

namespace Desk

/-- The registry that a desk stands for. -/
def registry (desk : Desk) : Registry where
  stubs := desk.engine.store.get?
  used := {id | id ∈ desk.engine.marks}
  calls name := (desk.calls name).map fun conversation =>
    ⟨conversation.opening.quiet, conversation.position?⟩

/-- What holds of a desk between two commands; `seen` are the identifiers under which stubs have
been stored so far. -/
structure Orderly (oracle : Oracle) (seen : Set Identifier) (desk : Desk) : Prop where
  sound : desk.engine.Sound oracle
  nodup_marks : desk.engine.marks.Nodup
  stored : ∀ id stub, desk.engine.get? id = some stub → id ≠ .nil ∧ id ∈ seen
  marked : ∀ id ∈ desk.engine.marks, id ∈ seen
  inCalls : ∀ name conversation, desk.calls name = some conversation →
    ∀ stub ∈ conversation.candidates, stub.id ∈ seen

variable {oracle : Oracle} {seen : Set Identifier} {desk : Desk}

/-! ## Listings -/

theorem Orderly.lists_all (h : desk.Orderly oracle seen) :
    desk.registry.Lists (fun _ => True) desk.engine.all := by
  refine ⟨Engine.ascends_byId h.sound.nodup_ids_values, fun stub => ?_⟩
  rw [and_true]
  exact h.sound.mem_all

theorem Orderly.lists_used (h : desk.Orderly oracle seen) :
    desk.registry.Lists (· ∈ desk.registry.used) desk.engine.used := by
  refine ⟨Engine.ascends_byId ?_, fun stub => h.sound.mem_used⟩
  -- two marks are different identifiers, and so are those of the stubs under them
  refine List.pairwise_map.mpr (List.pairwise_filterMap.mpr (h.nodup_marks.imp ?_))
  intro id id' hne stub hstub stub' hstub' he
  exact hne (by rw [← h.sound.id_of_get? hstub, he, h.sound.id_of_get? hstub'])

theorem Orderly.lists_unused (h : desk.Orderly oracle seen) :
    desk.registry.Lists (· ∉ desk.registry.used) desk.engine.unused := by
  refine ⟨Engine.ascends_byId ?_, fun stub => h.sound.mem_unused⟩
  exact h.sound.nodup_ids_values.sublist (List.filter_sublist.map _)

/-! ## What a command does -/

/-- Stubs under the identifiers that they have been given are those that have been given them. -/
theorem labelled_assignIds (fresh : ℕ → Identifier) (stubs : List Stub) :
    Registry.labelled stubs ((Engine.assignIds fresh stubs).map Stub.id) =
      Engine.assignIds fresh stubs := by
  apply List.ext_getElem
  · simp [Registry.labelled, Engine.assignIds]
  · intro position _ _
    simp only [Registry.labelled, Engine.assignIds, List.getElem_zipWith, List.getElem_map,
      List.getElem_mapIdx]
    split <;> rfl

theorem registry_mark (desk : Desk) (quiet : Bool) (id : Identifier) :
    registry { desk with engine := desk.engine.mark quiet id } =
      desk.registry.mark quiet id := by
  have hused : {other | other ∈ (desk.engine.mark quiet id).marks} =
      if quiet then desk.registry.used else insert id desk.registry.used := by
    ext other
    rw [Set.mem_ofPred_eq, Engine.mem_marks_mark]
    cases quiet <;> simp [registry, or_comm]
  rw [registry, Engine.store_mark, hused, Registry.mark]
  cases quiet <;> rfl

theorem registry_call (desk : Desk) (name : String) (conversation : Conversation) :
    registry { desk with calls := Function.update desk.calls name (some conversation) } =
      { desk.registry with
        calls := Function.update desk.registry.calls name
          (some ⟨conversation.opening.quiet, conversation.position?⟩) } := by
  simp only [registry, Registry.mk.injEq, true_and]
  funext other
  by_cases hother : other = name
  · subst hother
    rw [Function.update_self, Function.update_self, Option.map_some]
  · rw [Function.update_of_ne hother, Function.update_of_ne hother]

/-- A message does to a desk what it does to the registry of the desk. -/
theorem registry_next (desk : Desk) {name : String} {conversation : Conversation}
    (hcall : desk.calls name = some conversation) (message : Fields) :
    ((Command.act desk (.next name message)).evalBy oracle).2.registry =
      desk.registry.step (.next name message)
        ((Command.act desk (.next name message)).evalBy oracle).1 := by
  have hbefore : desk.registry.calls name =
      some ⟨conversation.opening.quiet, conversation.position?⟩ := by
    simp only [registry, hcall, Option.map_some]
  obtain ⟨hopening, -, hturn⟩ := Conversation.next_spec oracle conversation message
  simp only [Command.act, hcall, Engine.next, Consult.evalBy_bind, Consult.evalBy_pure,
    Registry.step, hbefore, Registry.turn]
  cases hanswer : ((conversation.next message).evalBy oracle).1 with
  | none =>
    rw [← hopening]
    exact registry_call desk name _
  | some turn =>
    obtain ⟨-, hcounts⟩ := hturn turn hanswer
    let called : Desk := { desk with
      calls := Function.update desk.calls name (some ((conversation.next message).evalBy oracle).2) }
    have hcalled : called.registry = _ := registry_call desk name _
    rw [hopening] at hcalled
    -- the turn counts exactly if the registry marks its stub
    by_cases hmarked : turn.counts = true
    · simp only [Engine.markTurn, if_pos hmarked, if_pos (hcounts.mp hmarked), hopening]
      rw [← hcalled]
      exact registry_mark called conversation.opening.quiet turn.stub.id
    · simp only [Engine.markTurn, if_neg hmarked, if_neg (fun h => hmarked (hcounts.mpr h))]
      exact hcalled

/-- **A command** does to a desk what it does to the registry of the desk. -/
theorem Orderly.registry_act (h : desk.Orderly oracle seen) (command : Command) :
    ((command.act desk).evalBy oracle).2.registry =
      desk.registry.step command ((command.act desk).evalBy oracle).1 := by
  -- stored stubs are the map of the store, and only marks change what is used
  cases command with
  | put fresh stubs =>
    have hget := Store.Sound.get?_file h.sound (Engine.assignIds fresh stubs)
    simp only [Command.act, Engine.put, Consult.evalBy_bind, Consult.evalBy_pure,
      Engine.evalBy_register, Registry.step, labelled_assignIds]
    exact congrArg (fun get? => { desk.registry with stubs := get? }) hget
  | update stubs =>
    have hget := Store.Sound.get?_file h.sound (stubs.filter fun stub => !stub.id.isNil)
    simp only [Command.act, Engine.update, Consult.evalBy_bind, Consult.evalBy_pure,
      Engine.evalBy_register, Registry.step]
    exact congrArg (fun get? => { desk.registry with stubs := get? }) hget
  | delete ids =>
    have hstore : desk.engine.store.Sound oracle.digest := h.sound
    have hget := hstore.get?_apply (.delete ids)
    exact congrArg (fun get? => { desk.registry with stubs := get? }) hget
  | deleteSession session =>
    by_cases hname : session = ""
    · subst hname
      rfl
    · obtain ⟨hget, hmarks, -⟩ := h.sound.deleteSession_spec hname
      have hused : {id | id ∈ (desk.engine.deleteSession session).2.marks} =
          {id ∈ desk.registry.used |
            ∀ stub, desk.registry.stubs id = some stub → stub.session ≠ session} := by
        ext id
        exact hmarks id
      rw [Registry.step, if_neg hname]
      exact congrArg₂ (fun get? used => { desk.registry with stubs := get?, used }) hget hused
  | clear =>
    have hused : {id | id ∈ desk.engine.clear.marks} = ∅ := by
      ext id
      simp [Engine.clear]
    exact congrArg (fun used => { desk.registry with stubs := fun _ => none, used }) hused
  | find query =>
    simp only [Command.act, Consult.evalBy_bind, Consult.evalBy_pure, Engine.find]
    -- only a stub that is found is marked
    cases (desk.engine.answer query).evalBy oracle with
    | error failure => rfl
    | ok answer =>
      cases answer with
      | found stub => exact registry_mark desk query.quiet stub.id
      | similar stub => rfl
  | openCall name opening =>
    simp only [Command.act, Consult.evalBy_bind]
    split
    · next conversation hopened =>
      obtain ⟨hquiet, hfresh, -⟩ := h.sound.get?_of_converse hopened
      have hposition : conversation.position? = some 0 := by rw [Conversation.position?, hfresh]
      simp only [Consult.evalBy_pure, Registry.step, ← hquiet, ← hposition]
      exact registry_call desk name conversation
    · rfl
  | next name message =>
    cases hcall : desk.calls name with
    | none =>
      simp only [Command.act, hcall, Consult.evalBy_pure]
      rfl
    | some conversation => exact registry_next desk hcall message
  | get | size | all | used | unused => rfl
  | route service method =>
    simp only [Command.act, Consult.evalBy_bind, Consult.evalBy_pure]
    rfl

/-! ## Which responses there are -/

theorem getElem?_assignIds {fresh : ℕ → Identifier} {stubs : List Stub} {position : ℕ} {stub : Stub}
    (hstub : stubs[position]? = some stub) :
    ((Engine.assignIds fresh stubs).map Stub.id)[position]? =
      some (if stub.id = .nil then fresh position else stub.id) := by
  have hisNil : stub.id.isNil = true ↔ stub.id = .nil := decide_eq_true_iff
  rw [Engine.assignIds, List.getElem?_map, List.getElem?_mapIdx, hstub]
  simp only [Option.map_some, hisNil]
  split <;> rfl

/-- The identifiers that a batch gets are new to what is stored and what is marked. -/
theorem Orderly.issues (h : desk.Orderly oracle seen) {fresh : ℕ → Identifier} {stubs : List Stub}
    (hfresh : (Command.put fresh stubs).FreshAt seen) :
    desk.registry.Issues stubs ((Engine.assignIds fresh stubs).map Stub.id) := by
  refine ⟨by simp [Engine.assignIds], fun position stub id hstub hid => ?_⟩
  rw [getElem?_assignIds hstub] at hid
  obtain rfl := Option.some.inj hid
  refine ⟨fun hnamed => if_neg hnamed, fun hnil => ?_⟩
  obtain ⟨hne, hunseen, hbatch⟩ := hfresh position stub hstub hnil
  rw [if_pos hnil]
  refine ⟨hne, ?_, fun hmarked => hunseen (h.marked _ hmarked), hbatch⟩
  -- whatever is stored has been seen
  rw [Option.eq_none_iff_forall_ne_some]
  exact fun other hother => hunseen (h.stored _ other hother).2

/-- **The response** to a command is one that the registry of the desk allows. -/
theorem Orderly.allows_act (h : desk.Orderly oracle seen) {command : Command}
    (hfresh : command.FreshAt seen) :
    desk.registry.Allows command ((command.act desk).evalBy oracle).1 := by
  cases command with
  | put fresh stubs =>
    simp only [Command.act, Engine.put, Consult.evalBy_bind, Consult.evalBy_pure,
      Engine.evalBy_register]
    exact h.issues hfresh
  | update stubs =>
    simp only [Command.act, Engine.update, Consult.evalBy_bind, Consult.evalBy_pure,
      Engine.evalBy_register]
    exact rfl
  | delete ids => exact Store.Sound.delete_fst h.sound ids
  | deleteSession session =>
    by_cases hname : session = ""
    · subst hname
      simp [Command.act, Engine.deleteSession, Registry.Allows, Registry.ofSession]
    · obtain ⟨-, -, hcount⟩ := h.sound.deleteSession_spec hname
      have hset : desk.registry.ofSession session =
          {id | ∃ stub, desk.engine.get? id = some stub ∧ stub.session = session} := by
        ext id
        exact and_iff_right hname
      show ((desk.engine.deleteSession session).1 : ℕ∞) = _
      rw [hcount, hset]
  | clear => trivial
  | get id => rfl
  | size => exact Store.Sound.size_eq_encard h.sound
  | all => exact h.lists_all
  | used => exact h.lists_used
  | unused => exact h.lists_unused
  | find query =>
    simp only [Command.act, Consult.evalBy_bind, Consult.evalBy_pure, Engine.find]
    exact fun stub hanswer => h.sound.get?_of_answer hanswer
  | route service method =>
    simp only [Command.act, Consult.evalBy_bind, Consult.evalBy_pure]
    trivial
  | openCall name opening =>
    simp only [Command.act, Consult.evalBy_bind]
    split
    · next conversation hopened =>
      obtain ⟨-, -, hstored⟩ := h.sound.get?_of_converse hopened
      rintro stubs hstubs
      obtain rfl := Except.ok.inj hstubs
      exact hstored
    · rintro stubs hstubs
      cases hstubs
  | next name message =>
    cases hcall : desk.calls name with
    | none =>
      simp only [Command.act, hcall, Consult.evalBy_pure]
      simp [Registry.Allows, registry, hcall]
    | some conversation =>
      simp only [Command.act, hcall, Consult.evalBy_bind, Consult.evalBy_pure]
      simp [Registry.Allows, registry, hcall]

/-! ## What stays in order -/

theorem Orderly.mono (h : desk.Orderly oracle seen) {seen' : Set Identifier} (hle : seen ⊆ seen') :
    desk.Orderly oracle seen' where
  sound := h.sound
  nodup_marks := h.nodup_marks
  stored id stub hstub := ⟨(h.stored id stub hstub).1, hle (h.stored id stub hstub).2⟩
  marked id hid := hle (h.marked id hid)
  inCalls name conversation hcall stub hmem := hle (h.inCalls name conversation hcall stub hmem)

/-- A batch of stubs with identifiers is stored. -/
theorem Orderly.register (h : desk.Orderly oracle seen) {batch : List Stub}
    (hnamed : ∀ stub ∈ batch, stub.id ≠ .nil) :
    Orderly oracle (seen ∪ {id | id ∈ batch.map Stub.id})
      { desk with engine := ((desk.engine.register batch).evalBy oracle).2 } := by
  have hmono := h.mono (Set.subset_union_left (t := {id | id ∈ batch.map Stub.id}))
  have hget := Store.Sound.get?_file h.sound batch
  rw [Engine.evalBy_register]
  refine ⟨Store.Sound.afterSteps h.sound _, h.nodup_marks, fun id stub hstub => ?_, hmono.marked,
    hmono.inCalls⟩
  rcases Contents.upsert_eq_some ((congrFun hget id).symm.trans hstub) with hold | ⟨hmem, rfl⟩
  · exact hmono.stored id stub hold
  · exact ⟨hnamed stub hmem, .inr (List.mem_map_of_mem hmem)⟩

/-- Stubs and marks are taken out. -/
theorem Orderly.shrink (h : desk.Orderly oracle seen) {engine : Engine}
    (hsound : engine.Sound oracle)
    (hstubs : ∀ id stub, engine.get? id = some stub → desk.engine.get? id = some stub)
    (hmarks : engine.marks.Sublist desk.engine.marks) :
    Orderly oracle seen { desk with engine } where
  sound := hsound
  nodup_marks := h.nodup_marks.sublist hmarks
  stored id stub hstub := h.stored id stub (hstubs id stub hstub)
  marked id hid := h.marked id (hmarks.subset hid)
  inCalls := h.inCalls

theorem Orderly.mark (h : desk.Orderly oracle seen) (quiet : Bool) {id : Identifier}
    (hid : id ∈ seen) : Orderly oracle seen { desk with engine := desk.engine.mark quiet id } where
  sound := by
    rw [Engine.Sound, Engine.store_mark]
    exact h.sound
  nodup_marks := Engine.nodup_marks_mark h.nodup_marks quiet id
  stored other stub hstub := by
    rw [Engine.get?, Engine.store_mark] at hstub
    exact h.stored other stub hstub
  marked other hother := by
    rcases Engine.mem_marks_mark.mp hother with hother | ⟨-, rfl⟩
    · exact h.marked other hother
    · exact hid
  inCalls := h.inCalls

theorem Orderly.call (h : desk.Orderly oracle seen) (name : String) {conversation : Conversation}
    (hseen : ∀ stub ∈ conversation.candidates, stub.id ∈ seen) :
    Orderly oracle seen
      { desk with calls := Function.update desk.calls name (some conversation) } where
  sound := h.sound
  nodup_marks := h.nodup_marks
  stored := h.stored
  marked := h.marked
  inCalls other conversation' hcall := by
    have hupdated : Function.update desk.calls name (some conversation) other =
      some conversation' := hcall
    by_cases hother : other = name
    · subst hother
      rw [Function.update_self] at hupdated
      obtain rfl := Option.some.inj hupdated
      exact hseen
    · rw [Function.update_of_ne hother] at hupdated
      exact h.inCalls other conversation' hupdated

theorem Orderly.next (h : desk.Orderly oracle seen) {name : String} {conversation : Conversation}
    (hcall : desk.calls name = some conversation) (message : Fields) :
    ((Command.act desk (.next name message)).evalBy oracle).2.Orderly oracle seen := by
  obtain ⟨-, hleft, hturn⟩ := Conversation.next_spec oracle conversation message
  have hseen := h.inCalls name conversation hcall
  have hcalled := h.call name fun stub hmem => hseen stub (hleft stub hmem)
  simp only [Command.act, hcall, Engine.next, Consult.evalBy_bind, Consult.evalBy_pure]
  cases hanswer : ((conversation.next message).evalBy oracle).1 with
  | none => exact hcalled
  | some turn =>
    simp only [Engine.markTurn]
    split
    · exact hcalled.mark _ (hseen _ (hturn turn hanswer).1)
    · exact hcalled

/-- A command whose identifiers are fresh keeps a desk orderly. -/
theorem Orderly.act (h : desk.Orderly oracle seen) {command : Command}
    (hfresh : command.FreshAt seen) :
    ((command.act desk).evalBy oracle).2.Orderly oracle
      (seen ∪ {id | id ∈ command.storedIds}) := by
  have hmono := h.mono (Set.subset_union_left (t := {id | id ∈ command.storedIds}))
  -- only a batch brings identifiers that have not been seen, and they are seen after it
  cases command with
  | put fresh stubs =>
    simp only [Command.act, Engine.put, Consult.evalBy_bind, Consult.evalBy_pure]
    refine h.register fun stub hmem => ?_
    obtain ⟨position, hlt, rfl⟩ := List.mem_mapIdx.mp hmem
    split
    · next hnil =>
      have hdrawn := hfresh position _ (List.getElem?_eq_getElem hlt) (of_decide_eq_true hnil)
      exact hdrawn.1
    · next hnil => exact fun he => hnil (decide_eq_true he)
  | update stubs =>
    simp only [Command.act, Engine.update, Consult.evalBy_bind, Consult.evalBy_pure]
    refine h.register fun stub hmem => ?_
    simpa [Identifier.isNil] using (List.mem_filter.mp hmem).2
  | delete ids =>
    have hstore : desk.engine.store.Sound oracle.digest := h.sound
    have hget := hstore.get?_apply (.delete ids)
    refine hmono.shrink (h.sound.delete ids) (fun id stub hstub => ?_) (List.Sublist.refl _)
    have hkept := (congrFun hget id).symm.trans hstub
    rw [Contents.apply, Contents.foldl_none] at hkept
    exact (Option.ite_none_left_eq_some.mp hkept).2
  | deleteSession session =>
    by_cases hname : session = ""
    · subst hname
      exact hmono
    · obtain ⟨hget, -, -⟩ := h.sound.deleteSession_spec hname
      refine hmono.shrink (h.sound.deleteSession session) (fun id stub hstub => ?_) ?_
      · exact (Option.filter_eq_some_iff.mp ((congrFun hget id).symm.trans hstub)).1
      · exact Engine.marks_deleteSession_sublist desk.engine session
  | clear =>
    refine hmono.shrink Store.Sound.empty (fun id stub hstub => ?_) (List.nil_sublist _)
    cases hstub
  | find query =>
    simp only [Command.act, Consult.evalBy_bind, Consult.evalBy_pure, Engine.find]
    cases hanswer : (desk.engine.answer query).evalBy oracle with
    | error failure => exact hmono
    | ok answer =>
      cases answer with
      | found stub =>
        -- the stub that is marked is stored, so it has been seen
        have hstored := h.sound.get?_of_answer (.inl hanswer)
        exact hmono.mark query.quiet (hmono.stored stub.id stub hstored).2
      | similar stub => exact hmono
  | openCall name opening =>
    simp only [Command.act, Consult.evalBy_bind]
    split
    · next conversation hopened =>
      obtain ⟨-, hbegun, hstored⟩ := h.sound.get?_of_converse hopened
      refine hmono.call name fun stub hmem => ?_
      rw [Conversation.candidates, hbegun] at hmem
      exact (hmono.stored stub.id stub (hstored stub hmem)).2
    · exact hmono
  | next name message =>
    cases hcall : desk.calls name with
    | none =>
      simp only [Command.act, hcall, Consult.evalBy_pure]
      exact hmono
    | some conversation => exact hmono.next hcall message
  | get | size | all | used | unused => exact hmono
  | route service method =>
    simp only [Command.act, Consult.evalBy_bind, Consult.evalBy_pure]
    exact hmono

/-! ## Runs -/

/-- A desk before the first command. -/
theorem orderly_start (settings : Settings) : (start settings).Orderly oracle ∅ where
  sound := Engine.Sound.ofSettings settings
  nodup_marks := List.nodup_nil
  stored _ _ hstub := nomatch hstub
  marked _ hid := (List.not_mem_nil hid).elim
  inCalls _ _ hcall := nomatch hcall

theorem registry_start (settings : Settings) : (start settings).registry = .empty := by
  have hused : {id | id ∈ (start settings).engine.marks} = ∅ :=
    Set.eq_empty_of_forall_notMem fun _ hid => List.not_mem_nil hid
  rw [registry, hused]
  rfl

/-- **A run** of commands whose identifiers are fresh gets responses that the registry explains,
does to the desk what it does to the registry, and keeps the desk orderly. -/
theorem Orderly.perform (h : desk.Orderly oracle seen) {commands : List Command}
    (hfresh : FreshRun seen commands) :
    let run := (desk.perform commands).evalBy oracle
    desk.registry.Explains commands run.1 ∧
      run.2.registry = desk.registry.after commands run.1 ∧
      ∃ seen', run.2.Orderly oracle seen' := by
  induction commands generalizing desk seen with
  | nil => exact ⟨trivial, rfl, seen, h⟩
  | cons command rest ih =>
    obtain ⟨hcommand, hrest⟩ := hfresh
    -- the command is one step of the registry, and the rest starts from an orderly desk
    have hallowed := h.allows_act hcommand
    have hstep := h.registry_act command
    obtain ⟨hexplained, hafter, hlast⟩ := ih (h.act hcommand) hrest
    rw [hstep] at hexplained hafter
    simp only [evalBy_perform_cons]
    exact ⟨⟨hallowed, hexplained⟩, hafter, hlast⟩

/-- **A desk is a registry.** After any run of commands whose drawn identifiers are fresh, each
command has got one response, and that was the right one for the registry that the commands and
responses before it lead to. The listings show the stubs of the registry, those used and those not,
by strictly ascending identifier, single stubs and their number are as in the registry, and each
stub is stored under its own identifier, which is not nil. -/
theorem refines_registry (oracle : Oracle) (settings : Settings) (commands : List Command)
    (hfresh : FreshRun ∅ commands) :
    let run := ((start settings).perform commands).runBy oracle settings.caches
    let engine := run.1.2.engine
    let registry := Registry.empty.after commands run.1.1
    Registry.empty.Explains commands run.1.1 ∧
    registry.Lists (fun _ => True) engine.all ∧
    registry.Lists (· ∈ registry.used) engine.used ∧
    registry.Lists (· ∉ registry.used) engine.unused ∧
    (∀ id, engine.get? id = registry.stubs id) ∧
    (engine.size : ℕ∞) = {id | (registry.stubs id).isSome}.encard ∧
    ∀ id stub, registry.stubs id = some stub → stub.id = id ∧ id ≠ .nil := by
  intro run engine registry
  have hrun : run.1 = ((start settings).perform commands).evalBy oracle :=
    (runBy_perform oracle settings (start settings) commands).1
  obtain ⟨hexplained, hafter, seen, horderly⟩ := (orderly_start settings).perform hfresh
  rw [← hrun, registry_start] at hafter
  rw [← hrun, registry_start] at hexplained
  rw [← hrun] at horderly
  have hregistry : registry = run.1.2.registry := hafter.symm
  rw [hregistry]
  refine ⟨hexplained, horderly.lists_all, horderly.lists_used, horderly.lists_unused, fun _ => rfl,
    Store.Sound.size_eq_encard horderly.sound, fun id stub hstub => ?_⟩
  exact ⟨horderly.sound.id_of_get? hstub, (horderly.stored id stub hstub).1⟩

end Desk

namespace Errand

/-- A stub without an identifier, for one session. -/
def resting : Stub := { drinking with id := .nil, session := "noon" }

/-- A stub gets an identifier and one brings its own; the first answers a query, and the other a
call after it has been deleted; it is stored again, and then the session of the first is deleted. -/
def day : List Command :=
  [.put (fun _ => ⟨7⟩) [resting, writing],
    .find { service := "Cart", method := "Add", session := "noon", messages := [carrying "cup"] },
    .openCall "a" { service := "Cart", method := "Add" }, .delete [⟨1⟩],
    .next "a" (carrying "pen"), .update [writing, resting], .used, .deleteSession "noon", .used]

theorem freshRun_day : FreshRun ∅ day := by
  refine ⟨fun position stub hstub hnil => ?_, trivial, trivial, trivial, trivial, trivial, trivial,
    trivial, trivial, trivial⟩
  have hids : (Engine.assignIds (fun _ => ⟨7⟩) [resting, writing]).map Stub.id = [⟨7⟩, ⟨1⟩] := rfl
  rw [hids]
  match position with
  | 0 =>
    refine ⟨by decide, nofun, fun other hother => ?_⟩
    match other with
    | 0 => rfl
    | 1 => simp at hother
    | other + 2 => simp at hother
  | 1 =>
    obtain rfl : writing = stub := by simpa using hstub
    exact absurd hnil (by decide)
  | position + 2 => simp at hstub

end Errand

namespace Desk

/-- The run in which a stub is deleted, answers a call and is stored again. -/
theorem refines_registry_day :
    FreshRun ∅ Errand.day ∧
    let run := ((start {}).perform Errand.day).runBy .standard ({} : Settings).caches
    let engine := run.1.2.engine
    let registry := Registry.empty.after Errand.day run.1.1
    Registry.empty.Explains Errand.day run.1.1 ∧
    registry.Lists (fun _ => True) engine.all ∧
    registry.Lists (· ∈ registry.used) engine.used ∧
    registry.Lists (· ∉ registry.used) engine.unused ∧
    (∀ id, engine.get? id = registry.stubs id) ∧
    (engine.size : ℕ∞) = {id | (registry.stubs id).isSome}.encard ∧
    ∀ id stub, registry.stubs id = some stub → stub.id = id ∧ id ≠ .nil :=
  ⟨Errand.freshRun_day, refines_registry .standard {} Errand.day Errand.freshRun_day⟩

end Desk

end Understudy
