import Understudy.Proofs.Engine.Effects
import Understudy.Proofs.Engine.Registry
import Understudy.Proofs.Engine.Stock

/-!
# When a stub counts as used

Marks name identifiers, not stubs: a call that goes on after its stubs have been taken out of the
engine still marks what answers it. So a stub that is stored again may be marked from the start. It
is not if nothing has used its identifier since the mark was taken away, by clearing the engine or by
deleting the session of the stub before it; and then it is listed as unused until something uses it.

## Main definitions

* `Response.answerer?`: the stub that answers
* `Command.Removes`: a command takes the mark of an identifier away
* `Desk.Uses`: a command after a run uses an identifier

## Main results

* `Desk.mem_marks_act`: a mark is old, or it is of the stub that answers
* `Desk.notMem_marks_run`: no mark comes back that nothing sets
* `Desk.unused_until_used`: what is stored after a removal is unused until it is used
-/

namespace Understudy

/-- The stub that answers in a response. -/
def Response.answerer? : Response → Option Stub
  | .answer (.ok (.found best)) => some best
  | .turn (.ok leader) _ _ => some leader
  | _ => none

/-- A command takes an identifier away with its mark: it clears the engine, or it deletes the session
of the stub that is stored under the identifier. -/
def Command.Removes (engine : Engine) (id : Identifier) : Command → Prop
  | .clear => True
  | .deleteSession session =>
    session ≠ "" ∧ ∃ stub, engine.get? id = some stub ∧ stub.session = session
  | _ => False

/-! ## Removals -/

/-- A removal leaves no mark of the identifier. -/
theorem Desk.notMem_marks_of_removes {oracle : Oracle} {desk : Desk}
    (h : desk.engine.Sound oracle) {command : Command} {id : Identifier}
    (hremoves : command.Removes desk.engine id) :
    id ∉ ((command.act desk).evalBy oracle).2.engine.marks := by
  cases command with
  | clear => exact List.not_mem_nil
  | deleteSession session =>
    obtain ⟨hname, stub, hstub, hsession⟩ := hremoves
    obtain ⟨-, hmarks, -⟩ := h.deleteSession_spec hname
    intro hmem
    exact ((hmarks id).mp hmem).2 stub hstub hsession
  | _ => cases hremoves

/-! ## Stored stubs -/

/-- A batch stores a value under each of its identifiers. -/
theorem Contents.isSome_upsert {α : Type} [Filed α] {values : List α} {id : Identifier}
    (h : id ∈ values.map Filed.id) (contents : Contents α) :
    (Contents.apply contents (.upsert values) id).isSome = true := by
  induction values using List.reverseRecOn with
  | nil => cases h
  | append_singleton values last ih =>
    rw [Contents.apply, List.foldl_append, List.foldl_cons, List.foldl_nil,
      Function.update_apply]
    split
    · rfl
    · next hlast =>
      -- the identifier is not that of the last value
      rw [List.map_append, List.mem_append] at h
      exact ih (h.resolve_right fun hid => hlast (List.mem_singleton.mp hid))

/-- A command stores a stub under each of the identifiers under which it stores stubs. -/
theorem Engine.Sound.isSome_get?_of_stored {oracle : Oracle} {desk : Desk}
    (h : desk.engine.Sound oracle) {command : Command} {id : Identifier}
    (hstores : id ∈ command.storedIds) :
    (((command.act desk).evalBy oracle).2.engine.get? id).isSome = true := by
  have hfile : ∀ stubs : List Stub, id ∈ stubs.map Stub.id →
      (((desk.engine.register stubs).evalBy oracle).2.get? id).isSome = true := by
    intro stubs hmem
    rw [Engine.evalBy_register]
    show ((desk.engine.store.afterSteps oracle.digest (stubs.map .file)).get? id).isSome = true
    rw [Store.Sound.get?_file h]
    exact Contents.isSome_upsert hmem desk.engine.store.get?
  cases command with
  | put fresh stubs =>
    simp only [Command.act, Engine.put, Consult.evalBy_bind, Consult.evalBy_pure]
    exact hfile _ hstores
  | update stubs =>
    simp only [Command.act, Engine.update, Consult.evalBy_bind, Consult.evalBy_pure]
    exact hfile _ hstores
  | _ => cases hstores

/-! ## Marks -/

namespace Desk

variable {oracle : Oracle} {desk : Desk} {id : Identifier}

/-- Whether what a command asks for only looks. -/
def looks (desk : Desk) : Command → Bool
  | .find query => query.quiet
  | .next name _ => (desk.calls name).any fun conversation => conversation.opening.quiet
  | _ => true

/-- **A mark** is an old one, or that of the stub that answers what does not only look. -/
theorem mem_marks_act {command : Command}
    (h : id ∈ ((command.act desk).evalBy oracle).2.engine.marks) :
    id ∈ desk.engine.marks ∨ desk.looks command = false ∧
      ∃ stub, ((command.act desk).evalBy oracle).1.answerer? = some stub ∧ stub.id = id := by
  cases command with
  | put | update =>
    simp only [Command.act, Engine.put, Engine.update, Consult.evalBy_bind, Consult.evalBy_pure,
      Engine.evalBy_register] at h
    exact .inl h
  | delete ids => exact .inl h
  | deleteSession session => exact .inl ((Engine.marks_deleteSession_sublist _ _).subset h)
  | clear => exact (List.not_mem_nil h).elim
  | find query =>
    simp only [Command.act, Engine.find, Consult.evalBy_bind, Consult.evalBy_pure] at h ⊢
    -- only a stub that is found is marked
    cases hanswer : (desk.engine.answer query).evalBy oracle with
    | error failure =>
      rw [hanswer] at h
      exact .inl h
    | ok answer =>
      rw [hanswer] at h
      cases answer with
      | similar stub => exact .inl h
      | found stub =>
        rcases Engine.mem_marks_mark.mp h with hold | ⟨hquiet, rfl⟩
        · exact .inl hold
        · exact .inr ⟨hquiet, stub, rfl, rfl⟩
  | next name message =>
    cases hcall : desk.calls name with
    | none =>
      simp only [Command.act, hcall, Consult.evalBy_pure] at h
      exact .inl h
    | some conversation =>
      simp only [Command.act, hcall, Engine.next, Consult.evalBy_bind, Consult.evalBy_pure] at h ⊢
      cases hturn : ((conversation.next message).evalBy oracle).1 with
      | none =>
        rw [hturn] at h
        exact .inl h
      | some turn =>
        obtain ⟨hopening, -, -⟩ := Conversation.next_spec oracle conversation message
        rw [hturn, hopening] at h
        unfold Engine.markTurn at h
        dsimp only at h
        split at h
        · rcases Engine.mem_marks_mark.mp h with hold | ⟨hquiet, rfl⟩
          · exact .inl hold
          · refine .inr ⟨?_, turn.stub, rfl, rfl⟩
            rwa [looks, hcall]
        · exact .inl h
  | openCall name opening =>
    simp only [Command.act, Consult.evalBy_bind] at h
    left
    split at h
    · exact h
    · exact h
  | route service method =>
    simp only [Command.act, Consult.evalBy_bind, Consult.evalBy_pure] at h
    exact .inl h
  | get | size | all | used | unused => exact .inl h

/-! ## Runs -/

/-- A command after a run uses an identifier: it does not only look, and the stub of that identifier
answers. -/
def Uses (oracle : Oracle) (settings : Settings) (history : List Command) (command : Command)
    (id : Identifier) : Prop :=
  let reached := run oracle settings history
  reached.1.2.looks command = false ∧ ∃ stub,
    ((command.act reached.1.2).runBy oracle reached.2).1.1.answerer? = some stub ∧ stub.id = id

/-- None of some commands after a run uses an identifier. -/
def NoneUses (oracle : Oracle) (settings : Settings) (history commands : List Command)
    (id : Identifier) : Prop :=
  ∀ earlier command, earlier ++ [command] <+: commands →
    ¬ Uses oracle settings (history ++ earlier) command id

variable {settings : Settings} {history since : List Command}

/-- Commands that only look use nothing. -/
theorem noneUses_of_looks {commands : List Command}
    (h : ∀ command ∈ commands, ∀ desk : Desk, desk.looks command = true) :
    NoneUses oracle settings history commands id := by
  rintro earlier command ⟨rest, rfl⟩ ⟨hlooks, -⟩
  rw [h command (by simp)] at hlooks
  cases hlooks

/-- **No mark comes back** as long as nothing uses its identifier. -/
theorem notMem_marks_run (h : id ∉ (run oracle settings history).1.2.engine.marks)
    (hunused : NoneUses oracle settings history since id) :
    id ∉ (run oracle settings (history ++ since)).1.2.engine.marks := by
  induction since using List.reverseRecOn with
  | nil => rwa [List.append_nil]
  | append_singleton since command ih =>
    have hsince := ih fun earlier other hinit =>
      hunused earlier other (hinit.trans (List.prefix_append _ _))
    rw [← List.append_assoc, run_concat]
    intro hmem
    rcases mem_marks_act hmem with hold | ⟨hlooks, stub, hanswers, hid⟩
    · exact hsince hold
    · -- the last command would use the identifier
      refine hunused since command List.prefix_rfl ⟨hlooks, stub, ?_, hid⟩
      rwa [Consult.runBy_fst _ (sound_run oracle settings (history ++ since)).2]

/-- **What is stored after a removal is unused until it is used**, in every run from the start. Let a
command take an identifier away with its mark, and let a later command store a stub under it, with
nothing between the two that uses the identifier. Then the stub is listed as unused; and as long as
nothing uses the identifier after that either, no stub of it is listed as used, and the stub that is
stored under it, if there still is one, is listed as unused. -/
theorem unused_until_used (oracle : Oracle) (settings : Settings) (before : List Command)
    (removal : Command) (id : Identifier)
    (hremoves : removal.Removes (run oracle settings before).1.2.engine id)
    (between : List Command) (storing : Command) (hstores : id ∈ storing.storedIds)
    (hbetween : NoneUses oracle settings (before ++ [removal]) between id) :
    let history := before ++ [removal] ++ between ++ [storing]
    (∃ stub ∈ (run oracle settings history).1.2.engine.unused, stub.id = id) ∧
    ∀ later, NoneUses oracle settings history later id →
      let engine := (run oracle settings (history ++ later)).1.2.engine
      (∀ stub ∈ engine.used, stub.id ≠ id) ∧
        ∀ stub, engine.get? id = some stub → stub ∈ engine.unused := by
  intro history
  have hremoved : id ∉ (run oracle settings (before ++ [removal])).1.2.engine.marks := by
    rw [run_concat]
    exact notMem_marks_of_removes (sound_run oracle settings before).1 hremoves
  have hmissing : id ∉ (run oracle settings (before ++ [removal] ++ between)).1.2.engine.marks :=
    notMem_marks_run hremoved hbetween
  have hstored : id ∉ (run oracle settings history).1.2.engine.marks := by
    rw [run_concat]
    intro hmem
    -- what stores stubs does not use any
    rcases mem_marks_act hmem with hold | ⟨hlooks, -⟩
    · exact hmissing hold
    · cases storing with
      | put | update => cases hlooks
      | _ => cases hstores
  constructor
  · have hsome : ((run oracle settings history).1.2.engine.get? id).isSome = true := by
      rw [run_concat]
      exact (sound_run oracle settings _).1.isSome_get?_of_stored hstores
    obtain ⟨stub, hstub⟩ := Option.isSome_iff_exists.mp hsome
    have hsound := (sound_run oracle settings history).1
    obtain rfl := hsound.id_of_get? hstub
    exact ⟨stub, hsound.mem_unused.mpr ⟨hstub, hstored⟩, rfl⟩
  · intro later hlater engine
    have hunmarked : id ∉ engine.marks := notMem_marks_run hstored hlater
    have hsound := (sound_run oracle settings (history ++ later)).1
    constructor
    · rintro stub hmem rfl
      exact hunmarked (hsound.mem_used.mp hmem).2
    · intro stub hstub
      have hid := hsound.id_of_get? hstub
      subst hid
      exact hsound.mem_unused.mpr ⟨hstub, hunmarked⟩

end Desk

/-! ## A stub that comes back

A stub of a session is stored again when its session has been deleted, and when the engine has been
cleared while a call that begins with the stub goes on. -/

namespace Homecoming

/-- A stub of a session. -/
def guest : Stub := { Errand.writing with session := "noon" }

def storing : Command := .put (fun _ => .nil) [guest]

/-- A query that only looks. -/
def looking : Query where
  service := "Cart"
  method := "Add"
  session := "noon"
  messages := [Errand.carrying "pen", Errand.carrying "ink"]
  quiet := true

def opening : Opening where
  service := "Cart"
  method := "Add"
  session := "noon"

/-- The call opens, and then the engine is cleared. -/
def clearing : List Command := [storing, .openCall "a" opening, .clear]

def pen : Command := .next "a" (Errand.carrying "pen")

theorem get?_storing :
    (Desk.run .standard {} [storing]).1.2.engine.get? ⟨1⟩ = some guest := by
  rw [storing, Desk.get?_put (by decide)]
  rfl

/-- The call outlives its stub. -/
theorem run_clearing :
    (Desk.run .standard {} clearing).1.2 =
      { engine := (Desk.run .standard {} [storing]).1.2.engine.clear
        calls := Function.update (Desk.run .standard {} [storing]).1.2.calls "a"
          (some { opening, seed := [guest] }) } := by
  have hopened : ((Desk.run .standard {} [storing]).1.2.engine.converse opening).evalBy .standard =
      .ok { opening, seed := [guest] } :=
    Desk.converse_put rfl rfl (by decide) (by decide) (by simp) (by decide) (by decide)
  show (Desk.run .standard {} ([storing] ++ [.openCall "a" opening] ++ [.clear])).1.2 = _
  rw [Desk.run_concat, Desk.run_concat]
  simp only [Command.act, Consult.evalBy_bind, hopened, Consult.evalBy_pure]

theorem calls_clearing :
    (Desk.run .standard {} clearing).1.2.calls "a" = some { opening, seed := [guest] } := by
  rw [run_clearing]
  simp

/-- The call goes on, and marks the stub that answers. -/
theorem turn_pen :
    ((({ opening, seed := [guest] } : Conversation).next (Errand.carrying "pen")).evalBy
      .standard).1 = some ⟨guest, true⟩ := rfl

theorem marks_pen : (Desk.run .standard {} (clearing ++ [pen])).1.2.engine.marks = [⟨1⟩] := by
  have hmarks : (Desk.run .standard {} clearing).1.2.engine.marks = [] := by
    rw [run_clearing]
    rfl
  obtain ⟨hopening, -, -⟩ := Conversation.next_spec .standard
    { opening, seed := [guest] } (Errand.carrying "pen")
  rw [Desk.run_concat]
  simp only [pen, Command.act, calls_clearing, Engine.next, Consult.evalBy_bind,
    Consult.evalBy_pure, turn_pen, hopening]
  simp [Engine.markTurn, Engine.mark, hmarks, opening, guest, Errand.writing]

theorem get?_pen : (Desk.run .standard {} (clearing ++ [pen])).1.2.engine.get? ⟨1⟩ = none := by
  have hclear : (Desk.run .standard {} clearing).1.2.engine.get? ⟨1⟩ = none := by
    rw [run_clearing]
    rfl
  rw [Desk.run_concat]
  simp only [pen, Command.act, calls_clearing, Consult.evalBy_bind, Consult.evalBy_pure]
  rw [Engine.get?, Engine.store_next]
  exact hclear

/-- Storing the stub again leaves the mark. -/
theorem marks_storing :
    (Desk.run .standard {} (clearing ++ [pen] ++ [storing])).1.2.engine.marks = [⟨1⟩] := by
  rw [Desk.run_concat]
  simp only [storing, Command.act, Engine.put, Consult.evalBy_bind, Consult.evalBy_pure,
    Engine.evalBy_register]
  exact marks_pen

end Homecoming

namespace Desk

/-- The session is deleted and the stub stored again; a query that only looks does not use it. -/
theorem unused_until_used_homecoming :
    (Command.deleteSession "noon").Removes
      (run .standard {} [Homecoming.storing]).1.2.engine ⟨1⟩ ∧
    (⟨1⟩ : Identifier) ∈ Homecoming.storing.storedIds ∧
    let history := [Homecoming.storing, .deleteSession "noon", .size, Homecoming.storing]
    NoneUses .standard {} [Homecoming.storing, .deleteSession "noon"] [.size] ⟨1⟩ ∧
    NoneUses .standard {} history [.find Homecoming.looking] ⟨1⟩ ∧
    (∃ stub ∈ (run .standard {} history).1.2.engine.unused, stub.id = ⟨1⟩) ∧
    ∀ stub ∈ (run .standard {} (history ++ [.find Homecoming.looking])).1.2.engine.used,
      stub.id ≠ ⟨1⟩ := by
  have hremoves : (Command.deleteSession "noon").Removes
      (run .standard {} [Homecoming.storing]).1.2.engine ⟨1⟩ :=
    ⟨by decide, Homecoming.guest, Homecoming.get?_storing, rfl⟩
  have hstores : (⟨1⟩ : Identifier) ∈ Homecoming.storing.storedIds := by
    decide
  have hbetween : NoneUses .standard {} ([Homecoming.storing] ++ [.deleteSession "noon"]) [.size]
      ⟨1⟩ := noneUses_of_looks (by simp [looks])
  obtain ⟨hstored, hlater⟩ := unused_until_used .standard {} [Homecoming.storing] _ ⟨1⟩ hremoves
    [.size] Homecoming.storing hstores hbetween
  have hlooking : NoneUses .standard {}
      [Homecoming.storing, .deleteSession "noon", .size, Homecoming.storing]
      [.find Homecoming.looking] ⟨1⟩ := noneUses_of_looks (by simp [looks, Homecoming.looking])
  exact ⟨hremoves, hstores, hbetween, hlooking, hstored, (hlater _ hlooking).1⟩

/-- **A stub is stored as used**: a call that goes on has marked its identifier, when the engine had
been cleared. -/
theorem used_when_stored :
    let history := Homecoming.clearing ++ [Homecoming.pen]
    (⟨1⟩ : Identifier) ∈ Homecoming.storing.storedIds ∧
    (run .standard {} history).1.2.engine.get? ⟨1⟩ = none ∧
    (∃ stub ∈ (run .standard {} (history ++ [Homecoming.storing])).1.2.engine.used,
      stub.id = ⟨1⟩) ∧
    ∀ stub ∈ (run .standard {} (history ++ [Homecoming.storing])).1.2.engine.unused,
      stub.id ≠ ⟨1⟩ := by
  intro history
  have hstores : (⟨1⟩ : Identifier) ∈ Homecoming.storing.storedIds := by
    decide
  have hsound := (sound_run .standard {} (history ++ [Homecoming.storing])).1
  have hsome : ((run .standard {} (history ++ [Homecoming.storing])).1.2.engine.get? ⟨1⟩).isSome =
      true := by
    rw [run_concat]
    exact (sound_run .standard {} history).1.isSome_get?_of_stored hstores
  refine ⟨hstores, Homecoming.get?_pen, ?_, ?_⟩
  · obtain ⟨stub, hstub⟩ := Option.isSome_iff_exists.mp hsome
    have hid := hsound.id_of_get? hstub
    refine ⟨stub, hsound.mem_used.mpr ⟨by rwa [hid], ?_⟩, hid⟩
    rw [Homecoming.marks_storing, hid]
    exact List.mem_cons_self
  · intro stub hmem hid
    have hunmarked := (hsound.mem_unused.mp hmem).2
    rw [Homecoming.marks_storing, hid] at hunmarked
    exact hunmarked List.mem_cons_self

end Desk

end Understudy
