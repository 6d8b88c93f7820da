import Understudy.Engine.Basic
import Understudy.Proofs.Store.Changes

/-!
# Runs of an engine

An engine is used through commands: stubs are stored and deleted, queries are answered, and calls
are opened by name and fed with messages. A run of commands is one computation, so it can be run
with caches or evaluated, and both yield the same responses. Every run keeps the tables of the
store sound, and a command changes no call but the one that it names.

## Main definitions

* `Desk`: an engine and its open calls
* `Command`, `Response`, `Command.act`: what is asked of a desk, and what it answers
* `Desk.perform`: a run of commands
* `Desk.start`, `Desk.run`: the desk that a run starts from, and a run from there
* `Engine.tuning`: the settings that an engine searches with

## Main results

* `Desk.sound_after`: every run keeps the tables sound
* `Desk.tuning_after`: no run changes the settings
* `Desk.calls_act`: a command leaves all calls as they are but the one it names
-/

namespace Understudy

/-- An engine and the calls that are open, by name. -/
structure Desk where
  engine : Engine
  calls : String → Option Conversation

/-- What is asked of a desk. -/
inductive Command where
  | put (fresh : Nat → Identifier) (stubs : List Stub)
  | update (stubs : List Stub)
  | delete (ids : List Identifier)
  | deleteSession (session : String)
  | clear
  | get (id : Identifier)
  | size
  | all
  | used
  | unused
  | find (query : Query)
  | route (service method : String)
  | openCall (name : String) (opening : Opening)
  | next (name : String) (message : Fields)

/-- What a desk answers. -/
inductive Response where
  | stored (ids : List Identifier)
  | deleted (count : Nat)
  | cleared
  | stub (stub : Option Stub)
  | size (count : Nat)
  | stubs (stubs : List Stub)
  | answer (answer : Except RouteError Answer)
  | route (stubs : Except RouteError (List Stub))
  /-- The stubs that an opened call begins with. -/
  | opened (seed : Except RouteError (List Stub))
  /-- The answer to a message, the stubs that are left after it, and the position of the next
  message. -/
  | turn (answer : Except RouteError Stub) (candidates : List Stub) (position : Option Nat)
  /-- There is no call of that name. -/
  | noCall

/-- The response of a desk to a command, and the desk after it. -/
def Command.act (desk : Desk) : Command → Consult (Response × Desk)
  | put fresh stubs => do
    let (ids, engine) ← desk.engine.put fresh stubs
    return (.stored ids, { desk with engine })
  | update stubs => do
    let (ids, engine) ← desk.engine.update stubs
    return (.stored ids, { desk with engine })
  | delete ids =>
    let (count, engine) := desk.engine.delete ids
    return (.deleted count, { desk with engine })
  | deleteSession session =>
    let (count, engine) := desk.engine.deleteSession session
    return (.deleted count, { desk with engine })
  | clear => return (.cleared, { desk with engine := desk.engine.clear })
  | get id => return (.stub (desk.engine.get? id), desk)
  | size => return (.size desk.engine.size, desk)
  | all => return (.stubs desk.engine.all, desk)
  | used => return (.stubs desk.engine.used, desk)
  | unused => return (.stubs desk.engine.unused, desk)
  | find query => do
    let (answer, engine) ← desk.engine.find query
    return (.answer answer, { desk with engine })
  | route service method => return (.route (← desk.engine.route service method), desk)
  | openCall name opening => do
    match ← desk.engine.converse opening with
    | .ok conversation =>
      return (.opened (.ok conversation.seed),
        { desk with calls := Function.update desk.calls name (some conversation) })
    | .error failure => return (.opened (.error failure), desk)
  | next name message =>
    match desk.calls name with
    | none => return (.noCall, desk)
    | some conversation => do
      let (answer, conversation, engine) ← desk.engine.next conversation message
      return (.turn answer conversation.candidates conversation.position?,
        { engine, calls := Function.update desk.calls name (some conversation) })

/-- The call that a command names. -/
def Command.call? : Command → Option String
  | openCall name _ => some name
  | next name _ => some name
  | _ => none

namespace Desk

/-- The responses of a desk to some commands, given one after the other, and the desk after
them. -/
def perform (desk : Desk) : List Command → Consult (List Response × Desk)
  | [] => return ([], desk)
  | command :: rest => do
    let (response, desk) ← command.act desk
    let (responses, desk) ← desk.perform rest
    return (response :: responses, desk)

/-- The desk with an empty engine and no calls. -/
def start (settings : Settings) : Desk where
  engine := .ofSettings settings
  calls _ := none

variable {oracle : Oracle} {desk : Desk}

/-! ## Runs -/

theorem evalBy_perform_cons (oracle : Oracle) (desk : Desk) (command : Command)
    (rest : List Command) :
    (desk.perform (command :: rest)).evalBy oracle =
      let first := (command.act desk).evalBy oracle
      let later := (first.2.perform rest).evalBy oracle
      (first.1 :: later.1, later.2) := by
  simp only [perform, Consult.evalBy_bind, Consult.evalBy_pure]

/-- The desk after some commands. -/
def after (oracle : Oracle) (desk : Desk) (commands : List Command) : Desk :=
  ((desk.perform commands).evalBy oracle).2

@[simp] theorem after_nil : desk.after oracle [] = desk := rfl

theorem after_cons (command : Command) (rest : List Command) :
    desk.after oracle (command :: rest) =
      ((command.act desk).evalBy oracle).2.after oracle rest := by
  rw [after, evalBy_perform_cons]
  rfl

theorem after_append (desk : Desk) (before later : List Command) :
    desk.after oracle (before ++ later) = (desk.after oracle before).after oracle later := by
  induction before generalizing desk with
  | nil => rfl
  | cons command rest ih => rw [List.cons_append, after_cons, after_cons, ih]

/-- A run with caches that start empty is an evaluation, and leaves sound caches. -/
theorem runBy_perform (oracle : Oracle) (settings : Settings) (desk : Desk)
    (commands : List Command) :
    ((desk.perform commands).runBy oracle settings.caches).1 =
        (desk.perform commands).evalBy oracle ∧
      ((desk.perform commands).runBy oracle settings.caches).2.Sound oracle :=
  Consult.runBy_simulates _ (Caches.Sound.ofCapacities _ _)

end Desk

/-! ## The store of an engine

Storing and deleting change the store as a store is changed. Marks are kept apart from it. -/

namespace Engine

variable {oracle : Oracle} {engine : Engine}

/-- The tables of an engine's store agree. -/
def Sound (oracle : Oracle) (engine : Engine) : Prop :=
  engine.store.Sound oracle.digest

theorem Sound.ofSettings (settings : Settings) : (Engine.ofSettings settings).Sound oracle :=
  Store.Sound.empty

/-- Storing stubs is a list of steps of the store. -/
theorem evalBy_register (engine : Engine) (stubs : List Stub) :
    (engine.register stubs).evalBy oracle = (stubs.map Stub.id,
      { engine with store := engine.store.afterSteps oracle.digest (stubs.map .file) }) := by
  simp only [register, Consult.evalBy_bind, Consult.evalBy_pure, Store.evalBy_upsert]
  rfl

theorem Sound.register (h : engine.Sound oracle) (stubs : List Stub) :
    ((engine.register stubs).evalBy oracle).2.Sound oracle := by
  rw [evalBy_register]
  exact Store.Sound.afterSteps h _

theorem Sound.delete (h : engine.Sound oracle) (ids : List Identifier) :
    (engine.delete ids).2.Sound oracle := by
  show Store.Sound oracle.digest (engine.store.delete ids).2
  rw [Store.delete_snd oracle.digest]
  exact Store.Sound.afterSteps h _

theorem Sound.deleteSession (h : engine.Sound oracle) (session : String) :
    (engine.deleteSession session).2.Sound oracle := by
  unfold Engine.deleteSession
  split
  · exact h
  · show Store.Sound oracle.digest (engine.store.deleteWhere _).2
    rw [Store.deleteWhere_snd oracle.digest]
    exact Store.Sound.afterSteps h _

/-- A mark changes nothing but the marks. -/
theorem exists_mark (engine : Engine) (quiet : Bool) (id : Identifier) :
    ∃ marks, engine.mark quiet id = { engine with marks } := by
  unfold mark
  split
  · exact ⟨engine.marks, rfl⟩
  · exact ⟨_, rfl⟩

theorem exists_markFound (engine : Engine) (quiet : Bool) (answer : Except RouteError Answer) :
    ∃ marks, engine.markFound quiet answer = { engine with marks } := by
  unfold markFound
  split
  · exact exists_mark engine quiet _
  · exact ⟨engine.marks, rfl⟩

theorem exists_markTurn (engine : Engine) (quiet : Bool) (turn : Option Turn) :
    ∃ marks, engine.markTurn quiet turn = { engine with marks } := by
  unfold markTurn
  split
  · split
    · exact exists_mark engine quiet _
    · exact ⟨engine.marks, rfl⟩
  · exact ⟨engine.marks, rfl⟩

@[simp] theorem store_mark (engine : Engine) (quiet : Bool) (id : Identifier) :
    (engine.mark quiet id).store = engine.store := by
  obtain ⟨marks, hmark⟩ := exists_mark engine quiet id
  rw [hmark]

@[simp] theorem store_markFound (engine : Engine) (quiet : Bool)
    (answer : Except RouteError Answer) : (engine.markFound quiet answer).store = engine.store := by
  obtain ⟨marks, hmark⟩ := exists_markFound engine quiet answer
  rw [hmark]

@[simp] theorem store_markTurn (engine : Engine) (quiet : Bool) (turn : Option Turn) :
    (engine.markTurn quiet turn).store = engine.store := by
  obtain ⟨marks, hmark⟩ := exists_markTurn engine quiet turn
  rw [hmark]

/-- A query leaves the store as it is. -/
theorem store_find (engine : Engine) (query : Query) :
    ((engine.find query).evalBy oracle).2.store = engine.store := by
  simp only [find, Consult.evalBy_bind, Consult.evalBy_pure, store_markFound]

/-- A message leaves the store as it is. -/
theorem store_next (engine : Engine) (conversation : Conversation) (message : Fields) :
    ((engine.next conversation message).evalBy oracle).2.2.store = engine.store := by
  simp only [next, Consult.evalBy_bind, Consult.evalBy_pure, store_markTurn]

end Engine

namespace Desk

variable {oracle : Oracle} {desk : Desk}

theorem store_act_find (desk : Desk) (query : Query) :
    (((Command.find query).act desk).evalBy oracle).2.engine.store = desk.engine.store := by
  simp only [Command.act, Consult.evalBy_bind, Consult.evalBy_pure]
  exact Engine.store_find desk.engine query

theorem store_act_openCall (desk : Desk) (name : String) (opening : Opening) :
    (((Command.openCall name opening).act desk).evalBy oracle).2.engine.store =
      desk.engine.store := by
  simp only [Command.act, Consult.evalBy_bind]
  split <;> rfl

/-- A command keeps the tables sound. -/
theorem sound_act (h : desk.engine.Sound oracle) (command : Command) :
    ((command.act desk).evalBy oracle).2.engine.Sound oracle := by
  cases command with
  | put | update =>
    simp only [Command.act, Consult.evalBy_bind, Consult.evalBy_pure]
    exact Engine.Sound.register h _
  | delete ids => exact Engine.Sound.delete h ids
  | deleteSession session => exact Engine.Sound.deleteSession h session
  | clear => exact Store.Sound.empty
  | find query =>
    rw [Engine.Sound, store_act_find]
    exact h
  | openCall name opening =>
    rw [Engine.Sound, store_act_openCall]
    exact h
  | next name message =>
    rw [Command.act]
    split
    · exact h
    · next conversation =>
      simp only [Consult.evalBy_bind, Consult.evalBy_pure]
      rw [Engine.Sound, Engine.store_next]
      exact h
  | get | size | all | used | unused => exact h
  | route service method =>
    simp only [Command.act, Consult.evalBy_bind, Consult.evalBy_pure]
    exact h

/-- **Every run** keeps the tables sound. -/
theorem sound_after (h : desk.engine.Sound oracle) (commands : List Command) :
    (desk.after oracle commands).engine.Sound oracle := by
  induction commands generalizing desk with
  | nil => exact h
  | cons command rest ih =>
    rw [after_cons]
    exact ih (sound_act h command)

/-- The tables are sound after any run from the start. -/
theorem sound_start (settings : Settings) (commands : List Command) :
    ((start settings).after oracle commands).engine.Sound oracle :=
  sound_after (Engine.Sound.ofSettings settings) commands

/-- A run from the start with caches that start empty: the responses, the desk after it, and the
caches. -/
def run (oracle : Oracle) (settings : Settings) (commands : List Command) :
    (List Response × Desk) × Caches :=
  ((start settings).perform commands).runBy oracle settings.caches

/-- A run from the start leads to the desk that it is evaluated to. -/
theorem run_fst_snd (oracle : Oracle) (settings : Settings) (commands : List Command) :
    (run oracle settings commands).1.2 = (start settings).after oracle commands :=
  congrArg Prod.snd (runBy_perform oracle settings (start settings) commands).1

/-- The desk after one more command. -/
theorem run_concat (oracle : Oracle) (settings : Settings) (history : List Command)
    (command : Command) :
    (run oracle settings (history ++ [command])).1.2 =
      ((command.act (run oracle settings history).1.2).evalBy oracle).2 := by
  rw [run_fst_snd, run_fst_snd, after_append, after_cons, after_nil]

/-- Any run from the start leads to sound tables and sound caches. -/
theorem sound_run (oracle : Oracle) (settings : Settings) (commands : List Command) :
    (run oracle settings commands).1.2.engine.Sound oracle ∧
      (run oracle settings commands).2.Sound oracle := by
  rw [run_fst_snd]
  exact ⟨sound_start settings commands,
    (runBy_perform oracle settings (start settings) commands).2⟩

end Desk

/-! ## Settings -/

namespace Engine

variable {oracle : Oracle} {engine : Engine}

/-- The settings that an engine searches with: when and how a route is cut into chunks, and how the
names of methods are spelled. -/
def tuning (engine : Engine) : ℕ × ℕ × Bool :=
  (engine.chunkThreshold, engine.chunkSize, engine.titleMethods)

/-- Without titles, methods are looked up as they are named. -/
theorem methodName_eq_self (htitle : engine.titleMethods = false) (method : String) :
    engine.methodName method = method := by
  rw [methodName, htitle]
  rfl

@[simp] theorem tuning_markFound (engine : Engine) (quiet : Bool)
    (answer : Except RouteError Answer) :
    (engine.markFound quiet answer).tuning = engine.tuning := by
  obtain ⟨marks, hmark⟩ := exists_markFound engine quiet answer
  rw [hmark]
  rfl

@[simp] theorem tuning_markTurn (engine : Engine) (quiet : Bool) (turn : Option Turn) :
    (engine.markTurn quiet turn).tuning = engine.tuning := by
  obtain ⟨marks, hmark⟩ := exists_markTurn engine quiet turn
  rw [hmark]
  rfl

@[simp] theorem tuning_deleteSession (engine : Engine) (session : String) :
    (engine.deleteSession session).2.tuning = engine.tuning := by
  unfold deleteSession
  split <;> rfl

end Engine

namespace Desk

variable {oracle : Oracle} {desk : Desk}

/-- A command changes no settings. -/
theorem tuning_act (desk : Desk) (command : Command) :
    ((command.act desk).evalBy oracle).2.engine.tuning = desk.engine.tuning := by
  cases command with
  | put | update =>
    simp only [Command.act, Engine.put, Engine.update, Engine.register, Consult.evalBy_bind,
      Consult.evalBy_pure]
    rfl
  | find query =>
    simp only [Command.act, Engine.find, Consult.evalBy_bind, Consult.evalBy_pure,
      Engine.tuning_markFound]
  | openCall name opening =>
    simp only [Command.act, Consult.evalBy_bind]
    split <;> rfl
  | next name message =>
    rw [Command.act]
    split
    · rfl
    · simp only [Engine.next, Consult.evalBy_bind, Consult.evalBy_pure, Engine.tuning_markTurn]
  | deleteSession session => exact Engine.tuning_deleteSession desk.engine session
  | route service method =>
    simp only [Command.act, Consult.evalBy_bind, Consult.evalBy_pure]
  | delete | clear | get | size | all | used | unused => rfl

/-- No run changes the settings. -/
theorem tuning_after (desk : Desk) (commands : List Command) :
    (desk.after oracle commands).engine.tuning = desk.engine.tuning := by
  induction commands generalizing desk with
  | nil => rfl
  | cons command rest ih => rw [after_cons, ih, tuning_act]

/-- Runs from the same start lead to engines with the same settings. -/
theorem tuning_run (oracle : Oracle) (settings : Settings) (commands : List Command) :
    (run oracle settings commands).1.2.engine.tuning = (start settings).engine.tuning := by
  rw [run_fst_snd, tuning_after]

theorem titleMethods_run (oracle : Oracle) (settings : Settings) (commands : List Command) :
    (run oracle settings commands).1.2.engine.titleMethods = settings.titleMethods :=
  congrArg (fun tuning => tuning.2.2) (tuning_run oracle settings commands)

/-- The number of stubs from which a route is scanned in chunks is that of the settings. -/
theorem chunkThreshold_run (oracle : Oracle) (settings : Settings) (commands : List Command) :
    (run oracle settings commands).1.2.engine.chunkThreshold = max settings.chunkThreshold 1 :=
  congrArg Prod.fst (tuning_run oracle settings commands)

end Desk

namespace Desk

variable {oracle : Oracle} {desk : Desk}

/-! ## Calls -/

/-- A command leaves all calls as they are but the one it names. -/
theorem calls_act (desk : Desk) (command : Command) {name : String}
    (h : command.call? ≠ some name) :
    ((command.act desk).evalBy oracle).2.calls name = desk.calls name := by
  cases command with
  | openCall other opening =>
    have hne : name ≠ other := fun he => h (congrArg some he.symm)
    simp only [Command.act, Consult.evalBy_bind]
    split
    · exact Function.update_of_ne hne _ _
    · rfl
  | next other message =>
    have hne : name ≠ other := fun he => h (congrArg some he.symm)
    rw [Command.act]
    split
    · rfl
    · simp only [Consult.evalBy_bind, Consult.evalBy_pure]
      exact Function.update_of_ne hne _ _
  | put | update | find | route =>
    simp only [Command.act, Consult.evalBy_bind, Consult.evalBy_pure]
  | delete | deleteSession | clear | get | size | all | used | unused => rfl

end Desk

end Understudy
