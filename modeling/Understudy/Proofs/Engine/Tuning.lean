import Understudy.Proofs.Engine.Search
import Understudy.Proofs.Search.Grouping

/-!
# Settings that no response shows

Two kinds of settings are about speed alone. A long route is scanned in chunks, whose scans are
merged in whatever grouping they come in; from which length on a route is long, and how large a
chunk is, are settings. So are the numbers of patterns and digests that are remembered. An engine
with other such settings holds the same stubs and marks, and gives the same response to every
command. For chunks, that is as long as the scores that searches compare are numbers.

## Main definitions

* `Engine.rechunk`, `Desk.rechunk`: the same engine, with routes cut in another way
* `Command.NumericAt`, `Desk.NumericRun`: the scores that commands compare are numbers
* `Settings.remembering`: the same settings, with other numbers of patterns and digests

## Main results

* `Engine.Sound.evalBy_find_rechunk`: a query is answered alike however routes are cut
* `Desk.evalBy_act_rechunk`, `Desk.evalBy_perform_rechunk`: so is every command, and every run
* `Desk.chunking_transparent`: every grouping of chunks is the scan of the route, and settings of
  chunks change no response
* `Desk.runBy_perform_agrees`: caches that remember nothing wrong give the same run
* `Desk.caching_transparent`: the numbers of patterns and digests change no response
-/
namespace Understudy

namespace Engine

/-- The engine with routes cut into chunks in another way. -/
def rechunk (threshold size : Nat) (engine : Engine) : Engine :=
  { engine with chunkThreshold := threshold, chunkSize := size }

variable {oracle : Oracle} {engine : Engine}

theorem mark_rechunk (threshold size : Nat) (quiet : Bool) (id : Identifier) :
    (engine.rechunk threshold size).mark quiet id =
      (engine.mark quiet id).rechunk threshold size := by
  unfold mark
  by_cases h : (quiet || engine.marks.contains id) = true
  · rw [if_pos h]
    exact if_pos h
  · rw [if_neg h]
    exact if_neg h

theorem markFound_rechunk (threshold size : Nat) (quiet : Bool)
    (answer : Except RouteError Answer) :
    (engine.rechunk threshold size).markFound quiet answer =
      (engine.markFound quiet answer).rechunk threshold size := by
  unfold markFound
  split
  · exact mark_rechunk threshold size quiet _
  · rfl

theorem markTurn_rechunk (threshold size : Nat) (quiet : Bool) (turn : Option Turn) :
    (engine.rechunk threshold size).markTurn quiet turn =
      (engine.markTurn quiet turn).rechunk threshold size := by
  unfold markTurn
  split
  · split
    · exact mark_rechunk threshold size quiet _
    · rfl
  · rfl

theorem deleteSession_rechunk (threshold size : Nat) (session : String) :
    (engine.rechunk threshold size).deleteSession session =
      ((engine.deleteSession session).1,
        (engine.deleteSession session).2.rechunk threshold size) := by
  unfold deleteSession
  split <;> rfl

/-! ## Queries -/

/-- A route is scanned alike however it is cut. -/
theorem evalBy_scanRoute {query : Query} {stubs : List Stub} (h : Numeric oracle query stubs)
    (engine : Engine) :
    (engine.scanRoute query stubs).evalBy oracle = (scan query stubs 0).evalBy oracle := by
  unfold scanRoute
  split
  · exact evalBy_scanChunks h engine.chunkSize
  · rfl

/-- A search of a route is answered alike however the route is cut. -/
theorem Sound.evalBy_search_rechunk (h : engine.Sound oracle) {query : Query}
    (hnumeric : Numeric oracle query
      (engine.routed oracle query.service query.method query.session)) (threshold size : Nat) :
    ((engine.rechunk threshold size).search query).evalBy oracle =
      (engine.search query).evalBy oracle := by
  have hsame : (engine.rechunk threshold size).visible query.service query.method query.session =
    engine.visible query.service query.method query.session := rfl
  simp only [search, Consult.evalBy_bind, hsame]
  cases hvisible : (engine.visible query.service query.method query.session).evalBy oracle with
  | error failure => rfl
  | ok stubs =>
    -- what the two scans compare are numbers, so both are the scan of the whole route
    obtain rfl := h.eq_routed_of_visible hvisible
    simp only [Consult.evalBy_bind, Consult.evalBy_pure, evalBy_scanRoute hnumeric]

/-- The stubs that a query can meet, its method spelled as the engine spells it. -/
def metBy (oracle : Oracle) (engine : Engine) (query : Query) : List Stub :=
  engine.routed oracle query.service (engine.methodName query.method) query.session

theorem Sound.evalBy_answer_rechunk (h : engine.Sound oracle) {query : Query}
    (hnumeric : Numeric oracle query (engine.metBy oracle query)) (threshold size : Nat) :
    ((engine.rechunk threshold size).answer query).evalBy oracle =
      (engine.answer query).evalBy oracle := by
  unfold answer
  cases query.id with
  | some id => rfl
  | none =>
    let spelled : Query := { query with id := none, method := engine.methodName query.method }
    have hspelled : Numeric oracle spelled
        (engine.routed oracle spelled.service spelled.method spelled.session) := hnumeric
    exact h.evalBy_search_rechunk hspelled threshold size

/-- **A query** is answered alike however routes are cut, and marks the same stub. -/
theorem Sound.evalBy_find_rechunk (h : engine.Sound oracle) {query : Query}
    (hnumeric : Numeric oracle query (engine.metBy oracle query)) (threshold size : Nat) :
    ((engine.rechunk threshold size).find query).evalBy oracle =
      (((engine.find query).evalBy oracle).1,
        ((engine.find query).evalBy oracle).2.rechunk threshold size) := by
  simp only [find, Consult.evalBy_bind, Consult.evalBy_pure,
    h.evalBy_answer_rechunk hnumeric threshold size, markFound_rechunk]

end Engine

/-! ## Runs -/

/-- The scores that a command compares are numbers. -/
def Command.NumericAt (oracle : Oracle) (engine : Engine) : Command → Prop
  | .find query => Numeric oracle query (engine.metBy oracle query)
  | _ => True

namespace Desk

/-- The desk whose engine has routes cut in another way. -/
def rechunk (threshold size : Nat) (desk : Desk) : Desk :=
  { desk with engine := desk.engine.rechunk threshold size }

/-- The scores that some commands compare, given one after the other, are numbers. -/
def NumericRun (oracle : Oracle) : Desk → List Command → Prop
  | _, [] => True
  | desk, command :: rest =>
    command.NumericAt oracle desk.engine ∧
      ((command.act desk).evalBy oracle).2.NumericRun oracle rest

variable {oracle : Oracle} {desk : Desk}

/-- **A command** gets the same response however routes are cut. -/
theorem evalBy_act_rechunk (h : desk.engine.Sound oracle) {command : Command}
    (hnumeric : command.NumericAt oracle desk.engine) (threshold size : Nat) :
    (command.act (desk.rechunk threshold size)).evalBy oracle =
      (((command.act desk).evalBy oracle).1,
        ((command.act desk).evalBy oracle).2.rechunk threshold size) := by
  cases command with
  | put | update =>
    simp only [Command.act, Engine.put, Engine.update, Engine.register, Consult.evalBy_bind,
      Consult.evalBy_pure]
    rfl
  | deleteSession session =>
    simp only [Command.act, rechunk, Engine.deleteSession_rechunk]
    rfl
  | find query =>
    have hfind := Engine.Sound.evalBy_find_rechunk h hnumeric threshold size
    simp only [Command.act, Consult.evalBy_bind, Consult.evalBy_pure, rechunk, hfind]
  | route service method =>
    simp only [Command.act, Consult.evalBy_bind, Consult.evalBy_pure]
    rfl
  | openCall name opening =>
    simp only [Command.act, Consult.evalBy_bind]
    rw [show (desk.rechunk threshold size).engine.converse opening =
      desk.engine.converse opening from rfl]
    split <;> rfl
  | next name message =>
    cases hcall : desk.calls name with
    | none => simp only [Command.act, rechunk, hcall, Consult.evalBy_pure]
    | some conversation =>
      simp only [Command.act, rechunk, hcall, Engine.next, Consult.evalBy_bind,
        Consult.evalBy_pure, Engine.markTurn_rechunk]
  | delete | clear | get | size | all | used | unused => rfl

/-- **A run** gets the same responses however routes are cut. -/
theorem evalBy_perform_rechunk (h : desk.engine.Sound oracle) {commands : List Command}
    (hnumeric : desk.NumericRun oracle commands) (threshold size : Nat) :
    ((desk.rechunk threshold size).perform commands).evalBy oracle =
      (((desk.perform commands).evalBy oracle).1,
        ((desk.perform commands).evalBy oracle).2.rechunk threshold size) := by
  induction commands generalizing desk with
  | nil => rfl
  | cons command rest ih =>
    obtain ⟨hcommand, hrest⟩ := hnumeric
    have hlater := ih (sound_act h command) hrest
    rw [evalBy_perform_cons, evalBy_perform_cons, evalBy_act_rechunk h hcommand]
    simp only [hlater]

/-- **Chunks are not seen.** The scans of the chunks of a route, of whatever size, may be merged in
any grouping that keeps their order, with scans of nothing at any place: the outcome is the scan of
the whole route, positions included. So two engines whose settings differ in when and how routes are
cut give the same responses to any run of commands. Both as long as the scores that are compared are
numbers. -/
theorem chunking_transparent (oracle : Oracle) :
    (∀ (query : Query) (stubs : List Stub), Numeric oracle query stubs →
      ∀ (size : Nat) (grouping : Grouping),
        grouping.scans = chunkScans oracle query size stubs →
          grouping.merged = (scan query stubs 0).evalBy oracle) ∧
    ∀ (settings : Settings) (commands : List Command),
      (start settings).NumericRun oracle commands →
        ∀ threshold size : Nat,
          let recut := { settings with chunkThreshold := threshold, chunkSize := size }
          (((start recut).perform commands).runBy oracle recut.caches).1.1 =
            (((start settings).perform commands).runBy oracle settings.caches).1.1 := by
  refine ⟨fun query stubs hnumeric size grouping hscans => ?_, ?_⟩
  · exact grouping.merged_chunkScans hscans hnumeric
  · intro settings commands hnumeric threshold size recut
    have hstart : start recut = (start settings).rechunk (max threshold 1) (max size 1) := rfl
    have hsound : (start settings).engine.Sound oracle := Engine.Sound.ofSettings settings
    rw [(runBy_perform oracle recut _ commands).1, (runBy_perform oracle settings _ commands).1,
      hstart, evalBy_perform_rechunk hsound hnumeric]

end Desk

namespace Tie

/-- The scans of the first three stubs and of the last one, with scans of nothing around them. -/
def grouping : Grouping :=
  .both (.both .nothing (.one ((scan query (stubs.take 3) 0).evalBy .standard)))
    (.both (.one ((scan query (stubs.drop 3) 3).evalBy .standard)) .nothing)

theorem scans_grouping : grouping.scans = chunkScans .standard query 3 stubs := by
  have hchunks : chunks 3 stubs = [stubs.take 3, stubs.drop 3] := by
    rw [stubs_eq]
    simp [chunks]
  rw [chunkScans, hchunks]
  rfl

/-- The stubs are stored and then compared, all with scores that are numbers. -/
theorem numericRun_commands :
    (Desk.start settings).NumericRun .standard (commands ++ [.find query]) := by
  have hrun : run.1 = _ := (Desk.runBy_perform .standard settings (.start settings) commands).1
  have hstubs : stubs = ((Desk.start settings).after .standard commands).engine.metBy .standard
      query := by
    rw [stubs, hrun]
    rfl
  have hnumeric : Numeric .standard query
      (((Desk.start settings).after .standard commands).engine.metBy .standard query) :=
    hstubs ▸ numeric_stubs
  exact ⟨trivial, hnumeric, trivial⟩

end Tie

namespace Desk

/-- The stubs that tie, in chunks of three and of one. -/
theorem chunking_transparent_tie :
    Numeric .standard Tie.query Tie.stubs ∧
    Tie.grouping.scans = chunkScans .standard Tie.query 3 Tie.stubs ∧
    Tie.grouping.merged = (scan Tie.query Tie.stubs 0).evalBy .standard ∧
    (start Tie.settings).NumericRun .standard (Tie.commands ++ [.find Tie.query]) ∧
    let recut := { Tie.settings with chunkThreshold := 1, chunkSize := 3 }
    (((start recut).perform (Tie.commands ++ [.find Tie.query])).runBy .standard
        recut.caches).1.1 =
      (((start Tie.settings).perform (Tie.commands ++ [.find Tie.query])).runBy .standard
        Tie.settings.caches).1.1 := by
  have hscans := Tie.scans_grouping
  have hnumeric := Tie.numericRun_commands
  refine ⟨Tie.numeric_stubs, hscans, ?_, hnumeric, ?_⟩
  · exact (chunking_transparent .standard).1 _ _ Tie.numeric_stubs 3 _ hscans
  · exact (chunking_transparent .standard).2 _ _ hnumeric 1 3

end Desk

/-! ## Capacities of caches -/

/-- The settings with other numbers of patterns and digests to remember. -/
def Settings.remembering (patterns digests : Nat) (settings : Settings) : Settings :=
  { settings with patternCapacity := patterns, digestCapacity := digests }

namespace Desk

variable {oracle : Oracle}

/-- Caches that remember different answers, but no wrong ones, give the same run, and remember
nothing wrong after it. -/
theorem runBy_perform_agrees (desk : Desk) (commands : List Command) {caches caches' : Caches}
    (h : caches.Sound oracle) (h' : caches'.Sound oracle) :
    let run := (desk.perform commands).runBy oracle caches
    let run' := (desk.perform commands).runBy oracle caches'
    run.1 = run'.1 ∧ run.2.Sound oracle ∧ run'.2.Sound oracle := by
  -- either run is the evaluation that asks the oracle every time
  obtain ⟨hvalue, hsound⟩ := (desk.perform commands).runBy_simulates h
  obtain ⟨hvalue', hsound'⟩ := (desk.perform commands).runBy_simulates h'
  exact ⟨hvalue.trans hvalue'.symm, hsound, hsound'⟩

/-- **Caches are not seen.** Two engines whose settings differ in how many patterns and digests are
remembered give the same responses to any run of commands, and hold the same stubs, marks and calls
after it. Whatever has been remembered and forgotten on the way, each entry that is left in the
caches is what would be computed afresh. -/
theorem caching_transparent (oracle : Oracle) (settings : Settings) (commands : List Command)
    (patterns digests patterns' digests' : Nat) :
    let run (p d : Nat) :=
      ((start (settings.remembering p d)).perform commands).runBy oracle
        (settings.remembering p d).caches
    (run patterns digests).1 = (run patterns' digests').1 ∧
      (run patterns digests).2.Sound oracle ∧ (run patterns' digests').2.Sound oracle := by
  intro run
  have hsound (p d : Nat) : (settings.remembering p d).caches.Sound oracle :=
    Caches.Sound.ofCapacities p d
  exact runBy_perform_agrees _ commands (hsound ..) (hsound ..)

/-- The caches themselves do differ: where no room is asked for, there is room for one digest. -/
example :
    let asked : Consult Unit := do
      for text in ["Cart", "Add", "Cart"] do
        let _ ← Consult.digested text
    let remembered (digests : Nat) :=
      (asked.runBy .standard (Caches.ofCapacities 0 digests)).2.digests.keys
    remembered 0 = ["Cart"] ∧ remembered 2 = ["Cart", "Add"] := by
  decide +kernel

end Desk

end Understudy
