import Understudy.Proofs.Engine.Stock
import Understudy.Proofs.Engine.Tuning

/-!
# An empty message that closes a call

An empty message after the last one that holds something closes the call and says nothing. Ordered
predicates are compared with the messages that count, and the closing one does not; it has no fields
either that would make a stub more specific. A stub with a single predicate does notice it, but only
after a first message: then there are two, and from there on it makes no difference to the stub how
many more there are. So a search comes to the same, with the same requests on the way, unless it is
the second message that closes the call and a stub with a single predicate is met.

## Main results

* `effective_closed`: what counts of a call that an empty message closes
* `Stub.candidate_closed`: a stub is the same candidate with the closing message and without
* `Engine.Sound.runBy_search_congr`: queries that are offered the same are answered alike
* `Desk.find_closed`: a query finds the same with the closing message and without
-/

namespace Understudy

/-! ## Messages -/

section Messages

variable {before : List Fields} {last : Fields}

/-- A message that holds something is not left out at the end. -/
theorem effective_of_held (hlast : last ≠ []) :
    effective (before ++ [last]) = before ++ [last] := by
  unfold effective
  rw [List.getLast?_concat]
  split
  · next hempty => exact absurd (Option.some.inj hempty) hlast
  · rfl

/-- An empty message at the end is left out. -/
theorem effective_closed (messages : List Fields) : effective (messages ++ [[]]) = messages := by
  unfold effective
  rw [List.getLast?_concat]
  exact List.dropLast_concat

theorem allEmpty_closed (messages : List Fields) :
    allEmpty (messages ++ [[]]) = allEmpty messages := by
  simp [allEmpty]

/-! ## Ordered predicates -/

namespace Sequence

variable (predicates : List Predicate)

theorem accepts_closed (hlast : last ≠ []) :
    accepts predicates (before ++ [last] ++ [[]]) = accepts predicates (before ++ [last]) := by
  simp only [accepts, effective_closed, effective_of_held hlast]

theorem rank_closed (hlast : last ≠ []) :
    rank predicates (before ++ [last] ++ [[]]) = rank predicates (before ++ [last]) := by
  simp only [rank, effective_closed, effective_of_held hlast]

/-- Ordered predicates answer messages with a closing one as they do without. -/
theorem answers_closed (hlast : last ≠ []) :
    answers predicates (before ++ [last] ++ [[]]) = answers predicates (before ++ [last]) := by
  simp only [answers, allEmpty_closed, effective_closed, effective_of_held hlast,
    accepts_closed _ hlast]

/-- Messages with a closing one come as close to ordered predicates as they do without. -/
theorem closeness_closed (hlast : last ≠ []) :
    closeness predicates (before ++ [last] ++ [[]]) =
      closeness predicates (before ++ [last]) := by
  simp only [closeness, allEmpty_closed, effective_closed, effective_of_held hlast,
    rank_closed _ hlast]

end Sequence

/-- A message without fields has none that a predicate wants. -/
theorem Predicate.sharedFields_nil (predicate : Predicate) : predicate.sharedFields [] = 0 := by
  rw [sharedFields, List.length_eq_zero_iff, List.filter_eq_nil_iff]
  intro key _
  simp [Table.has]

/-- The wanted fields that messages have, position by position, do not become more by an empty
message. -/
theorem sum_sharedFields_closed (predicates : List Predicate) (messages : List Fields) :
    (List.zipWith Predicate.sharedFields predicates (messages ++ [[]])).sum =
      (List.zipWith Predicate.sharedFields predicates messages).sum := by
  induction messages generalizing predicates with
  | nil =>
    cases predicates with
    | nil => rfl
    | cons predicate rest => simp [Predicate.sharedFields_nil]
  | cons message messages ih =>
    cases predicates with
    | nil => rfl
    | cons predicate rest => simp [ih]

end Messages

/-! ## Stubs -/

namespace Stub

variable {stub : Stub} {query : Query} {before : List Fields} {last : Fields}

/-- A stub with ordered predicates is the same candidate with a closing message and without. -/
theorem candidate_closed_of_ordered {predicates : List Predicate}
    (hexpectation : stub.expectation = .ordered predicates)
    (hmessages : query.messages = before ++ [last]) (hlast : last ≠ []) (index : ℕ) :
    stub.candidate (query.addMessage []) index = stub.candidate query index := by
  simp only [candidate, answers, closeness, refusesHeaders, messageCloseness, specificity,
    Query.addMessage, hexpectation, hmessages, Sequence.answers_closed _ hlast,
    Sequence.closeness_closed _ hlast, ← List.sum_eq_foldl, sum_sharedFields_closed]

/-- A stub with a single predicate does not tell two messages from more. -/
theorem candidate_closed_of_single {predicate : Predicate}
    (hexpectation : stub.expectation = .single predicate)
    (hmessages : 2 ≤ query.messages.length) (index : ℕ) :
    stub.candidate (query.addMessage []) index = stub.candidate query index := by
  match hfound : query.messages, hmessages with
  | first :: second :: rest, _ =>
    simp only [candidate, answers, closeness, refusesHeaders, messageCloseness, specificity,
      Predicate.answers, Query.addMessage, hexpectation, hfound, List.cons_append]

/-- **A stub is the same candidate** with a closing message and without, unless it has a single
predicate and the closing message is the second one. -/
theorem candidate_closed (hmessages : query.messages = before ++ [last]) (hlast : last ≠ [])
    (hseveral : 2 ≤ query.messages.length ∨ stub.single? = none) (index : ℕ) :
    stub.candidate (query.addMessage []) index = stub.candidate query index := by
  cases hexpectation : stub.expectation with
  | ordered predicates => exact candidate_closed_of_ordered hexpectation hmessages hlast index
  | single predicate =>
    refine candidate_closed_of_single hexpectation (hseveral.resolve_right fun hnone => ?_) index
    rw [single?, hexpectation] at hnone
    cases hnone

end Stub

/-! ## Searches -/

namespace Engine

variable {oracle : Oracle} {engine : Engine}

/-- Stubs that offer two queries the same are scanned alike, in chunks or not. -/
theorem scanRoute_offers_congr {query query' : Query} {stubs : List Stub}
    (h : OfferAlike query query' stubs) (engine : Engine) :
    engine.scanRoute query stubs = engine.scanRoute query' stubs := by
  simp only [scanRoute, scanChunks_congr h, scan_congr h]

/-- **Queries of one route** that are offered the same by the stubs they can meet are answered
alike, and leave the same caches. -/
theorem Sound.runBy_search_congr (h : engine.Sound oracle) {caches : Caches}
    (hcaches : caches.Sound oracle) {query query' : Query}
    (hservice : query.service = query'.service) (hmethod : query.method = query'.method)
    (hsession : query.session = query'.session)
    (hoffers : OfferAlike query query'
      (engine.routed oracle query.service query.method query.session)) :
    (engine.search query).runBy oracle caches = (engine.search query').runBy oracle caches := by
  unfold search
  rw [Consult.runBy_bind, Consult.runBy_bind, ← hservice, ← hmethod, ← hsession]
  -- the lookups are the same, and come to the stubs that the query can meet
  have hvisible := Consult.runBy_fst (engine.visible query.service query.method query.session)
    hcaches
  generalize (engine.visible query.service query.method query.session).runBy oracle caches =
    looked at hvisible
  obtain ⟨result, left⟩ := looked
  cases result with
  | error failure => rfl
  | ok stubs =>
    obtain rfl := h.eq_routed_of_visible hvisible.symm
    simp only [scanRoute_offers_congr hoffers]

end Engine

namespace Desk

/-- **A closing message is not seen.** After any run of commands, let a query that names no stub
have messages of which the last holds something. Then it comes to the same with one more message
that is empty: the answer, what is marked and what the caches remember. This is so if the query has
several messages, or if no stub that it can meet has a single predicate. -/
theorem find_closed (oracle : Oracle) (settings : Settings) (commands : List Command) :
    let reached := run oracle settings commands
    let engine := reached.1.2.engine
    ∀ (query : Query) (before : List Fields) (last : Fields), query.id = none →
      query.messages = before ++ [last] → last ≠ [] →
      (2 ≤ query.messages.length ∨ ∀ stub ∈ engine.metBy oracle query, stub.single? = none) →
      (engine.find (query.addMessage [])).runBy oracle reached.2 =
        (engine.find query).runBy oracle reached.2 := by
  intro reached engine query before last hid hmessages hlast hseveral
  obtain ⟨hsound, hcaches⟩ := sound_run oracle settings commands
  -- the search is for the name of the method as the engine spells it
  let spelled : Query := { query with id := none, method := engine.methodName query.method }
  have hoffers : OfferAlike (spelled.addMessage []) spelled (engine.metBy oracle query) := by
    intro stub hmem index
    refine Stub.candidate_closed hmessages hlast ?_ index
    exact hseveral.imp_right fun hordered => hordered stub hmem
  have hsearch : (engine.search (spelled.addMessage [])).runBy oracle reached.2 =
      (engine.search spelled).runBy oracle reached.2 :=
    hsound.runBy_search_congr hcaches rfl rfl rfl hoffers
  have hanswer : (engine.answer (query.addMessage [])).runBy oracle reached.2 =
      (engine.answer query).runBy oracle reached.2 := by
    simp only [Engine.answer, Query.addMessage, hid]
    exact hsearch
  -- what is marked depends on the answer, and on whether the query is quiet
  simp only [Engine.find, Consult.runBy_bind, hanswer]
  rfl

end Desk

-- a second message that is empty does make a difference to a stub with a single predicate
example :
    let stub : Stub := { expectation := .single { equalTo := some [("item", .str "pen")] } }
    let query : Query := { messages := [[("item", .str "pen")]] }
    stub.answersBy .standard query = true ∧
      stub.answersBy .standard (query.addMessage []) = false := by
  decide

/-! ## An order that is closed -/

namespace Farewell

def pen : Fields := [("item", .str "pen")]

def ink : Fields := [("item", .str "ink")]

/-- A stub with a predicate for each of some messages. -/
def wanting (id : ℕ) (messages : List Fields) : Stub where
  id := ⟨BitVec.ofNat 128 id⟩
  service := "Shop"
  method := "Order"
  expectation := .ordered (messages.map fun message => { equalTo := some message })

/-- A stub with a single predicate, for the evening. -/
def evening : Stub where
  id := ⟨1⟩
  service := "Shop"
  method := "Order"
  session := "evening"
  expectation := .single { equalTo := some pen }

/-- Predicates for fewer messages than come, for as many and for more. -/
def stubs : List Stub :=
  [evening, wanting 2 [pen], wanting 3 [pen, ink], wanting 4 [pen, ink, []]]

/-- The desk that has stored the stubs. -/
def reached : (List Response × Desk) × Caches :=
  Desk.run .standard {} [.put (fun _ => .nil) stubs]

/-- An order of two items in the evening. -/
def order : Query where
  service := "Shop"
  method := "Order"
  session := "evening"
  messages := [pen, ink]

/-- An order of one item by day. -/
def single : Query where
  service := "Shop"
  method := "Order"
  messages := [pen]

theorem ordered_by_day :
    ∀ stub ∈ reached.1.2.engine.metBy .standard single, stub.single? = none := by
  intro stub hmem
  obtain ⟨hall, -, hsession⟩ := Engine.mem_routed.mp hmem
  rw [show reached.1.2.engine.all = stubs from
    Desk.all_put (by decide) (.refl _) (by decide)] at hall
  -- the stub for the evening is not seen by day
  have hstubs : ∀ stub ∈ stubs, (stub.session = "" ∨ stub.session = "") →
      stub.single? = none := by
    decide
  exact hstubs stub hall hsession

end Farewell

/-- Two items are ordered in the evening and one by day, and either order is closed. -/
theorem Desk.find_closed_farewell :
    let engine := Farewell.reached.1.2.engine
    let caches := Farewell.reached.2
    (Farewell.order.messages = [Farewell.pen] ++ [Farewell.ink] ∧ Farewell.ink ≠ [] ∧
      2 ≤ Farewell.order.messages.length ∧
      ((engine.find Farewell.order).runBy .standard caches).1.1 =
        .ok (.found (Farewell.wanting 3 [Farewell.pen, Farewell.ink])) ∧
      (engine.find (Farewell.order.addMessage [])).runBy .standard caches =
        (engine.find Farewell.order).runBy .standard caches) ∧
    Farewell.single.messages = [] ++ [Farewell.pen] ∧ Farewell.pen ≠ [] ∧
      (∀ stub ∈ engine.metBy .standard Farewell.single, stub.single? = none) ∧
      (engine.find (Farewell.single.addMessage [])).runBy .standard caches =
        (engine.find Farewell.single).runBy .standard caches := by
  intro engine caches
  refine ⟨⟨rfl, by decide, by decide, ?_, ?_⟩, rfl, by decide, Farewell.ordered_by_day, ?_⟩
  · exact Desk.find_put rfl rfl (by decide) (by decide) (by decide) (by decide) 2
      (by decide +kernel) rfl
  · exact find_closed .standard {} _ Farewell.order [Farewell.pen] Farewell.ink rfl rfl (by decide)
      (.inl (by decide))
  · exact find_closed .standard {} _ Farewell.single [] Farewell.pen rfl rfl (by decide)
      (.inr Farewell.ordered_by_day)

end Understudy
