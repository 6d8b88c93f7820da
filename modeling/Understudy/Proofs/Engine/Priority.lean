import Understudy.Proofs.Engine.Search
import Understudy.Proofs.Engine.Stock
import Understudy.Proofs.Search.Scores

/-!
# Priorities against ranks

Among stubs that answer a query and are equally specific, the one with the highest score is found: ten
times the priority, and how close the stub comes. A point of priority thus outweighs closeness as
long as closeness stays below ten. What a stub with one predicate can reach is its ceiling, which
grows with the levels of its alternatives and is less than ten if they nest twice at most, or once
where headers are wanted. A stub with a higher ceiling can be found though another one has a higher
priority, and so can one whose priority is too large for a floating-point number to tell it from the
next.

## Main results

* `Engine.Sound.isBest_of_found`: the stub that is found is the best one
* `Engine.found_outranks`: how much higher the priority of another stub can be
-/

namespace Understudy

open Decimal

section Scores

variable {oracle : Oracle} {query : Query}

namespace Engine

/-- The stub that is found is the best of those that the query can meet. -/
theorem Sound.isBest_of_found {engine : Engine} (h : engine.Sound oracle) (hid : query.id = none)
    {stubs : List Stub} (hstubs : stubs = engine.routed oracle query.service
      (engine.methodName query.method) query.session)
    (hnumeric : Numeric oracle query stubs) {best : Stub}
    (hfound : (engine.answer query).evalBy oracle = .ok (.found best)) :
    best.IsBest oracle query stubs := by
  subst hstubs
  set stubs := engine.routed oracle query.service (engine.methodName query.method) query.session
  have hanswer := h.toOption_answer hid
  rw [hfound] at hanswer
  have hscan := eq_ok_of_toOption hanswer.symm
  have hcovers := evalBy_scanRoute_covers engine hnumeric (engine.methodName query.method)
  by_cases hsome : ∃ stub ∈ stubs, stub.answersBy oracle query = true
  · obtain ⟨leader, hleader, hbest⟩ :=
      answerOf_found hcovers (h.ascends_routed _ _ _) hsome
    rw [hscan] at hleader
    obtain rfl : best = leader := Answer.found.inj (Except.ok.inj hleader)
    exact hbest
  · -- where no stub answers, a similar one is the most there can be
    push Not at hsome
    have hnone := best_eq_none hcovers hsome
    rcases exists_of_answerOf hscan with ⟨leader, stub, -, ⟨hleader, -⟩ | ⟨-, hsimilar⟩⟩
    · rw [hnone] at hleader
      cases hleader
    · cases hsimilar

end Engine

namespace Stub

variable {best other : Stub}

/-- **What a priority adds** is not exceeded by more than the ceiling of the best stub. -/
theorem IsBest.priorityValue_le {stubs : List Stub} (h : best.IsBest oracle query stubs)
    (hquery : query.Fits) (hfits : ∀ stub ∈ stubs, stub.Fits) (hsingle : best.single?.isSome = true)
    (hceiling : best.ceiling ≤ 2 ^ 53) (hother : other ∈ stubs)
    (hanswers : other.answersBy oracle query = true)
    (hspecific : other.specificity query.messages = best.specificity query.messages) :
    other.priorityValue ≤ rounded (best.ceiling + best.priorityValue) := by
  obtain ⟨predicate, hpredicate⟩ := Option.isSome_iff_exists.mp hsingle
  obtain ⟨hmem, -, hbest⟩ := h
  have hlarge : (best.ceiling : ℚ) ≤ 2 ^ 82 := by
    have hcast : (best.ceiling : ℚ) ≤ 2 ^ 53 := by exact_mod_cast hceiling
    exact hcast.trans (by norm_num)
  obtain ⟨x, hx, -, hhigh⟩ := Stub.scoreBy_between
    (closeness_between_ceiling oracle (hfits best hmem) hquery hpredicate hceiling)
    hlarge
  obtain ⟨y, hy, hlow, -⟩ := Stub.scoreBy_between
    (closeness_between oracle (hfits other hother) hquery) le_rfl
  have hscores := ((hbest other hother hanswers).2 hspecific).1
  rw [hx.lt_iff hy, not_lt] at hscores
  exact hlow.trans (hscores.trans hhigh)

theorem priorityValue_eq (h : 10 * |best.priority.toInt| ≤ 2 ^ 53) :
    best.priorityValue = (10 * best.priority.toInt : ℤ) := by
  have hexact : rounded best.priority.toInt = best.priority.toInt :=
    rounded_eq_self (representable_intCast (by omega))
  have hten : (best.priority.toInt : ℚ) * 10 = (10 * best.priority.toInt : ℤ) := by
    push_cast
    ring
  rw [priorityValue, hexact, hten]
  exact rounded_eq_self (representable_intCast (by rw [abs_mul]; simpa using h))

/-- A priority adds at least ten times any smaller whole number that is not too large. -/
theorem le_priorityValue (other : Stub) {q : ℤ} (hle : q ≤ other.priority.toInt)
    (hlow : -2 ^ 53 ≤ 10 * q) (hhigh : 10 * q ≤ 2 ^ 53) :
    ((10 * q : ℤ) : ℚ) ≤ other.priorityValue := by
  have hpriority : (q : ℚ) ≤ rounded other.priority.toInt :=
    le_rounded (representable_intCast (abs_le.mpr ⟨by omega, by omega⟩)) (by exact_mod_cast hle)
  refine le_rounded (representable_intCast (abs_le.mpr ⟨by omega, hhigh⟩)) ?_
  push_cast
  linarith

/-- In whole numbers, where what the priority of the best stub adds is computed exactly. -/
theorem priority_le_of_priorityValue_le
    (h : other.priorityValue ≤ rounded (best.ceiling + best.priorityValue))
    (hsmall : 10 * |best.priority.toInt| + best.ceiling ≤ 2 ^ 53 - 10) :
    10 * other.priority.toInt ≤ 10 * best.priority.toInt + best.ceiling := by
  by_contra hgt
  set sum := 10 * best.priority.toInt + best.ceiling with hsum
  obtain ⟨hlow, hhigh⟩ := abs_le.mp (le_refl |best.priority.toInt|)
  have hexact : rounded (best.ceiling + best.priorityValue) = sum := by
    have hcast : (best.ceiling : ℚ) + (10 * best.priority.toInt : ℤ) = sum := by
      rw [hsum]
      push_cast
      ring
    rw [priorityValue_eq (by omega), hcast]
    exact rounded_eq_self (representable_intCast (abs_le.mpr ⟨by omega, by omega⟩))
  -- the least priority that outweighs the sum is exact as well
  have hleast := le_priorityValue other (q := sum / 10 + 1) (by omega) (by omega) (by omega)
  rw [hexact] at h
  have hle : 10 * (sum / 10 + 1) ≤ sum := by exact_mod_cast hleast.trans h
  omega

end Stub

end Scores

namespace Engine

/-- **The stub that is found outranks the others**, in every engine that a run of commands has led
to, with whatever settings and whatever the caches remember, as long as sizes fit a word. If it has
one predicate, then of the stubs that the query can meet, that answer it and that are as specific,
none has a priority that adds more to its score than the priority and the ceiling of the one that is
found, as floating-point numbers, whatever the priorities are. Where the sum is computed exactly, the
same holds of whole numbers; so none has a higher priority if the ceiling is less than ten. -/
theorem found_outranks (oracle : Oracle) (settings : Settings) (commands : List Command)
    (query : Query) (hid : query.id = none) (hquery : query.Fits) :
    let reached := Desk.run oracle settings commands
    let engine := reached.1.2.engine
    let stubs := engine.routed oracle query.service (engine.methodName query.method) query.session
    (∀ stub ∈ stubs, stub.Fits) →
    ∀ best, ((engine.find query).runBy oracle reached.2).1.1 = .ok (.found best) →
      best.single?.isSome = true →
    ∀ other ∈ stubs, other.answersBy oracle query = true →
      other.specificity query.messages = best.specificity query.messages →
      (best.ceiling ≤ 2 ^ 53 →
        ¬ Decimal.ofNat best.ceiling + best.priorityScore < other.priorityScore) ∧
      (10 * |best.priority.toInt| + best.ceiling ≤ 2 ^ 53 - 10 →
        10 * other.priority.toInt ≤ 10 * best.priority.toInt + best.ceiling ∧
        (best.ceiling < 10 → other.priority.toInt ≤ best.priority.toInt)) := by
  intro reached engine stubs hfits best hfound hsingle other hother hanswers hspecific
  obtain ⟨h, hcaches⟩ := Desk.sound_run oracle settings commands
  rw [runBy_find _ _ hcaches] at hfound
  have hbest := h.isBest_of_found hid rfl (numeric_of_fits hquery hfits) hfound
  have hvalue := fun hceiling => hbest.priorityValue_le hquery hfits hsingle hceiling hother
    hanswers hspecific
  refine ⟨fun hceiling hlt => ?_, fun hsmall => ?_⟩
  · have hpriority := abs_le.mp best.abs_priorityValue_le
    have hlarge : (best.ceiling : ℚ) ≤ 2 ^ 53 := by exact_mod_cast hceiling
    have hnonneg : (0 : ℚ) ≤ best.ceiling := Nat.cast_nonneg _
    have hbelow : -best.priorityValue ≤ ample := le_ample (by linarith)
    have habove : (best.ceiling : ℚ) + best.priorityValue ≤ ample := le_ample (by linarith)
    have hsum := (hasValue_ofNat_of_le hceiling).add best.hasValue_priorityScore
      (abs_le.mpr ⟨by linarith, habove⟩)
    rw [hsum.lt_iff other.hasValue_priorityScore] at hlt
    exact (hvalue hceiling).not_gt hlt
  · have hpositive := abs_nonneg best.priority.toInt
    have hle := Stub.priority_le_of_priorityValue_le (hvalue (by omega)) hsmall
    exact ⟨hle, fun hten => by omega⟩

end Engine

/-! ## An urgent stub

The urgent stub has the higher priority, but the other one has alternatives that nest. With two
levels of them the urgent one is found, and with three the other one. -/

namespace Ladder

/-- A field with a text. -/
def item (text : String) : Fields := [("item", .str text)]

/-- A predicate that wants a pen, and some text in it. -/
def wanting (text : String) (anyOf : List Predicate) : Predicate where
  equalTo := some (item "pen")
  containing := some (item text)
  matching := some (item text)
  anyOf := anyOf

/-- A predicate that wants a pen on every level of its alternatives. -/
def rungs : ℕ → Predicate
  | 0 => wanting "pen" []
  | n + 1 => wanting "pen" [rungs n]

/-- A stub with one predicate. -/
def stub (id : ℕ) (priority : Int64) (predicate : Predicate) : Stub where
  id := ⟨BitVec.ofNat 128 id⟩
  service := "Cart"
  method := "Add"
  priority := priority
  expectation := .single predicate

/-- A stub whose alternatives nest. -/
def nested (n : ℕ) : Stub := stub 1 0 (rungs n)

/-- A stub with a higher priority. It wants a letter only, and the pen as well. -/
def urgent : Stub := stub 2 1 (wanting "p" [])

/-- A stub that wants a pen, with some priority. -/
def crowded (id : ℕ) (priority : Int64) : Stub :=
  stub id priority { equalTo := some (item "pen") }

/-- A call with a pen. -/
def query : Query where
  service := "Cart"
  method := "Add"
  messages := [item "pen"]

/-- The desk after some stubs have been stored, and its caches. -/
def run (stubs : List Stub) : (List Response × Desk) × Caches :=
  Desk.run .standard {} [.put (fun _ => .nil) stubs]

/-- The answer to the call. -/
def answer (stubs : List Stub) : Except RouteError Answer :=
  (((run stubs).1.2.engine.find query).runBy .standard (run stubs).2).1.1

/-- The stubs that the call can meet. -/
def met (stubs : List Stub) : List Stub :=
  (run stubs).1.2.engine.routed .standard query.service
    ((run stubs).1.2.engine.methodName query.method) query.session

theorem fits_wanting {text : String} {anyOf : List Predicate} (htext : text.utf8ByteSize < 2 ^ 64)
    (h : ∀ alternative ∈ anyOf, alternative.Fits) : (wanting text anyOf).Fits := by
  refine Predicate.fits_of_maps ?_ h
  simp only [Predicate.maps, wanting, Option.toList_some, List.cons_append, List.nil_append,
    List.forall_mem_cons, List.not_mem_nil, false_imp_iff, implies_true, and_true]
  exact ⟨Json.fits_text _ (by decide), Json.fits_text _ htext, Json.fits_text _ htext⟩

theorem fits_rungs (n : ℕ) : (rungs n).Fits := by
  induction n with
  | zero => exact fits_wanting (by decide) (by simp)
  | succ n ih => exact fits_wanting (by decide) (by simpa using ih)

theorem fits_stub {id : ℕ} {priority : Int64} {predicate : Predicate} (h : predicate.Fits) :
    (stub id priority predicate).Fits where
  headers := ⟨Json.fits_nil, Json.fits_nil, Json.fits_nil⟩
  single := by
    intro predicate' hsingle
    rwa [← Option.some.inj hsingle]
  sequence := by simp [stub, Stub.sequence]

theorem fits_query : query.Fits where
  headers := Json.fits_nil
  messages := by
    intro message hmem
    obtain rfl := List.mem_singleton.mp hmem
    exact Json.fits_text _ (by decide)

/-- With two levels of alternatives the urgent stub is found. -/
def low : List Stub := [nested 2, urgent]

/-- With three levels the other one is. -/
def high : List Stub := [nested 3, urgent]

/-- Priorities that are one and the same floating-point number. -/
def crowd : List Stub := [crowded 1 9007199254740992, crowded 2 9007199254740993]

theorem met_low : met low = low :=
  Desk.routed_put rfl (by decide) (.refl _) (by decide) (by decide)

theorem met_high : met high = high :=
  Desk.routed_put rfl (by decide) (.refl _) (by decide) (by decide)

theorem met_crowd : met crowd = crowd :=
  Desk.routed_put rfl (by decide) (.refl _) (by decide) (by decide)

theorem answer_low : answer low = .ok (.found urgent) :=
  Desk.find_put rfl rfl (by decide) (by decide) (by decide) (by decide) 1 (by decide +kernel) rfl

theorem answer_high : answer high = .ok (.found (nested 3)) :=
  Desk.find_put rfl rfl (by decide) (by decide) (by decide) (by decide) 0 (by decide +kernel) rfl

theorem answer_crowd : answer crowd = .ok (.found (crowded 1 9007199254740992)) :=
  Desk.find_put rfl rfl (by decide) (by decide) (by decide) (by decide) 0 (by decide +kernel) rfl

theorem fits_met_low : ∀ stub ∈ met low, stub.Fits := by
  rw [met_low]
  intro stub hmem
  rcases List.mem_pair.mp hmem with rfl | rfl
  · exact fits_stub (fits_rungs 2)
  · exact fits_stub (fits_wanting (by decide) (by simp))

end Ladder

namespace Engine

/-- The urgent stub is found, and outranks the one whose alternatives nest. -/
theorem found_outranks_low :
    Ladder.query.id = none ∧ Ladder.query.Fits ∧ (∀ stub ∈ Ladder.met Ladder.low, stub.Fits) ∧
    Ladder.answer Ladder.low = .ok (.found Ladder.urgent) ∧
    Ladder.urgent.single?.isSome = true ∧
    Ladder.nested 2 ∈ Ladder.met Ladder.low ∧
    (Ladder.nested 2).answersBy .standard Ladder.query = true ∧
    (Ladder.nested 2).specificity Ladder.query.messages =
      Ladder.urgent.specificity Ladder.query.messages ∧
    Ladder.urgent.ceiling < 10 ∧
    (Ladder.nested 2).priority.toInt ≤ Ladder.urgent.priority.toInt := by
  have hmem : Ladder.nested 2 ∈ Ladder.met Ladder.low := by
    rw [Ladder.met_low]
    exact List.mem_cons_self
  have hanswers : (Ladder.nested 2).answersBy .standard Ladder.query = true := by
    decide +kernel
  obtain ⟨-, hwhole⟩ := found_outranks .standard {} [.put (fun _ => .nil) Ladder.low] Ladder.query
    rfl Ladder.fits_query Ladder.fits_met_low Ladder.urgent Ladder.answer_low rfl
    (Ladder.nested 2) hmem hanswers rfl
  exact ⟨rfl, Ladder.fits_query, Ladder.fits_met_low, Ladder.answer_low, rfl, hmem, hanswers, rfl,
    by decide, (hwhole (by decide)).2 (by decide)⟩

/-- **A lower priority wins**, once alternatives nest on three levels, and once priorities are too
large to be told apart. -/
theorem lower_priority_found :
    (Ladder.answer Ladder.high = .ok (.found (Ladder.nested 3)) ∧
      (Ladder.nested 3).single?.isSome = true ∧
      Ladder.urgent ∈ Ladder.met Ladder.high ∧ Ladder.urgent.single?.isSome = true ∧
      Ladder.urgent.answersBy .standard Ladder.query = true ∧
      Ladder.urgent.specificity Ladder.query.messages =
        (Ladder.nested 3).specificity Ladder.query.messages ∧
      (Ladder.nested 3).priority < Ladder.urgent.priority ∧ (Ladder.nested 3).ceiling = 12) ∧
    ∃ first second : Stub, Ladder.crowd = [first, second] ∧
      Ladder.answer Ladder.crowd = .ok (.found first) ∧ first.single?.isSome = true ∧
      second ∈ Ladder.met Ladder.crowd ∧ second.single?.isSome = true ∧
      second.answersBy .standard Ladder.query = true ∧
      second.specificity Ladder.query.messages = first.specificity Ladder.query.messages ∧
      first.priority < second.priority ∧ first.ceiling = 3 := by
  refine ⟨⟨Ladder.answer_high, rfl, ?_, rfl, ?_, rfl, by decide, rfl⟩,
    _, _, rfl, Ladder.answer_crowd, rfl, ?_, rfl, ?_, rfl, by decide, rfl⟩
  · rw [Ladder.met_high]
    exact List.mem_cons_of_mem _ List.mem_cons_self
  · decide +kernel
  · rw [Ladder.met_crowd]
    exact List.mem_cons_of_mem _ List.mem_cons_self
  · decide +kernel

end Engine

end Understudy
