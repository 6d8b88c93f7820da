import Understudy.Proofs.Engine.Effects
import Understudy.Proofs.Engine.Priority

/-!
# Wildcards in calls

An ordered predicate that wants nothing counts as one hit, and each wanted field that a message
satisfies as ten or more. A message that satisfies a predicate satisfies each of its fields. So of
two stubs with the same priority the one that wants a field at the position ranks higher than the
one that wants nothing there, and the latter does not answer while the former is left.

That says nothing of alternatives, which do not count as hits: a predicate that wants nothing else
ranks below a wildcard. And priorities that are large enough swallow the hits. They are added to
them as floating-point numbers, and two sums are the same when no number is left between them.

## Main definitions

* `Stub.TellsHit`: the priority of a stub leaves room to tell a hit from a wildcard

## Main results

* `Predicate.hits_of_tolerates`: what satisfies a predicate hits each of its fields
* `Conversation.next_leads`: no stub that is left ranks higher than the one that answers
* `Conversation.wildcard_yields`: a wildcard answers only if no stub of its priority wants a field
-/

namespace Understudy

open Decimal

variable {oracle : Oracle}

/-! ## Hits -/

/-- A number of 64 bits is at least as great as any smaller whole number that is not too large. -/
theorem Decimal.ofNat_between_of_le {k n : ℕ} (hle : k ≤ n) (hk : k ≤ 2 ^ 53) (hn : n < 2 ^ 64) :
    Between k (2 ^ 64) (ofNat n) := by
  obtain ⟨x, hx, -, hhigh⟩ := ofNat_between n
  refine ⟨_, hasValue_ofNat_of_lt hn, le_rounded (representable_natCast hk) ?_, ?_⟩
  · exact_mod_cast hle
  · exact (Option.some.inj (hx.symm.trans (hasValue_ofNat_of_lt hn))) ▸ hhigh

/-- A number of fields with a weight of ten or more comes to ten at least, unless it is zero. -/
theorem Decimal.weighted_between_of_le {n : ℕ} {weight : Float} (hn : n < 2 ^ 64)
    (hweight : Between 10 (2 ^ 10) weight) :
    Between (10 * min n 1 : ℕ) (2 ^ 74) (ofNat n * weight) := by
  have hcount : Between (min n 1 : ℕ) (2 ^ 64) (ofNat n) :=
    ofNat_between_of_le (min_le_left n 1) (by omega) hn
  have hproduct := hcount.mul_of_nonneg hweight (Nat.cast_nonneg _) (by norm_num)
    (le_ample (by norm_num))
  refine hproduct.mono (le_rounded (representable_natCast (by omega)) ?_)
    (rounded_le (representable_two_pow 74) (by norm_num))
  push_cast
  linarith

namespace Predicate

variable {predicate : Predicate} {message : Fields}

/-- Each wanted field of a map that holds is hit. -/
theorem evalBy_count_of_holds {map : Option Fields} {test : Json → Json → Consult Bool}
    (h : map.all (holds (tolerant? message) fun want got => (test want got).evalBy oracle) = true) :
    (Consult.count (tolerantTest message test) (map.getD [])).evalBy oracle =
      (map.getD []).length := by
  rw [← evalBy_all_tolerantTest, Consult.evalBy_all, List.all_eq_true] at h
  rw [Consult.evalBy_count, List.countP_eq_length]
  exact h

/-- **What satisfies a predicate** that wants something hits each of its wanted fields. -/
theorem hits_of_tolerates (h : (predicate.tolerates message).evalBy oracle = true)
    (hwanting : predicate.isEmpty = false) :
    (predicate.hits message).evalBy oracle =
      ofNat (predicate.equalTo.getD []).length * equalHit +
        ofNat (predicate.containing.getD []).length * containedHit +
          ofNat (predicate.matching.getD []).length * matchedHit := by
  obtain ⟨hmaps, -⟩ := evalBy_tolerates_iff.mp h
  simp only [mapsHold, Bool.and_eq_true] at hmaps
  obtain ⟨⟨hequal, hcontained⟩, hmatched⟩ := hmaps
  have hequalHits := @evalBy_count_of_holds oracle message predicate.equalTo
    (equalTest predicate.anyOrder) hequal
  have hcontainedHits := @evalBy_count_of_holds oracle message predicate.containing
    containedTest hcontained
  have hmatchedHits := evalBy_count_of_holds hmatched
  rw [hits, if_neg (Bool.eq_false_iff.mp hwanting)]
  simp only [Consult.evalBy_bind, Consult.evalBy_pure, hequalHits, hcontainedHits, hmatchedHits]

theorem fieldCount_eq_add (predicate : Predicate) :
    predicate.fieldCount = (predicate.equalTo.getD []).length +
      (predicate.containing.getD []).length + (predicate.matching.getD []).length := by
  obtain ⟨anyOrder, equalTo, containing, matching, anyOf⟩ := predicate
  cases equalTo <;> cases containing <;> cases matching <;> simp [fieldCount, maps]

/-- A number of fields hits by ten or more under each of the weights, unless it is zero. -/
theorem weighted_hits_between {n : ℕ} (hn : n < 2 ^ 64) {weight : Float}
    (hweight : weight ∈ [equalHit, containedHit, matchedHit]) :
    Between (10 * min n 1 : ℕ) (2 ^ 74) (ofNat n * weight) := by
  have hhundred : HasValue equalHit 100 := by
    exact_mod_cast @hasValue_ofNat_of_le 100 (by norm_num)
  have hten : HasValue containedHit 10 := by
    exact_mod_cast @hasValue_ofNat_of_le 10 (by norm_num)
  refine weighted_between_of_le hn ?_
  simp only [List.mem_cons, List.not_mem_nil, or_false] at hweight
  rcases hweight with rfl | rfl | rfl
  · exact hhundred.between.mono (by norm_num) (by norm_num)
  · exact hten.between.mono (by norm_num) (by norm_num)
  · exact hten.between.mono (by norm_num) (by norm_num)

/-- **The hits of what satisfies a predicate** are ten at least if some field is wanted. -/
theorem hits_between (h : (predicate.tolerates message).evalBy oracle = true)
    (hfields : predicate.fieldCount ≠ 0) (hfits : predicate.fieldCount < 2 ^ 64) :
    Between 10 (2 ^ 76) ((predicate.hits message).evalBy oracle) := by
  have hwanting : predicate.isEmpty = false :=
    Bool.eq_false_iff.mpr fun hempty => hfields (fieldCount_eq_zero hempty)
  rw [hits_of_tolerates h hwanting]
  rw [fieldCount_eq_add] at hfields hfits
  generalize (predicate.equalTo.getD []).length = equal at hfields hfits ⊢
  generalize (predicate.containing.getD []).length = contained at hfields hfits ⊢
  generalize (predicate.matching.getD []).length = matched at hfields hfits ⊢
  have hequal := weighted_hits_between (n := equal) (by omega) (List.mem_of_getElem? (i := 0) rfl)
  have hcontained :=
    weighted_hits_between (n := contained) (by omega) (List.mem_of_getElem? (i := 1) rfl)
  have hmatched :=
    weighted_hits_between (n := matched) (by omega) (List.mem_of_getElem? (i := 2) rfl)
  have hmaps := hequal.add_natCast_power hcontained (k := 75) (by omega) (by norm_num)
  have hsum := hmaps.add_natCast_power hmatched (k := 76) (by omega) (by norm_num)
  refine hsum.mono ?_ le_rfl
  -- one of the maps wants a field, and has a hit
  have hten : 10 ≤ 10 * min equal 1 + 10 * min contained 1 + 10 * min matched 1 := by omega
  exact_mod_cast hten

end Predicate

/-! ## Priorities -/

namespace Stub

/-- The priority of a stub leaves room to tell a hit from a wildcard: added to each, it makes
different numbers. -/
def TellsHit (stub : Stub) : Prop :=
  (1 : Float) + stub.priorityScore < Predicate.containedHit + stub.priorityScore

/-- What the priority adds to a number that is not too large. -/
theorem hasValue_add_priorityScore (stub : Stub) {closeness : Float} {x : ℚ}
    (h : HasValue closeness x) (hx : |x| ≤ 2 ^ 82) :
    HasValue (closeness + stub.priorityScore) (rounded (x + stub.priorityValue)) := by
  refine h.add stub.hasValue_priorityScore (le_ample ((abs_add_le _ _).trans ?_))
  linarith [stub.abs_priorityValue_le]

theorem tellsHit_iff (stub : Stub) :
    stub.TellsHit ↔ rounded (1 + stub.priorityValue) < rounded (10 + stub.priorityValue) := by
  have hten : HasValue Predicate.containedHit 10 := by
    exact_mod_cast @hasValue_ofNat_of_le 10 (by norm_num)
  have hone := stub.hasValue_add_priorityScore hasValue_one (by norm_num)
  exact hone.lt_iff (stub.hasValue_add_priorityScore hten (by norm_num))

/-- A priority whose score is computed exactly leaves room. -/
theorem tellsHit_of_le {stub : Stub} (h : 10 * |stub.priority.toInt| ≤ 2 ^ 53 - 10) :
    stub.TellsHit := by
  have hexact : ∀ k : ℤ, 0 ≤ k → k ≤ 10 →
      rounded (k + stub.priorityValue) = (k + 10 * stub.priority.toInt : ℤ) := by
    intro k hlow hhigh
    have hbounds := abs_le.mp (le_refl |stub.priority.toInt|)
    rw [priorityValue_eq (by omega), ← Int.cast_add]
    exact rounded_eq_self (representable_intCast (abs_le.mpr ⟨by omega, by omega⟩))
  have hone := hexact 1 (by norm_num) (by norm_num)
  have hten := hexact 10 (by norm_num) (by norm_num)
  rw [tellsHit_iff]
  push_cast at hone hten
  rw [hone, hten]
  linarith

/-- A stub with a hit outranks a wildcard of the same priority, if that leaves room. -/
theorem TellsHit.lt_add {stub : Stub} (h : stub.TellsHit) {hits : Float}
    (hhits : Between 10 (2 ^ 76) hits) :
    (1 : Float) + stub.priorityScore < hits + stub.priorityScore := by
  obtain ⟨x, hx, hlow, hhigh⟩ := hhits
  have hsmall : |x| ≤ 2 ^ 82 := abs_le.mpr ⟨by linarith, hhigh.trans (by norm_num)⟩
  have hone := stub.hasValue_add_priorityScore hasValue_one (by norm_num)
  rw [hone.lt_iff (stub.hasValue_add_priorityScore hx hsmall)]
  exact ((tellsHit_iff stub).mp h).trans_le (rounded_mono (by linarith))

variable {stub : Stub} {predicate : Predicate} {headers message : Fields} {position : ℕ}

theorem expectation_of_sequence (h : stub.sequence[position]? = some predicate) :
    ∃ predicates, stub.expectation = .ordered predicates ∧
      predicates[position]? = some predicate := by
  unfold sequence at h
  cases hexpectation : stub.expectation with
  | single =>
    rw [hexpectation] at h
    cases h
  | ordered predicates =>
    rw [hexpectation] at h
    exact ⟨predicates, rfl, h⟩

theorem acceptsBy_of_sequence (h : stub.sequence[position]? = some predicate) :
    stub.acceptsBy oracle message position = (predicate.tolerates message).evalBy oracle := by
  obtain ⟨predicates, hexpectation, hpredicate⟩ := expectation_of_sequence h
  simp only [acceptsBy, acceptsAt, hexpectation, hpredicate]

/-- A stub with ordered predicates ranks by the hits at the position and its priority. -/
theorem rankBy_of_sequence (h : stub.sequence[position]? = some predicate) :
    stub.rankBy oracle headers message position =
      (predicate.hits message).evalBy oracle + stub.priorityScore := by
  obtain ⟨predicates, hexpectation, hpredicate⟩ := expectation_of_sequence h
  simp only [rankBy, rankAt, hexpectation, hpredicate, Consult.evalBy_bind, Consult.evalBy_pure]

end Stub

/-! ## The stub that answers -/

namespace Conversation

/-- The stub that is selected comes with its rank. What ranks higher than it ranks higher than the
best one so far, and none of the others does. -/
theorem select_leads {rank : Stub → Consult Float} {stubs : List Stub}
    {best : Option (Float × Stub)} {selected : Float × Stub}
    (h : (select rank best stubs).evalBy oracle = some selected)
    (hbest : ∀ top ∈ best, top.1 = (rank top.2).evalBy oracle) :
    selected.1 = (rank selected.2).evalBy oracle ∧
      (∀ top ∈ best, ∀ score, selected.1 < score → top.1 < score) ∧
      ∀ stub ∈ stubs, ¬ selected.1 < (rank stub).evalBy oracle := by
  induction stubs generalizing best with
  | nil =>
    have hsame : selected ∈ best := h
    refine ⟨hbest selected hsame, fun top htop score hlt => ?_, fun _ hmem => nomatch hmem⟩
    obtain rfl := Option.mem_unique hsame htop
    exact hlt
  | cons stub rest ih =>
    set score := (rank stub).evalBy oracle with hscore
    rw [select, Consult.evalBy_bind, ← hscore] at h
    dsimp only at h
    split at h
    · next hbeaten =>
      -- what ranks higher than the stub ranks higher than the one that it has beaten
      obtain ⟨hrank, htop, hrest⟩ := ih h fun top htop => Option.some.inj htop ▸ hscore
      have hstub := htop (score, stub) rfl
      refine ⟨hrank, fun top hmem x hlt => ?_, List.forall_mem_cons.mpr ⟨fun hlt => ?_, hrest⟩⟩
      · have hless := of_decide_eq_true (Option.all_eq_true _ _ |>.mp hbeaten top hmem)
        exact lt_trans hless (hstub x hlt)
      · exact lt_irrefl score (hstub score hlt)
    · next hstays =>
      -- what ranks higher than the one selected would have beaten the best one so far
      obtain ⟨hrank, htop, hrest⟩ := ih h hbest
      refine ⟨hrank, htop, List.forall_mem_cons.mpr ⟨fun hlt => hstays ?_, hrest⟩⟩
      rw [Option.all_eq_true]
      exact fun top hmem => decide_eq_true (htop top hmem score hlt)

/-- **The stub that answers** is one of those that accept the message, none of which ranks higher.
If it has ordered predicates, they are what is left. -/
theorem next_leads {conversation : Conversation} {message : Fields} {position : ℕ} {turn : Turn}
    (hposition : conversation.position? = some position)
    (h : ((conversation.next message).evalBy oracle).1 = some turn) :
    let survivors := conversation.candidates.filter (Stub.acceptsBy oracle message position)
    let rank := Stub.rankBy oracle conversation.opening.headers message position
    turn.stub ∈ survivors ∧ (∀ other ∈ survivors, ¬ rank turn.stub < rank other) ∧
      (turn.stub.sequence ≠ [] →
        ((conversation.next message).evalBy oracle).2.candidates = survivors) := by
  intro survivors rank
  have hnext : (conversation.next message).evalBy oracle = _ := evalBy_next_eq hposition message
  dsimp only at hnext
  cases hbest : (select (Stub.rankAt conversation.opening.headers message position) none
      (conversation.candidates.filter (Stub.acceptsBy oracle message position))).evalBy oracle with
  | none =>
    rw [hnext, hbest] at h
    cases h
  | some best =>
    rw [hbest] at hnext
    rw [hnext] at h ⊢
    obtain rfl := Option.some.inj h
    obtain ⟨hrank, -, hleads⟩ := select_leads hbest fun _ hmem => nomatch hmem
    rw [hrank] at hleads
    refine ⟨(mem_of_select hbest).resolve_left (Option.some_ne_none best).symm, hleads, ?_⟩
    intro hordered
    dsimp only
    rw [after_eq_narrowing fun halone => hordered (List.isEmpty_iff.mp halone.2)]
    rfl

/-- **A wildcard yields.** If a stub answers whose predicate at the position wants nothing, then no
stub that is left has its priority and wants a field at the position, as long as the priority leaves
room to tell a hit from a wildcard. It does where its score is computed exactly. What is left may
want alternatives. -/
theorem wildcard_yields (oracle : Oracle) (conversation : Conversation) (message : Fields)
    {position : ℕ} (hposition : conversation.position? = some position) {turn : Turn}
    (hturn : ((conversation.next message).evalBy oracle).1 = some turn) {wildcard : Predicate}
    (hwildcard : turn.stub.sequence[position]? = some wildcard) (hempty : wildcard.isEmpty = true) :
    ∀ other ∈ ((conversation.next message).evalBy oracle).2.candidates,
      other.priority = turn.stub.priority →
        ∀ predicate, other.sequence[position]? = some predicate →
          predicate.fieldCount < 2 ^ 64 →
            (turn.stub.TellsHit → predicate.fieldCount = 0) ∧
            (10 * |turn.stub.priority.toInt| ≤ 2 ^ 53 - 10 → predicate.fieldCount = 0) := by
  intro other hother hpriority predicate hpredicate hfits
  obtain ⟨-, hleads, hleft⟩ := next_leads hposition hturn
  have hordered : turn.stub.sequence ≠ [] := by
    intro hnil
    rw [hnil] at hwildcard
    cases hwildcard
  rw [hleft hordered] at hother
  have hscore : other.priorityScore = turn.stub.priorityScore := by
    rw [Stub.priorityScore, Stub.priorityScore, hpriority]
  have haccepts : (predicate.tolerates message).evalBy oracle = true := by
    rw [← Stub.acceptsBy_of_sequence hpredicate]
    exact (List.mem_filter.mp hother).2
  have hnone : (wildcard.hits message).evalBy oracle = 1 := by
    rw [Predicate.hits, if_pos hempty, Consult.evalBy_pure]
  have htells : turn.stub.TellsHit → predicate.fieldCount = 0 := by
    intro htells
    by_contra hfields
    refine hleads other hother ?_
    rw [Stub.rankBy_of_sequence hwildcard, Stub.rankBy_of_sequence hpredicate, hscore, hnone]
    exact htells.lt_add (Predicate.hits_between haccepts hfields hfits)
  exact ⟨htells, fun hsmall => htells (Stub.tellsHit_of_le hsmall)⟩

end Conversation

/-! ## A wildcard and a pen -/

namespace Till

/-- A stub with one ordered predicate. -/
def stub (id : ℕ) (priority : Int64) (predicate : Predicate) : Stub where
  id := ⟨BitVec.ofNat 128 id⟩
  priority := priority
  expectation := .ordered [predicate]

/-- A predicate that anything satisfies. -/
def anything : Predicate where
  equalTo := some []

/-- A predicate that wants a pen. -/
def pen : Predicate where
  equalTo := some [("item", .str "pen")]

/-- A predicate that wants a pen as its one alternative. -/
def perhapsPen : Predicate where
  anyOf := [pen]

/-- A message with a pen. -/
def message : Fields := [("item", .str "pen")]

/-- A call that has just been opened. -/
def call (seed : List Stub) : Conversation where
  opening := {}
  seed := seed

/-- Of two stubs that accept the message the second answers if it ranks higher, and the first if it
does not. -/
theorem next_pair {first second : Stub} (hfirst : first.acceptsBy .standard message 0 = true)
    (hsecond : second.acceptsBy .standard message 0 = true) {leader : Stub}
    (hleader : (if first.rankBy .standard [] message 0 < second.rankBy .standard [] message 0
      then second else first) = leader) :
    ((call [first, second]).next message).evalBy .standard =
      (some ⟨leader, true⟩, { call [first, second] with
        progress := Conversation.after leader [first, second] 0 }) := by
  have hsurvivors : [first, second].filter (Stub.acceptsBy .standard message 0) =
      [first, second] := by
    refine List.filter_eq_self.mpr ?_
    simp only [List.forall_mem_cons, List.not_mem_nil, false_imp_iff, implies_true, and_true]
    exact ⟨hfirst, hsecond⟩
  have hselect : (Conversation.select (Stub.rankAt [] message 0) none
      [first, second]).evalBy .standard = some (leader.rankBy .standard [] message 0, leader) := by
    simp only [Conversation.select, Consult.evalBy_bind, Consult.evalBy_pure, Option.all_none,
      if_true, Option.all_some, decide_eq_true_eq]
    split_ifs at hleader with h
    · rw [← hleader]
      exact if_pos h
    · rw [← hleader]
      exact if_neg h
  have hcandidates : (call [first, second]).candidates = [first, second] := rfl
  have hheaders : (call [first, second]).opening.headers = [] := rfl
  rw [Conversation.evalBy_next_eq rfl]
  dsimp only
  rw [hcandidates, hheaders, hsurvivors, hselect]
  simp only [beq_self_eq_true, Bool.or_true]

/-- A stub that wants a pen as an alternative, and one that anything satisfies. -/
def either : List Stub := [stub 1 0 perhapsPen, stub 2 0 anything]

theorem next_either :
    ((call either).next message).evalBy .standard =
      (some ⟨stub 2 0 anything, true⟩, { call either with progress := .narrowing either 0 }) := by
  refine next_pair (by decide) (by decide) (if_pos ?_)
  decide +kernel

/-- A priority that no hit changes the score of. -/
def vast : Int64 := 1152921504606846976

/-- A stub that anything satisfies, and one that wants a pen, both of a vast priority. -/
def urgent : List Stub := [stub 1 vast anything, stub 2 vast pen]

theorem next_urgent :
    ((call urgent).next message).evalBy .standard =
      (some ⟨stub 1 vast anything, true⟩,
        { call urgent with progress := .narrowing urgent 0 }) := by
  refine next_pair (by decide) (by decide) (if_neg ?_)
  decide +kernel

end Till

namespace Conversation

/-- The wildcard answers, and the other stub that is left wants no field, but an alternative. -/
theorem wildcard_yields_either :
    (Till.call Till.either).position? = some 0 ∧
    (((Till.call Till.either).next Till.message).evalBy .standard).1 =
      some ⟨Till.stub 2 0 Till.anything, true⟩ ∧
    Till.anything.isEmpty = true ∧
    Till.stub 1 0 Till.perhapsPen ∈
      (((Till.call Till.either).next Till.message).evalBy .standard).2.candidates ∧
    Till.perhapsPen.fieldCount = 0 ∧ Till.perhapsPen.isEmpty = false := by
  have hturn : (((Till.call Till.either).next Till.message).evalBy .standard).1 =
      some ⟨Till.stub 2 0 Till.anything, true⟩ := congrArg Prod.fst Till.next_either
  have hleft : Till.stub 1 0 Till.perhapsPen ∈
      (((Till.call Till.either).next Till.message).evalBy .standard).2.candidates := by
    rw [Till.next_either]
    exact List.mem_cons_self
  obtain ⟨-, hnone⟩ := wildcard_yields .standard (Till.call Till.either) Till.message rfl hturn
    rfl rfl _ hleft rfl Till.perhapsPen rfl (by decide)
  exact ⟨rfl, hturn, rfl, hleft, hnone (by decide), rfl⟩

/-- **A wildcard beats a satisfied predicate**, once that is left which wants its field as an
alternative only, though its identifier is smaller, and once priorities are vast. -/
theorem wildcard_beats_satisfied :
    ((((Till.call Till.either).next Till.message).evalBy .standard).1 =
        some ⟨Till.stub 2 0 Till.anything, true⟩ ∧
      (Till.stub 2 0 Till.anything).sequence[0]? = some Till.anything ∧
      Till.stub 1 0 Till.perhapsPen ∈
        (((Till.call Till.either).next Till.message).evalBy .standard).2.candidates ∧
      (Till.stub 1 0 Till.perhapsPen).sequence[0]? = some Till.perhapsPen ∧
      (Till.stub 1 0 Till.perhapsPen).priority = (Till.stub 2 0 Till.anything).priority) ∧
    ((((Till.call Till.urgent).next Till.message).evalBy .standard).1 =
        some ⟨Till.stub 1 Till.vast Till.anything, true⟩ ∧
      (Till.stub 1 Till.vast Till.anything).sequence[0]? = some Till.anything ∧
      Till.stub 2 Till.vast Till.pen ∈
        (((Till.call Till.urgent).next Till.message).evalBy .standard).2.candidates ∧
      (Till.stub 2 Till.vast Till.pen).sequence[0]? = some Till.pen ∧
      (Till.stub 2 Till.vast Till.pen).priority = (Till.stub 1 Till.vast Till.anything).priority) ∧
    Till.anything.isEmpty = true ∧ Till.perhapsPen.isEmpty = false ∧ Till.pen.isEmpty = false := by
  rw [Till.next_either, Till.next_urgent]
  refine ⟨⟨rfl, rfl, List.mem_cons_self, rfl, rfl⟩, ⟨rfl, rfl, ?_, rfl, rfl⟩, rfl, rfl, rfl⟩
  exact List.mem_cons_of_mem _ List.mem_cons_self

end Conversation

end Understudy
