import Understudy.Proofs.Predicate.Satisfaction
import Understudy.Proofs.Search.Selection

/-!
# Predicates that declare nothing

An ordered predicate should declare something, be it a map with no fields in it, which anything
satisfies. Where some message holds something, each predicate is asked for what it wants, and one
that declares nothing refuses the call. Where no message does, it is only asked that no predicate
wants anything and that one of them declares something: so a predicate that declares nothing passes
with one that declares an empty map beside it.

## Main definitions

* `Predicate.IsBlank`: nothing is declared, not even an empty map

## Main results

* `Sequence.answers_iff_of_allEmpty`: when ordered predicates answer messages that hold nothing
* `Sequence.not_answers_of_isBlank`: with a blank one among them they answer no other messages
* `Stub.answersBy_iff_of_isBlank`: the queries that a stub with a blank predicate answers
-/

namespace Understudy

/-! ## Blank predicates -/

namespace Predicate

variable {predicate : Predicate}

/-- Nothing is declared: there is no map, not even an empty one, and there are no alternatives. -/
def IsBlank (predicate : Predicate) : Prop :=
  predicate.declares = false ∧ predicate.anyOf = []

instance (predicate : Predicate) : Decidable predicate.IsBlank :=
  decidable_of_iff (predicate.declares = false ∧ predicate.anyOf.isEmpty = true)
    (and_congr_right fun _ => List.isEmpty_iff)

/-- What declares nothing wants nothing. -/
theorem IsBlank.isEmpty_eq_true (h : predicate.IsBlank) : predicate.isEmpty = true := by
  obtain ⟨anyOrder, equalTo, containing, matching, anyOf⟩ := predicate
  obtain ⟨hdeclares, rfl⟩ := h
  simp only [declares, Bool.or_eq_false_iff, Option.isSome_eq_false_iff, Option.isNone_iff_eq_none]
    at hdeclares
  obtain ⟨⟨rfl, rfl⟩, rfl⟩ := hdeclares
  rfl

theorem not_isBlank_iff :
    ¬ predicate.IsBlank ↔ (predicate.declares || !predicate.anyOf.isEmpty) = true := by
  rw [IsBlank, not_and_or, Bool.not_eq_false, Bool.or_eq_true, Bool.not_eq_true',
    List.isEmpty_eq_false_iff]

end Predicate

/-! ## Ordered predicates -/

namespace Sequence

variable {oracle : Oracle} {predicates : List Predicate} {messages : List Fields}

theorem any_declares_iff :
    (predicates.any fun predicate => predicate.declares || !predicate.anyOf.isEmpty) = true ↔
      ∃ predicate ∈ predicates, ¬ predicate.IsBlank := by
  simp only [List.any_eq_true, Predicate.not_isBlank_iff]

/-- **Messages that hold nothing** are answered if nothing is wanted and something is declared. -/
theorem answers_iff_of_allEmpty (hempty : allEmpty messages = true) :
    (answers predicates messages).evalBy oracle = true ↔
      (∀ predicate ∈ predicates, predicate.isEmpty = true) ∧
        ∃ predicate ∈ predicates, ¬ predicate.IsBlank := by
  rw [← any_declares_iff]
  unfold answers
  cases predicates.any fun predicate => predicate.declares || !predicate.anyOf.isEmpty with
  | false => simp
  | true => simp [hempty]

/-- **Other messages** are not answered where a predicate is blank. -/
theorem not_answers_of_isBlank {blank : Predicate} (hmem : blank ∈ predicates)
    (hblank : blank.IsBlank) (hheld : ¬ allEmpty messages = true) :
    ¬ (answers predicates messages).evalBy oracle = true := by
  intro h
  unfold answers at h
  split at h
  · cases h
  · next hdeclares =>
    rw [Bool.not_eq_true', Bool.not_eq_false, any_declares_iff] at hdeclares
    split at h
    · -- one predicate alone is the blank one, and then none declares anything
      obtain ⟨predicate, hdeclaring, hsome⟩ := hdeclares
      rw [List.mem_singleton.mp hdeclaring, ← List.mem_singleton.mp hmem] at hsome
      exact hsome hblank
    · -- several predicates have to want something each
      obtain ⟨-, hforall⟩ := evalBy_accepts_iff.mp h
      obtain ⟨hwanting, -⟩ := (List.forall₂_and_left _ _).mp hforall
      exact Bool.false_ne_true ((hwanting blank hmem).symm.trans hblank.isEmpty_eq_true)

end Sequence

/-! ## Stubs -/

namespace Stub

/-- **A stub with a blank predicate** among its ordered ones answers a query only if no message
holds anything. Then it does if it accepts the headers, none of its predicates wants anything and
one of them is not blank. -/
theorem answersBy_iff_of_isBlank (oracle : Oracle) {stub : Stub} {predicates : List Predicate}
    (hordered : stub.expectation = .ordered predicates)
    (hblank : ∃ predicate ∈ predicates, predicate.IsBlank) (query : Query) :
    stub.answersBy oracle query = true ↔
      (stub.headers.accepts query.headers).evalBy oracle = true ∧
        (∀ message ∈ query.messages, message = []) ∧
        (∀ predicate ∈ predicates, predicate.isEmpty = true) ∧
          ∃ predicate ∈ predicates, ¬ predicate.IsBlank := by
  have hnothing : allEmpty query.messages = true ↔ ∀ message ∈ query.messages, message = [] := by
    simp only [allEmpty, List.all_eq_true, List.isEmpty_iff]
  rw [answersBy_iff, hordered, ← hnothing]
  refine and_congr_right fun _ => ?_
  by_cases hempty : allEmpty query.messages = true
  · rw [and_iff_right hempty]
    exact Sequence.answers_iff_of_allEmpty hempty
  · obtain ⟨blank, hmem, hblank⟩ := hblank
    exact iff_of_false (Sequence.not_answers_of_isBlank hmem hblank hempty)
      fun h => hempty h.1

end Stub

/-! ## A stub that is half blank -/

namespace Doorbell

/-- A predicate that anything satisfies. -/
def anything : Predicate where
  equalTo := some []

/-- A predicate that declares nothing, though it says how arrays compare. -/
def blank : Predicate where
  anyOrder := true

/-- A stub for two messages, of which it wants nothing. -/
def stub : Stub where
  expectation := .ordered [anything, blank]

/-- A call whose second message holds something. -/
def query : Query where
  messages := [[], [("item", .str "pen")]]

end Doorbell

namespace Stub

/-- The stub does not answer a call with a message that holds something, and answers one without. -/
theorem answersBy_iff_of_isBlank_doorbell :
    Doorbell.stub.expectation = .ordered [Doorbell.anything, Doorbell.blank] ∧
      Doorbell.blank.IsBlank ∧
      ¬ Doorbell.stub.answersBy .standard Doorbell.query = true ∧
      Doorbell.stub.answersBy .standard { messages := [[], []] } = true := by
  have hblank : ∃ predicate ∈ [Doorbell.anything, Doorbell.blank], predicate.IsBlank :=
    ⟨Doorbell.blank, by simp, by decide⟩
  have hanswers := @answersBy_iff_of_isBlank .standard Doorbell.stub _ rfl hblank
  refine ⟨rfl, by decide, fun h => ?_, (hanswers _).mpr (by decide)⟩
  obtain ⟨-, hmessages, -⟩ := (hanswers Doorbell.query).mp h
  exact absurd (hmessages [("item", .str "pen")] (by simp [Doorbell.query])) (by simp)

/-- **A blank predicate is passed over** where no message holds anything: the stub answers a call
without messages, and calls with one or two that are empty. -/
theorem blank_passed_over :
    Doorbell.stub.expectation = .ordered [Doorbell.anything, Doorbell.blank] ∧
      Doorbell.blank.declares = false ∧ Doorbell.blank.anyOf = [] ∧
      Doorbell.stub.answersBy .standard {} = true ∧
      Doorbell.stub.answersBy .standard { messages := [[]] } = true ∧
      Doorbell.stub.answersBy .standard { messages := [[], []] } = true := by
  refine ⟨rfl, rfl, rfl, ?_, ?_, ?_⟩ <;> decide

end Stub

end Understudy
