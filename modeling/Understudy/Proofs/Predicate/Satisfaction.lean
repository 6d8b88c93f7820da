import Mathlib
import Understudy.Proofs.Memo.Transparency
import Understudy.Search.Match
import Understudy.Search.Tolerant

/-!
# What satisfies a predicate

A map of wanted fields holds when each of them is found with a value that passes the test of the
map. A message satisfies a predicate when the three maps hold and, if there are alternatives, it
satisfies one of them. Queries and calls differ only in how a field is found: for a query under its
own key, and in a call under either spelling of it. Of the way to find fields only that counts which
wanted fields it finds, at whatever depth of alternatives they are wanted. So what satisfies a
predicate for a query does so in a call, and it has every wanted field.

## Main definitions

* `holds`, `Predicate.mapsHold`: maps of wanted fields hold under a way to find fields
* `Predicate.Wants`: the keys that a predicate wants, those of alternatives counted
* `Predicate.Satisfied`: a predicate is satisfied under a way to find fields

## Main results

* `Predicate.evalBy_accepts_iff`, `Predicate.evalBy_tolerates_iff`: both ways to satisfy a predicate
* `Predicate.Satisfied.mono`: what finds more of the wanted fields satisfies as much
* `Predicate.evalBy_tolerates_of_accepts`: what satisfies a predicate does so under either spelling
* `Predicate.sharedFields_eq_fieldCount`: what satisfies a predicate has all wanted fields
* `Sequence.evalBy_accepts_iff`: messages that ordered predicates accept, one for each predicate
* `Sequence.forall₂_of_answers`: messages that they answer, one for each predicate
-/

namespace Understudy

/-! ## Maps of wanted fields -/

/-- Whether each wanted field is found with a value that passes a test. -/
def holds (find? : String → Option Json) (test : Json → Json → Bool) (want : Fields) : Bool :=
  want.all fun entry => (find? entry.1).any (test entry.2)

section Maps

variable {find? find?' : String → Option Json} {test : Json → Json → Bool} {want : Fields}

/-- What holds still does if more of the wanted fields are found. -/
theorem holds_mono (hfind : ∀ entry ∈ want, ∀ value, find? entry.1 = some value →
      find?' entry.1 = some value)
    (h : holds find? test want = true) : holds find?' test want = true := by
  rw [holds, List.all_eq_true] at h ⊢
  intro entry hmem
  obtain ⟨got, hgot, htest⟩ := (Option.any_eq_true _ _).mp (h entry hmem)
  exact (Option.any_eq_true _ _).mpr ⟨got, hfind entry hmem got hgot, htest⟩

/-- What holds under a test does so under one that lets pass all that the first did. -/
theorem holds_imp {test' : Json → Json → Bool}
    (htest : ∀ entry ∈ want, ∀ got, test entry.2 got = true → test' entry.2 got = true)
    (h : holds find? test want = true) : holds find? test' want = true := by
  rw [holds, List.all_eq_true] at h ⊢
  intro entry hmem
  obtain ⟨got, hgot, hpass⟩ := (Option.any_eq_true _ _).mp (h entry hmem)
  exact (Option.any_eq_true _ _).mpr ⟨got, hgot, htest entry hmem got hpass⟩

/-- Each wanted field is found. -/
theorem isSome_of_holds (h : holds find? test want = true) {entry : String × Json}
    (hmem : entry ∈ want) : (find? entry.1).isSome = true := by
  obtain ⟨got, hgot, -⟩ := (Option.any_eq_true _ _).mp (List.all_eq_true.mp h entry hmem)
  rw [hgot]
  rfl

end Maps

theorem Equality.fields_eq_holds (anyOrder : Bool) (want got : Fields) :
    Equality.fields anyOrder want got =
      holds (fun key => got.find? key) (Equality.value anyOrder) want := by
  induction want with
  | nil => rfl
  | cons entry rest ih => rw [Equality.fields, ih, holds, holds, List.all_cons]

theorem Containment.fields_eq_holds (want got : Fields) :
    Containment.fields want got = holds (fun key => got.find? key) Containment.value want := by
  induction want with
  | nil => rfl
  | cons entry rest ih => rw [Containment.fields, ih, holds, holds, List.all_cons]

theorem Matching.evalBy_fields (oracle : Oracle) (want got : Fields) :
    (Matching.fields want got).evalBy oracle =
      holds (fun key => got.find? key)
        (fun want got => (Matching.value want got).evalBy oracle) want := by
  induction want with
  | nil => rfl
  | cons entry rest ih =>
    rw [Matching.fields, holds, List.all_cons]
    cases hgot : got.find? entry.1 with
    | none => simp
    | some value =>
      simp only [Consult.evalBy_bind, Consult.evalBy_ite, Consult.evalBy_pure, ih, holds,
        Option.any_some]
      cases (Matching.value entry.2 value).evalBy oracle <;> rfl

/-! ## Predicates -/

namespace Predicate

/-- Whether the three maps of a predicate hold, as an oracle has it. -/
def mapsHold (oracle : Oracle) (find? : String → Option Json) (predicate : Predicate) : Bool :=
  predicate.equalTo.all (holds find? (Equality.value predicate.anyOrder)) &&
    predicate.containing.all (holds find? Containment.value) &&
      predicate.matching.all
        (holds find? fun want got => (Matching.value want got).evalBy oracle)

variable {oracle : Oracle} {predicate : Predicate} {message : Fields}

theorem mapsHold_mono {find? find?' : String → Option Json}
    (hfind : ∀ want ∈ predicate.maps, ∀ entry ∈ want, ∀ value, find? entry.1 = some value →
      find?' entry.1 = some value)
    (h : predicate.mapsHold oracle find? = true) : predicate.mapsHold oracle find?' = true := by
  simp only [mapsHold, Bool.and_eq_true, Option.all_eq_true] at h ⊢
  simp only [maps, List.mem_append, Option.mem_toList] at hfind
  obtain ⟨⟨hequal, hcontained⟩, hmatched⟩ := h
  exact ⟨⟨fun want hw => holds_mono (hfind want (.inl (.inl hw))) (hequal want hw),
    fun want hw => holds_mono (hfind want (.inl (.inr hw))) (hcontained want hw)⟩,
    fun want hw => holds_mono (hfind want (.inr hw)) (hmatched want hw)⟩

theorem evalBy_anyAccepts (predicates : List Predicate) :
    (anyAccepts predicates message).evalBy oracle =
      predicates.any fun predicate => (predicate.accepts message).evalBy oracle := by
  induction predicates with
  | nil => rfl
  | cons predicate rest ih =>
    simp only [anyAccepts, Consult.evalBy_bind, Consult.evalBy_ite, Consult.evalBy_pure, ih,
      List.any_cons]
    cases (predicate.accepts message).evalBy oracle <;> rfl

theorem evalBy_anyTolerates (predicates : List Predicate) :
    (anyTolerates predicates message).evalBy oracle =
      predicates.any fun predicate => (predicate.tolerates message).evalBy oracle := by
  induction predicates with
  | nil => rfl
  | cons predicate rest ih =>
    simp only [anyTolerates, Consult.evalBy_bind, Consult.evalBy_ite, Consult.evalBy_pure, ih,
      List.any_cons]
    cases (predicate.tolerates message).evalBy oracle <;> rfl

/-- Maps that hold, and alternatives if there are any. -/
theorem ite_alternatives_iff {maps : Bool} {alternatives : List Predicate}
    {test : Predicate → Bool} :
    (if maps then if alternatives.isEmpty then true else alternatives.any test else false) = true ↔
      maps = true ∧ (alternatives = [] ∨ ∃ alternative ∈ alternatives, test alternative = true) := by
  cases maps <;> cases alternatives <;> simp

/-- **Satisfying a predicate** with the fields of a message under their own keys. -/
theorem evalBy_accepts_iff :
    (predicate.accepts message).evalBy oracle = true ↔
      predicate.mapsHold oracle (fun key => message.find? key) = true ∧
        (predicate.anyOf = [] ∨ ∃ alternative ∈ predicate.anyOf,
          (alternative.accepts message).evalBy oracle = true) := by
  obtain ⟨anyOrder, equalTo, containing, matching, anyOf⟩ := predicate
  have hmatched : (patternsHold matching message).evalBy oracle =
      matching.all (holds (fun key => message.find? key)
        fun want got => (Matching.value want got).evalBy oracle) := by
    cases matching with
    | none => rfl
    | some want => exact Matching.evalBy_fields oracle want message
  simp only [accepts, Consult.evalBy_bind, Consult.evalBy_ite, Consult.evalBy_pure, hmatched,
    Equality.fields_eq_holds, Containment.fields_eq_holds, evalBy_anyAccepts]
  exact ite_alternatives_iff

theorem evalBy_all_tolerantTest (test : Json → Json → Consult Bool) (want : Option Fields) :
    (Consult.all (tolerantTest message test) (want.getD [])).evalBy oracle =
      want.all (holds (tolerant? message) fun want got => (test want got).evalBy oracle) := by
  have htest : ∀ entry : String × Json, (tolerantTest message test entry).evalBy oracle =
      (tolerant? message entry.1).any fun got => (test entry.2 got).evalBy oracle := by
    intro entry
    unfold tolerantTest
    cases tolerant? message entry.1 <;> rfl
  simp only [Consult.evalBy_all, htest]
  cases want <;> rfl

/-- The maps of a predicate that wants nothing hold, and nothing is asked for. -/
theorem mapsTolerate_of_isEmpty (h : predicate.isEmpty = true) :
    mapsTolerate predicate.anyOrder predicate.equalTo predicate.containing predicate.matching
      message = return true := by
  rw [isEmpty, Bool.and_eq_true, List.all_eq_true] at h
  have hgetD : ∀ map : Option Fields, (∀ want ∈ map, want ∈ predicate.maps) → map.getD [] = [] := by
    intro map hmaps
    cases map with
    | none => rfl
    | some want => exact List.isEmpty_iff.mp (h.1 want (hmaps want rfl))
  rw [mapsTolerate, hgetD _ fun want hwant => ?_, hgetD _ fun want hwant => ?_,
    hgetD _ fun want hwant => ?_]
  · rfl
  all_goals simp [maps, Option.mem_def.mp hwant]

/-- **Satisfying a predicate** takes the three maps and then the alternatives, if there are any. One
that wants nothing is no exception. -/
theorem tolerates_eq (predicate : Predicate) (message : Fields) :
    predicate.tolerates message = (do
      if ← mapsTolerate predicate.anyOrder predicate.equalTo predicate.containing
          predicate.matching message then
        if predicate.anyOf.isEmpty then return true else anyTolerates predicate.anyOf message
      else return false) := by
  cases hempty : predicate.isEmpty with
  | true =>
    have hnone : predicate.anyOf.isEmpty = true := (Bool.and_eq_true _ _ ▸ hempty).2
    rw [mapsTolerate_of_isEmpty hempty, hnone]
    obtain ⟨anyOrder, equalTo, containing, matching, anyOf⟩ := predicate
    rw [tolerates, if_pos hempty]
    rfl
  | false =>
    obtain ⟨anyOrder, equalTo, containing, matching, anyOf⟩ := predicate
    rw [tolerates, if_neg (Bool.eq_false_iff.mp hempty)]

/-- **Satisfying a predicate** with the fields of a message under either spelling. -/
theorem evalBy_tolerates_iff :
    (predicate.tolerates message).evalBy oracle = true ↔
      predicate.mapsHold oracle (tolerant? message) = true ∧
        (predicate.anyOf = [] ∨ ∃ alternative ∈ predicate.anyOf,
          (alternative.tolerates message).evalBy oracle = true) := by
  have hmaps : (mapsTolerate predicate.anyOrder predicate.equalTo predicate.containing
      predicate.matching message).evalBy oracle =
        mapsHold oracle (tolerant? message) predicate := by
    simp only [mapsTolerate, Consult.evalBy_bind, Consult.evalBy_ite, Consult.evalBy_pure,
      evalBy_all_tolerantTest, mapsHold, equalTest, containedTest, Bool.if_false_right,
      Bool.decide_eq_true, Bool.and_assoc]
  rw [tolerates_eq]
  simp only [Consult.evalBy_bind, Consult.evalBy_ite, Consult.evalBy_pure, hmaps,
    evalBy_anyTolerates]
  exact ite_alternatives_iff

/-- A predicate wants a key, itself or in one of its alternatives. -/
inductive Wants (key : String) : Predicate → Prop
  | field {predicate : Predicate} {want : Fields} {value : Json} :
    want ∈ predicate.maps → (key, value) ∈ want → predicate.Wants key
  | alternative {predicate alternative : Predicate} :
    alternative ∈ predicate.anyOf → alternative.Wants key → predicate.Wants key

/-- Induction on a predicate: what passes from the alternatives to the predicate is true of all. -/
@[elab_as_elim]
theorem induction {motive : Predicate → Prop}
    (step : ∀ predicate : Predicate,
      (∀ alternative ∈ predicate.anyOf, motive alternative) → motive predicate)
    (predicate : Predicate) : motive predicate := by
  apply step predicate
  intro alternative hmem
  exact induction step alternative
termination_by predicate
decreasing_by
  have hlt := List.sizeOf_lt_of_mem hmem
  cases predicate
  simp only [Predicate.mk.sizeOf_spec] at hlt ⊢
  omega

/-- A predicate is satisfied under a way to find fields: its maps hold, and so does one of its
alternatives if there are any. -/
inductive Satisfied (oracle : Oracle) (find? : String → Option Json) : Predicate → Prop
  | maps {predicate : Predicate} :
    predicate.mapsHold oracle find? = true → predicate.anyOf = [] → Satisfied oracle find? predicate
  | alternative {predicate alternative : Predicate} :
    predicate.mapsHold oracle find? = true → alternative ∈ predicate.anyOf →
      Satisfied oracle find? alternative → Satisfied oracle find? predicate

/-- What unfolds as satisfying a predicate does is satisfying it. -/
theorem satisfied_iff {find? : String → Option Json} {test : Predicate → Bool}
    (htest : ∀ predicate : Predicate, test predicate = true ↔
      predicate.mapsHold oracle find? = true ∧
        (predicate.anyOf = [] ∨ ∃ alternative ∈ predicate.anyOf, test alternative = true))
    (predicate : Predicate) : predicate.Satisfied oracle find? ↔ test predicate = true := by
  constructor
  · intro h
    induction h with
    | maps hmaps hnone => exact (htest _).mpr ⟨hmaps, .inl hnone⟩
    | alternative hmaps hmem _ ih => exact (htest _).mpr ⟨hmaps, .inr ⟨_, hmem, ih⟩⟩
  · intro h
    induction predicate using Predicate.induction with
    | step predicate ih =>
      obtain ⟨hmaps, hnone | ⟨alternative, hmem, htrue⟩⟩ := (htest predicate).mp h
      · exact .maps hmaps hnone
      · exact .alternative hmaps hmem (ih alternative hmem htrue)

theorem satisfied_iff_accepts : predicate.Satisfied oracle (fun key => message.find? key) ↔
    (predicate.accepts message).evalBy oracle = true :=
  satisfied_iff (fun _ => evalBy_accepts_iff) predicate

theorem satisfied_iff_tolerates : predicate.Satisfied oracle (tolerant? message) ↔
    (predicate.tolerates message).evalBy oracle = true :=
  satisfied_iff (fun _ => evalBy_tolerates_iff) predicate

/-- **A predicate that is satisfied** remains so under any way to find fields that finds the wanted
ones that have been found, in the predicate and in its alternatives at any depth. -/
theorem Satisfied.mono {find? find?' : String → Option Json}
    (h : predicate.Satisfied oracle find?)
    (hfind : ∀ key, predicate.Wants key → ∀ value, find? key = some value →
      find?' key = some value) : predicate.Satisfied oracle find?' := by
  induction h with
  | maps hmaps hnone =>
    exact .maps (mapsHold_mono (fun _ hwant _ hmem => hfind _ (.field hwant hmem)) hmaps) hnone
  | alternative hmaps hmem _ ih =>
    have hmaps' := mapsHold_mono (fun _ hwant _ hmem => hfind _ (.field hwant hmem)) hmaps
    exact .alternative hmaps' hmem (ih fun key hwants => hfind key (.alternative hmem hwants))

/-- A field under its own key is found under either spelling. -/
theorem tolerant?_of_find? {key : String} {value : Json} (h : message.find? key = some value) :
    tolerant? message key = some value := by
  rw [tolerant?, h, Option.some_or]

/-- **What satisfies a predicate** does so under either spelling of the keys. -/
theorem evalBy_tolerates_of_accepts {message : Fields} (predicate : Predicate)
    (h : (predicate.accepts message).evalBy oracle = true) :
    (predicate.tolerates message).evalBy oracle = true :=
  satisfied_iff_tolerates.mp
    ((satisfied_iff_accepts.mpr h).mono fun _ _ _ => tolerant?_of_find?)

/-- A message has every wanted field of a predicate that it satisfies. -/
theorem has_of_accepts (h : (predicate.accepts message).evalBy oracle = true) {want : Fields}
    (hwant : want ∈ predicate.maps) {entry : String × Json} (hmem : entry ∈ want) :
    message.has entry.1 = true := by
  obtain ⟨hmaps, -⟩ := evalBy_accepts_iff.mp h
  simp only [mapsHold, Bool.and_eq_true, Option.all_eq_true] at hmaps
  simp only [maps, List.mem_append, Option.mem_toList] at hwant
  obtain ⟨⟨hequal, hcontained⟩, hmatched⟩ := hmaps
  rcases hwant with (hwant | hwant) | hwant
  · exact isSome_of_holds (hequal want hwant) hmem
  · exact isSome_of_holds (hcontained want hwant) hmem
  · exact isSome_of_holds (hmatched want hwant) hmem

theorem fieldCount_eq_length (predicate : Predicate) :
    predicate.fieldCount = (predicate.maps.flatMap fun want => want.map Prod.fst).length := by
  rw [fieldCount, ← List.sum_eq_foldl, List.length_flatMap]
  simp only [List.length_map]

/-- **What satisfies a predicate** has as many wanted fields as there are. -/
theorem sharedFields_eq_fieldCount (h : (predicate.accepts message).evalBy oracle = true) :
    predicate.sharedFields message = predicate.fieldCount := by
  have hall : ∀ key ∈ predicate.maps.flatMap fun want => want.map Prod.fst,
      message.has key = true := by
    intro key hkey
    obtain ⟨want, hwant, hkey⟩ := List.mem_flatMap.mp hkey
    obtain ⟨entry, hmem, rfl⟩ := List.mem_map.mp hkey
    exact has_of_accepts h hwant hmem
  rw [sharedFields, List.filter_eq_self.mpr hall, fieldCount_eq_length]

/-- A predicate that wants nothing wants no fields. -/
theorem fieldCount_eq_zero (h : predicate.isEmpty = true) : predicate.fieldCount = 0 := by
  rw [isEmpty, Bool.and_eq_true, List.all_eq_true] at h
  rw [fieldCount, ← List.sum_eq_foldl, List.sum_eq_zero_iff]
  intro count hcount
  obtain ⟨want, hwant, rfl⟩ := List.mem_map.mp hcount
  exact List.isEmpty_iff_length_eq_zero.mp (h.1 want hwant)

/-- A message has at most the fields that are wanted. -/
theorem sharedFields_le_fieldCount (predicate : Predicate) (message : Fields) :
    predicate.sharedFields message ≤ predicate.fieldCount := by
  rw [fieldCount_eq_length]
  exact List.length_filter_le _ _

end Predicate

/-! ## Ordered predicates -/

theorem effective_prefix (messages : List Fields) : effective messages <+: messages := by
  unfold effective
  split
  · exact List.dropLast_prefix messages
  · exact List.prefix_rfl

namespace Sequence

variable {oracle : Oracle} {predicates : List Predicate} {messages : List Fields}

/-- Where no message holds anything, only predicates that want nothing answer. -/
theorem isEmpty_of_answers (h : (answers predicates messages).evalBy oracle = true)
    (hmessages : allEmpty messages = true) : ∀ predicate ∈ predicates, predicate.isEmpty = true := by
  unfold answers at h
  split at h
  · cases h
  · exact List.all_eq_true.mp h

/-- **Ordered predicates accept messages** of which some count, one for each predicate, where each
predicate wants something and its message satisfies it. -/
theorem evalBy_accepts_iff :
    (accepts predicates messages).evalBy oracle = true ↔
      effective messages ≠ [] ∧
        List.Forall₂ (fun predicate message => predicate.isEmpty = false ∧
          (predicate.accepts message).evalBy oracle = true) predicates (effective messages) := by
  have hsatisfies : ∀ (predicate : Predicate) (message : Fields),
      (satisfies predicate message).evalBy oracle = true ↔
        predicate.isEmpty = false ∧ (predicate.accepts message).evalBy oracle = true := by
    intro predicate message
    rw [satisfies, Consult.evalBy_ite]
    cases predicate.isEmpty <;> simp
  rw [accepts, Consult.evalBy_ite, Consult.evalBy_pure, Consult.evalBy_all]
  split
  · next hlength =>
    rw [Bool.or_eq_true, bne_iff_ne, List.isEmpty_iff] at hlength
    refine iff_of_false Bool.false_ne_true ?_
    rintro ⟨hsome, hforall⟩
    exact hlength.elim (fun hne => hne hforall.length_eq.symm) hsome
  · next hlength =>
    rw [Bool.or_eq_true, bne_iff_ne, List.isEmpty_iff, not_or, not_not] at hlength
    rw [and_iff_right hlength.2, List.forall₂_iff_zip, and_iff_right hlength.1.symm,
      List.all_eq_true]
    simp only [hsatisfies, Prod.forall]

/-- **Messages that ordered predicates answer**, one of them not empty: there is one message that
counts for each predicate, and satisfies it. -/
theorem forall₂_of_answers (h : (answers predicates messages).evalBy oracle = true)
    (hmessages : ¬ allEmpty messages = true) :
    List.Forall₂ (fun predicate message => (predicate.accepts message).evalBy oracle = true)
      predicates (effective messages) := by
  unfold answers at h
  split at h
  · cases h
  · split at h
    · next predicate message hmessage _ =>
      rw [hmessage]
      exact .cons h .nil
    · exact (evalBy_accepts_iff.mp h).2.imp fun _ _ => And.right

end Sequence

end Understudy
