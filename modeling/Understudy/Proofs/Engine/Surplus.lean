import Understudy.Proofs.Engine.Specificity

/-!
# What is not asked for

A stub asks for fields that have to be there, and for none that must not be. So a query that a stub
answers may carry more fields in its messages and more headers: the stub still answers it, and is as
specific as before. Sizes do not stand in the way. Headers that were there are still some, a message
that held something still does, and there are as many messages as before, the last of them not empty
and so not left out.

## Main definitions

* `Table.Within`: a table has all entries of another one
* `Query.Within`: a query has all headers, and in each message all fields, of another one

## Main results

* `Sequence.answers_iff`: when ordered predicates answer messages none of which is empty
* `Stub.surplus_ignored`: a stub answers a query with more fields, and is as specific as before
-/

namespace Understudy

/-! ## Tables with more entries -/

namespace Table

variable {κ α : Type} [DecidableEq κ] {table table' more : Table κ α}

/-- What is found in a table is found in another one, be there more in that. -/
def Within (table more : Table κ α) : Prop :=
  ∀ key value, table.find? key = some value → more.find? key = some value

theorem Within.refl (table : Table κ α) : table.Within table :=
  fun _ _ h => h

theorem Within.trans (h : table.Within table') (h' : table'.Within more) : table.Within more :=
  fun key value hvalue => h' key value (h key value hvalue)

/-- A table with something in it is within no empty one. -/
theorem Within.ne_nil (h : table.Within more) (hsome : table ≠ []) : more ≠ [] := by
  rintro rfl
  obtain ⟨⟨key, value⟩, rest, rfl⟩ := List.exists_cons_of_ne_nil hsome
  have hnone := h key value (by rw [find?_cons, if_pos rfl])
  cases hnone

/-- A new key leaves the entries as they are. -/
theorem within_insert [LT κ] [DecidableLT κ] {key : κ} (h : table.find? key = none) (value : α) :
    table.Within (table.insert key value) := by
  intro other found hfound
  rw [find?_insert, if_neg, hfound]
  rintro rfl
  rw [h] at hfound
  cases hfound

/-- Where no table is empty, none of those with more entries is. -/
theorem full_of_within {tables mores : List (Table κ α)} (h : List.Forall₂ Within tables mores)
    (hfull : ∀ table ∈ tables, table ≠ []) : ∀ more ∈ mores, more ≠ [] := by
  induction h with
  | nil => exact fun _ hmem => nomatch hmem
  | cons hfirst _ ih =>
    obtain ⟨htable, hrest⟩ := List.forall_mem_cons.mp hfull
    exact List.forall_mem_cons.mpr ⟨hfirst.ne_nil htable, ih hrest⟩

end Table

/-- A query has all headers of another one, and as many messages, each with all fields of that
one's. -/
structure Query.Within (query more : Query) : Prop where
  headers : query.headers.Within more.headers
  messages : List.Forall₂ Table.Within query.messages more.messages

section Surplus

variable {oracle : Oracle}

/-! ## Predicates -/

/-- A message with more fields satisfies as much. -/
theorem Predicate.accepts_of_within {predicate : Predicate} {message more : Fields}
    (hwithin : message.Within more) (h : (predicate.accepts message).evalBy oracle = true) :
    (predicate.accepts more).evalBy oracle = true :=
  satisfied_iff_accepts.mp ((satisfied_iff_accepts.mpr h).mono fun key _ => hwithin key)

namespace HeaderPredicate

variable {predicate : HeaderPredicate} {headers more : Fields}

/-- Headers satisfy a predicate that wants none, or there are some and each of the maps holds. -/
theorem evalBy_accepts_iff :
    (predicate.accepts headers).evalBy oracle = true ↔
      predicate.isEmpty = true ∨ headers ≠ [] ∧
        holds (fun key => headers.find? key) (Equality.value false) predicate.equalTo = true ∧
        holds (fun key => headers.find? key) Containment.value predicate.containing = true ∧
        holds (fun key => headers.find? key)
          (fun want got => (Matching.value want got).evalBy oracle) predicate.matching = true := by
  simp only [accepts, Consult.evalBy_ite, Consult.evalBy_pure, Equality.fields_eq_holds,
    Containment.fields_eq_holds, Matching.evalBy_fields]
  cases predicate.isEmpty with
  | true => simp
  | false => cases headers <;> simp [and_assoc]

/-- More headers satisfy as much. -/
theorem accepts_of_within (hwithin : headers.Within more)
    (h : (predicate.accepts headers).evalBy oracle = true) :
    (predicate.accepts more).evalBy oracle = true := by
  -- headers that are wanted are refused where there are none, but there are no fewer than before
  rcases evalBy_accepts_iff.mp h with hempty | ⟨hsome, hequal, hcontained, hmatched⟩
  · exact evalBy_accepts_iff.mpr (.inl hempty)
  · refine evalBy_accepts_iff.mpr (.inr ⟨hwithin.ne_nil hsome, ?_, ?_, ?_⟩)
    · exact holds_mono (fun entry _ => hwithin entry.1) hequal
    · exact holds_mono (fun entry _ => hwithin entry.1) hcontained
    · exact holds_mono (fun entry _ => hwithin entry.1) hmatched

end HeaderPredicate

/-- A single predicate answers messages with more fields. -/
theorem Predicate.answers_of_within {predicate : Predicate} {messages more : List Fields}
    (hwithin : List.Forall₂ Table.Within messages more) (hfull : ∀ message ∈ messages, message ≠ [])
    (h : (predicate.answers messages).evalBy oracle = true) :
    (predicate.answers more).evalBy oracle = true := by
  cases hwithin with
  | nil => exact h
  | @cons message message' rest rest' hfirst hrest =>
    cases hrest with
    | cons => cases h
    | nil =>
      have hmessage := hfull message List.mem_cons_self
      rw [answers, if_neg (List.isEmpty_iff.not.mpr hmessage)] at h
      rw [answers, if_neg (List.isEmpty_iff.not.mpr (hfirst.ne_nil hmessage))]
      exact accepts_of_within hfirst h

/-! ## Ordered predicates -/

/-- Where the last message holds something, all messages count. -/
theorem effective_of_full {messages : List Fields} (hfull : ∀ message ∈ messages, message ≠ []) :
    effective messages = messages := by
  unfold effective
  split
  · next hlast => exact absurd rfl (hfull [] (List.mem_of_getLast? hlast))
  · rfl

namespace Sequence

variable {predicates : List Predicate} {messages more : List Fields}

/-- Messages with more fields satisfy ordered predicates as before. -/
theorem forall₂_of_within (hwithin : List.Forall₂ Table.Within messages more)
    (h : List.Forall₂ (fun predicate message => (predicate.accepts message).evalBy oracle = true)
      predicates messages) :
    List.Forall₂ (fun predicate message => (predicate.accepts message).evalBy oracle = true)
      predicates more := by
  induction h generalizing more with
  | nil =>
    cases hwithin
    exact .nil
  | cons haccepts _ ih =>
    cases hwithin with
    | cons hfirst hrest => exact .cons (Predicate.accepts_of_within hfirst haccepts) (ih hrest)

/-- **Ordered predicates answer messages** none of which is empty if one of them declares something
and the messages satisfy them one by one. If there are several, each has to want something. -/
theorem answers_iff (hfull : ∀ message ∈ messages, message ≠ []) (hsome : messages ≠ []) :
    (answers predicates messages).evalBy oracle = true ↔
      (predicates.any fun predicate => predicate.declares || !predicate.anyOf.isEmpty) = true ∧
        (predicates.length = 1 ∨ ∀ predicate ∈ predicates, predicate.isEmpty = false) ∧
        List.Forall₂ (fun predicate message => (predicate.accepts message).evalBy oracle = true)
          predicates messages := by
  have hheld : allEmpty messages = false := by
    obtain ⟨message, rest, rfl⟩ := List.exists_cons_of_ne_nil hsome
    have hmessage := hfull message List.mem_cons_self
    simp [allEmpty, hmessage]
  have haccepts : (accepts predicates messages).evalBy oracle = true ↔
      (∀ predicate ∈ predicates, predicate.isEmpty = false) ∧
        List.Forall₂ (fun predicate message => (predicate.accepts message).evalBy oracle = true)
          predicates messages := by
    rw [evalBy_accepts_iff, effective_of_full hfull, and_iff_right hsome, List.forall₂_and_left]
  unfold answers
  rw [hheld, effective_of_full hfull]
  cases predicates.any fun predicate => predicate.declares || !predicate.anyOf.isEmpty with
  | false => simp
  | true =>
    simp only [Bool.not_true, Bool.false_eq_true, if_false, true_and]
    -- one predicate for one message need not want anything
    split
    · simp
    · next halone =>
      rw [haccepts]
      refine and_congr_left fun hforall => (or_iff_right ?_).symm
      intro hone
      obtain ⟨predicate, rfl⟩ := List.length_eq_one_iff.mp hone
      obtain ⟨message, hmessage⟩ := List.length_eq_one_iff.mp hforall.length_eq.symm
      exact halone predicate message rfl hmessage

/-- Ordered predicates answer messages with more fields. -/
theorem answers_of_within (hwithin : List.Forall₂ Table.Within messages more)
    (hfull : ∀ message ∈ messages, message ≠ [])
    (h : (answers predicates messages).evalBy oracle = true) :
    (answers predicates more).evalBy oracle = true := by
  rcases eq_or_ne messages [] with rfl | hsome
  · -- no message takes no fields
    cases hwithin
    exact h
  · have hmoreSome : more ≠ [] := by
      rintro rfl
      exact hsome (List.forall₂_nil_right_iff.mp hwithin)
    obtain ⟨hdeclares, hwanting, hforall⟩ := (answers_iff hfull hsome).mp h
    have hmore := Table.full_of_within hwithin hfull
    refine (answers_iff hmore hmoreSome).mpr ⟨hdeclares, hwanting, ?_⟩
    exact forall₂_of_within hwithin hforall

end Sequence

/-! ## Stubs -/

/-- **What is not asked for makes no difference.** A stub that answers a query none of whose
messages is empty answers it with any more fields in the messages and any more headers too, and is
as specific as before. -/
theorem Stub.surplus_ignored {stub : Stub} {query more : Query} (hwithin : query.Within more)
    (hfull : ∀ message ∈ query.messages, message ≠ [])
    (h : stub.answersBy oracle query = true) :
    stub.answersBy oracle more = true ∧
      stub.specificity more.messages = stub.specificity query.messages := by
  have hanswers : stub.answersBy oracle more = true := by
    obtain ⟨hheaders, hmessages⟩ := answersBy_iff.mp h
    refine answersBy_iff.mpr ⟨HeaderPredicate.accepts_of_within hwithin.headers hheaders, ?_⟩
    cases hexpectation : stub.expectation with
    | single predicate =>
      rw [hexpectation] at hmessages
      exact Predicate.answers_of_within hwithin.messages hfull hmessages
    | ordered predicates =>
      rw [hexpectation] at hmessages
      exact Sequence.answers_of_within hwithin.messages hfull hmessages
  -- a stub that answers has found all the fields it wants, and they are the same ones
  refine ⟨hanswers, ?_⟩
  rw [specificity_eq_fieldCount hanswers, specificity_eq_fieldCount h]

end Surplus

/-! ## A parcel that is described at length -/

namespace Parcel

/-- A stub that wants a tenant, an item and then a size or a note. -/
def stub : Stub where
  headers := { equalTo := [("tenant", .str "north")] }
  expectation := .ordered [{ equalTo := some [("item", .str "pen")] },
    { anyOf := [{ matching := some [("size", .str "^[0-9]+$")] },
      { anyOf := [{ containing := some [("note", .str "gift")] }] }] }]

/-- The second message of a call, and the same with a weight. -/
def note : Fields := [("note", .str "a gift")]

@[inherit_doc note]
def weighed : Fields := note.insert "grams" (.int 20)

/-- A call that says no more than is wanted. -/
def query : Query where
  headers := [("tenant", .str "north")]
  messages := [[("item", .str "pen")], note]

/-- The call with one more header, and with a weight and a size of no use. -/
def described : Query where
  headers := query.headers.insert "agent" (.str "shop")
  messages := [[("item", .str "pen")], weighed.insert "size" (.str "large")]

theorem query_within : query.Within described where
  headers := by
    have hagent : query.headers.find? "agent" = none := by decide
    exact Table.within_insert hagent (.str "shop")
  messages := by
    have hgrams : note.find? "grams" = none := by decide
    have hsize : weighed.find? "size" = none := by decide
    refine .cons (.refl _) (.cons ?_ .nil)
    exact (Table.within_insert hgrams (.int 20)).trans (Table.within_insert hsize (.str "large"))

end Parcel

/-- A header comes before the wanted one, and a field that an alternative wants is there in vain. -/
theorem Stub.surplus_ignored_parcel :
    (∀ message ∈ Parcel.query.messages, message ≠ []) ∧
      Parcel.stub.answersBy .standard Parcel.query = true ∧
      Parcel.stub.answersBy .standard Parcel.described = true ∧
      Parcel.stub.specificity Parcel.described.messages =
        Parcel.stub.specificity Parcel.query.messages := by
  have hfull : ∀ message ∈ Parcel.query.messages, message ≠ [] := by decide
  have hanswers : Parcel.stub.answersBy .standard Parcel.query = true := by decide +kernel
  exact ⟨hfull, hanswers, surplus_ignored Parcel.query_within hfull hanswers⟩

-- an empty message is different: a field in it is one more that counts, and one too many
example :
    ({ expectation := .ordered [{ equalTo := some [("item", .str "pen")] }] } : Stub).answersBy
        .standard { messages := [[("item", .str "pen")], []] } = true ∧
      ({ expectation := .ordered [{ equalTo := some [("item", .str "pen")] }] } : Stub).answersBy
        .standard { messages := [[("item", .str "pen")], [("item", .str "ink")]] } = false := by
  decide

end Understudy
