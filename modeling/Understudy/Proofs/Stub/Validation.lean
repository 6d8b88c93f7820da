import Understudy.Proofs.Memo.Requests
import Understudy.Proofs.Stub.Leaves
import Understudy.Search.Conversation

/-!
# Checked patterns are those that are asked for

A stub is checked by walking through the stub, and matched by walking through it and a message
together. Where the two walks differ, the second one stops earlier: a field is missing, an array is
shorter, an alternative has held already. So a match asks for no pattern that the check has not
compiled, and the pattern that the check reports is the first one in its order that does not
compile. Which texts compile makes no difference, as long as the check and the match ask one oracle.

## Main definitions

* `Oracle.Compiles`: a text is a pattern
* `Json.HasPattern`, `Predicate.HasPattern`, `Stub.HasPattern`: a pattern stands somewhere

## Main results

* `Predicate.accepts_asksOnly`, `Predicate.tolerates_asksOnly`: a predicate asks for the patterns
  that stand in it
* `Stub.defectBy?_eq_pattern`: what is reported is the first pattern that does not compile
-/

namespace Understudy

/-- The text is a pattern. -/
def Oracle.Compiles (oracle : Oracle) (source : String) : Prop :=
  (oracle.compile? source).isSome = true

variable {oracle : Oracle}

theorem Oracle.not_compiles_iff {source : String} :
    ¬ oracle.Compiles source ↔ (oracle.compile? source).isNone = true := by
  rw [Compiles, Option.not_isSome_iff_eq_none, Option.isNone_iff_eq_none]

/-! ## Values -/

/-- A pattern stands somewhere in a value. -/
def Json.HasPattern (json : Json) (pattern : String) : Prop :=
  ∃ path, Json.LeafAt pattern path json

namespace Matching

variable {P : String → Prop} {want got : Json}

theorem items_asksOnly {wants gots : List Json}
    (h : ∀ want ∈ wants, ∀ got, (value want got).AsksOnly oracle P) :
    (items wants gots).AsksOnly oracle P := by
  induction wants generalizing gots with
  | nil => exact .pure true
  | cons want wants ih =>
    obtain ⟨hwant, hwants⟩ := List.forall_mem_cons.mp h
    cases gots with
    | nil => exact .pure true
    | cons got gots => exact .bind (hwant got) (.ite (ih hwants) (.pure false))

theorem fields_asksOnly {wants : List (String × Json)} {gots : Fields}
    (h : ∀ want ∈ wants, ∀ got, (value want.2 got).AsksOnly oracle P) :
    (fields wants gots).AsksOnly oracle P := by
  induction wants with
  | nil => exact .pure true
  | cons want wants ih =>
    obtain ⟨hwant, hwants⟩ := List.forall_mem_cons.mp h
    rw [fields]
    cases gots.find? want.1 with
    | none => exact .pure false
    | some got => exact .bind (hwant got) (.ite (ih hwants) (.pure false))

/-- **Matching a value** asks for patterns in the wanted one only. -/
theorem value_asksOnly : (value want got).AsksOnly oracle want.HasPattern := by
  induction want using Json.induction generalizing got with
  | null => exact .pure _
  | num => exact .pure _
  | bool want => cases got <;> exact .pure _
  | str pattern =>
    rw [value, plain]
    cases got.plainText? with
    | none => exact .pure false
    | some got => exact .bind (.compiled ⟨[], .here⟩) (.pure _)
  | arr wants ih =>
    cases got with
    | arr gots =>
      refine .ite (items_asksOnly fun want hmem got => ?_) (.pure false)
      refine (ih want hmem).mono fun pattern => ?_
      rintro ⟨path, hleaf⟩
      obtain ⟨i, hget⟩ := List.getElem?_of_mem hmem
      exact ⟨_, .item hget hleaf⟩
    | _ => exact .pure _
  | obj wants ih =>
    cases got with
    | obj gots =>
      refine fields_asksOnly fun want hmem got => (ih want hmem).mono fun pattern => ?_
      rintro ⟨path, hleaf⟩
      exact ⟨_, .field hmem hleaf⟩
    | _ => exact .pure _

/-- A wanted field asks for patterns of its object. -/
theorem field_asksOnly {wants : Fields} {want : String × Json} (hmem : want ∈ wants) {got : Json} :
    (value want.2 got).AsksOnly oracle (Json.obj wants).HasPattern :=
  value_asksOnly.mono fun _ ⟨_, hleaf⟩ => ⟨_, .field hmem hleaf⟩

end Matching

/-! ## Predicates -/

namespace Predicate

variable {P : String → Prop} {predicate inner : Predicate} {message : Fields} {pattern : String}

/-- A pattern stands somewhere in a predicate. -/
def HasPattern (predicate : Predicate) (pattern : String) : Prop :=
  ∃ path, LeafAt pattern path predicate

theorem HasPattern.alternative {alternative : Predicate} (hmem : alternative ∈ predicate.anyOf)
    (h : alternative.HasPattern pattern) : predicate.HasPattern pattern := by
  obtain ⟨path, hleaf⟩ := h
  obtain ⟨i, hget⟩ := List.getElem?_of_mem hmem
  exact ⟨_, .alternative hget hleaf⟩

theorem HasPattern.within (hwithin : inner.Within predicate) (h : inner.HasPattern pattern) :
    predicate.HasPattern pattern := by
  induction hwithin with
  | self => exact h
  | alternative hmem _ ih => exact .alternative hmem ih

theorem anyAccepts_asksOnly {alternatives : List Predicate}
    (h : ∀ alternative ∈ alternatives, (alternative.accepts message).AsksOnly oracle P) :
    (anyAccepts alternatives message).AsksOnly oracle P := by
  induction alternatives with
  | nil => exact .pure false
  | cons alternative rest ih =>
    obtain ⟨hfirst, hrest⟩ := List.forall_mem_cons.mp h
    exact .bind hfirst (.ite (.pure true) (ih hrest))

theorem anyTolerates_asksOnly {alternatives : List Predicate}
    (h : ∀ alternative ∈ alternatives, (alternative.tolerates message).AsksOnly oracle P) :
    (anyTolerates alternatives message).AsksOnly oracle P := by
  induction alternatives with
  | nil => exact .pure false
  | cons alternative rest ih =>
    obtain ⟨hfirst, hrest⟩ := List.forall_mem_cons.mp h
    exact .bind hfirst (.ite (.pure true) (ih hrest))

/-- **Whether a message satisfies a predicate** asks for patterns of the predicate only. -/
theorem accepts_asksOnly : (predicate.accepts message).AsksOnly oracle predicate.HasPattern := by
  induction predicate using Predicate.induction with
  | step predicate ih =>
    have hany : (anyAccepts predicate.anyOf message).AsksOnly oracle predicate.HasPattern :=
      anyAccepts_asksOnly fun alternative hmem =>
        (ih alternative hmem).mono fun _ => .alternative hmem
    have hown : (patternsHold predicate.matching message).AsksOnly oracle predicate.HasPattern := by
      cases hmatching : predicate.matching with
      | none => exact .pure true
      | some wants =>
        refine Matching.fields_asksOnly fun want hmem got => ?_
        exact (Matching.field_asksOnly hmem).mono fun _ ⟨_, hleaf⟩ => ⟨_, .own hmatching hleaf⟩
    obtain ⟨anyOrder, equalTo, containing, matching, anyOf⟩ := predicate
    rw [accepts]
    exact .bind hown (.ite (.ite (.pure true) hany) (.pure false))

theorem tolerantTest_asksOnly {test : Json → Json → Consult Bool} {want : String × Json}
    (h : ∀ got, (test want.2 got).AsksOnly oracle P) :
    (tolerantTest message test want).AsksOnly oracle P := by
  rw [tolerantTest]
  cases tolerant? message want.1 with
  | none => exact .pure false
  | some got => exact h got

/-- **Whether a message satisfies a predicate under either spelling** asks for patterns of the
predicate only. -/
theorem tolerates_asksOnly :
    (predicate.tolerates message).AsksOnly oracle predicate.HasPattern := by
  induction predicate using Predicate.induction with
  | step predicate ih =>
    have hany : (anyTolerates predicate.anyOf message).AsksOnly oracle predicate.HasPattern :=
      anyTolerates_asksOnly fun alternative hmem =>
        (ih alternative hmem).mono fun _ => .alternative hmem
    have hown : (Consult.all (tolerantTest message Matching.value)
        (predicate.matching.getD [])).AsksOnly oracle predicate.HasPattern := by
      refine .all fun want hmem => tolerantTest_asksOnly fun got => ?_
      cases hmatching : predicate.matching with
      | none =>
        rw [hmatching] at hmem
        cases hmem
      | some wants =>
        rw [hmatching] at hmem
        exact (Matching.field_asksOnly hmem).mono fun _ ⟨_, hleaf⟩ => ⟨_, .own hmatching hleaf⟩
    have hmaps : (mapsTolerate predicate.anyOrder predicate.equalTo predicate.containing
        predicate.matching message).AsksOnly oracle predicate.HasPattern := by
      refine .bind (.all fun want _ => ?_)
        (.ite (.bind (.all fun want _ => ?_) (.ite hown (.pure false))) (.pure false))
      · exact tolerantTest_asksOnly fun got => .pure _
      · exact tolerantTest_asksOnly fun got => .pure _
    rw [tolerates_eq]
    exact .bind hmaps (.ite (.ite (.pure true) hany) (.pure false))

end Predicate

/-- **Whether headers satisfy a predicate** asks for its patterns only. -/
theorem HeaderPredicate.accepts_asksOnly {predicate : HeaderPredicate} {headers : Fields} :
    (predicate.accepts headers).AsksOnly oracle (Json.obj predicate.matching).HasPattern := by
  refine .ite (.pure true) (.ite (.pure false) (.ite ?_ (.pure false)))
  exact Matching.fields_asksOnly fun want hmem got => Matching.field_asksOnly hmem

/-- **Whether messages satisfy ordered predicates** asks for patterns of these only. -/
theorem Sequence.accepts_asksOnly {predicates : List Predicate} {messages : List Fields} :
    (Sequence.accepts predicates messages).AsksOnly oracle fun pattern =>
      ∃ predicate ∈ predicates, predicate.HasPattern pattern := by
  refine .ite (.pure false) (.all fun pair hmem => .ite (.pure false) ?_)
  exact Predicate.accepts_asksOnly.mono fun _ h => ⟨_, (List.of_mem_zip hmem).1, h⟩

/-! ## Stubs -/

namespace Stub

variable {stub : Stub} {place pattern : String}

/-- A pattern stands somewhere in a stub. -/
def HasPattern (stub : Stub) (pattern : String) : Prop :=
  ∃ path, stub.LeafAt pattern path

theorem HasPattern.headers (h : (Json.obj stub.headers.matching).HasPattern pattern) :
    stub.HasPattern pattern := by
  obtain ⟨path, hleaf⟩ := h
  exact ⟨_, .headers hleaf⟩

theorem HasPattern.predicate {predicate : Predicate} (hmem : predicate ∈ stub.predicates)
    (h : predicate.HasPattern pattern) : stub.HasPattern pattern := by
  obtain ⟨path, hleaf⟩ := h
  cases hexpectation : stub.expectation with
  | single =>
    rw [predicates, hexpectation] at hmem
    obtain rfl := List.mem_singleton.mp hmem
    exact ⟨_, .input hexpectation hleaf⟩
  | ordered =>
    rw [predicates, hexpectation] at hmem
    obtain ⟨i, hget⟩ := List.getElem?_of_mem hmem
    exact ⟨_, .inputs hexpectation hget hleaf⟩

theorem sequence_subset : stub.sequence ⊆ stub.predicates := by
  rw [sequence, predicates]
  cases stub.expectation with
  | single => exact List.nil_subset _
  | ordered => exact List.Subset.refl _

/-- **Whether a message is accepted at a position** asks for patterns of the stub only. -/
theorem acceptsAt_asksOnly {message : Fields} {position : ℕ} :
    (stub.acceptsAt message position).AsksOnly oracle stub.HasPattern := by
  have htolerates : ∀ predicate ∈ stub.predicates,
      (predicate.tolerates message).AsksOnly oracle stub.HasPattern := fun predicate hmem =>
    Predicate.tolerates_asksOnly.mono fun _ => .predicate hmem
  rw [acceptsAt]
  rw [predicates] at htolerates
  cases hexpectation : stub.expectation with
  | single predicate =>
    rw [hexpectation] at htolerates
    exact htolerates predicate (List.mem_singleton_self predicate)
  | ordered predicates =>
    rw [hexpectation] at htolerates
    cases hget : predicates[position]? with
    | none =>
      simp only [hget]
      exact .pure false
    | some predicate =>
      simp only [hget]
      exact htolerates predicate (List.mem_of_getElem? hget)

/-- **Whether a query is answered** asks for patterns of the stub only. -/
theorem answers_asksOnly {query : Query} :
    (stub.answers query).AsksOnly oracle stub.HasPattern := by
  have haccepts : ∀ predicate ∈ stub.predicates, ∀ message,
      (predicate.accepts message).AsksOnly oracle stub.HasPattern := fun predicate hmem message =>
    Predicate.accepts_asksOnly.mono fun _ => .predicate hmem
  refine .bind (HeaderPredicate.accepts_asksOnly.mono fun _ => .headers) (.ite ?_ (.pure false))
  rw [predicates] at haccepts
  cases hexpectation : stub.expectation with
  | single predicate =>
    rw [hexpectation] at haccepts
    have hone := haccepts predicate (List.mem_singleton_self predicate)
    change (predicate.answers query.messages).AsksOnly oracle _
    unfold Predicate.answers
    split
    · exact .pure _
    · exact .ite (.pure _) (hone _)
    · exact .pure false
  | ordered predicates =>
    rw [hexpectation] at haccepts
    change (Sequence.answers predicates query.messages).AsksOnly oracle _
    refine .ite (.pure false) (.ite (.pure _) ?_)
    split
    · exact haccepts _ (List.mem_singleton_self _) _
    · refine Sequence.accepts_asksOnly.mono fun pattern => ?_
      rintro ⟨predicate, hmem, hpattern⟩
      refine .predicate ?_ hpattern
      rw [Stub.predicates, hexpectation]
      exact hmem

/-- Where the names, the expectation and the reply of a stub are in order, its defect is the first
of its patterns that does not compile. -/
theorem find?_of_defectBy? {defect : Option Defect} (h : stub.defectBy? oracle = defect)
    (hpatterns : ∀ other, defect = some other → ∃ place pattern, other = .pattern place pattern) :
    (stub.patterns.find? fun entry => (oracle.compile? entry.2).isNone).map
      (fun entry => .pattern entry.1 entry.2) = defect := by
  have hother : ∀ other, (∀ place pattern, other ≠ .pattern place pattern) →
      some other ≠ defect := by
    intro other hne heq
    obtain ⟨place, pattern, rfl⟩ := hpatterns other heq.symm
    exact hne place pattern rfl
  unfold defectBy? at h
  split_ifs at h with hservice hmethod hexpects hreply
  · exact absurd h (hother .serviceMissing nofun)
  · exact absurd h (hother .methodMissing nofun)
  · exact absurd h (hother .expectation nofun)
  · exact absurd h (hother .reply nofun)
  · exact h

/-- If nothing is wrong with a stub, all its patterns compile. -/
theorem compiles_of_defectBy?_eq_none (h : stub.defectBy? oracle = none)
    (hpattern : stub.HasPattern pattern) : oracle.Compiles pattern := by
  obtain ⟨path, hleaf⟩ := hpattern
  have hmem : Leaf.placed "" (path, pattern) ∈ stub.patterns := by
    rw [patterns_eq]
    exact List.mem_map_of_mem (mem_leaves_iff.mpr hleaf)
  have hfind := Option.map_eq_none_iff.mp (find?_of_defectBy? h nofun)
  by_contra hbroken
  exact List.find?_eq_none.mp hfind _ hmem (Oracle.not_compiles_iff.mp hbroken)

/-- **A pattern that is reported** does not compile, it stands where it is said to stand, and every
pattern before it compiles. -/
theorem defectBy?_eq_pattern (h : stub.defectBy? oracle = some (.pattern place pattern)) :
    ¬ oracle.Compiles pattern ∧ ∃ path, stub.LeafAt pattern path ∧ PathStep.texts path = place ∧
      (stub.KeysAscend → ∀ path' pattern', stub.LeafAt pattern' path' →
        List.Lex PathStep.Before path' path → oracle.Compiles pattern') := by
  have hmap := find?_of_defectBy? h fun other hother =>
    ⟨place, pattern, (Option.some.inj hother).symm⟩
  obtain ⟨entry, hfind, hentry⟩ := Option.map_eq_some_iff.mp hmap
  obtain ⟨rfl, rfl⟩ := Defect.pattern.inj hentry
  rw [patterns_eq, List.find?_map, Option.map_eq_some_iff] at hfind
  obtain ⟨leaf, hfind, rfl⟩ := hfind
  obtain ⟨hbroken, before, after, hleaves, hbefore⟩ := List.find?_eq_some_iff_append.mp hfind
  refine ⟨Oracle.not_compiles_iff.mpr hbroken, leaf.1, ?_, ?_, ?_⟩
  · refine mem_leaves_iff.mp ?_
    rw [hleaves]
    exact List.mem_append_right _ List.mem_cons_self
  · rw [Leaf.placed, String.empty_append]
  · intro hasc path' pattern' hleaf' hlex
    have hmem := mem_leaves_iff.mpr hleaf'
    have hpairwise := pairwise_leaves hasc
    rw [hleaves] at hmem hpairwise
    rcases List.mem_append.mp hmem with hmem | hmem
    · by_contra hbroken
      have hpassed : (!(oracle.compile? pattern').isNone) = true := hbefore _ hmem
      rw [Oracle.not_compiles_iff.mp hbroken] at hpassed
      cases hpassed
    · -- neither the reported pattern nor one after it comes before it
      rcases List.mem_cons.mp hmem with heq | hmem
      · rw [← heq] at hlex
        exact absurd hlex (asymm hlex)
      · have hlater := (List.pairwise_cons.mp (List.pairwise_append.mp hpairwise).2.1).1 _ hmem
        exact absurd hlex (asymm hlater)

/-- **A match asks for checked patterns**, whatever texts an oracle takes for patterns. If nothing
is wrong with a stub, then whatever its headers, its predicates with all their alternatives, and its
ordered predicates are matched with, under either spelling of keys too, all patterns that are asked
for compile. And a pattern that is reported does not compile, it stands where it is said to stand,
and all patterns that stand before it compile. -/
theorem asks_for_checked (oracle : Oracle) (stub : Stub) :
    (stub.defectBy? oracle = none →
      (∀ headers, (stub.headers.accepts headers).AsksOnly oracle oracle.Compiles) ∧
      (∀ predicate ∈ stub.predicates, ∀ inner : Predicate, inner.Within predicate → ∀ message,
        (inner.accepts message).AsksOnly oracle oracle.Compiles ∧
          (inner.tolerates message).AsksOnly oracle oracle.Compiles) ∧
      (∀ messages,
        (Sequence.accepts stub.sequence messages).AsksOnly oracle oracle.Compiles) ∧
      (∀ query, (stub.answers query).AsksOnly oracle oracle.Compiles) ∧
      ∀ message position, (stub.acceptsAt message position).AsksOnly oracle oracle.Compiles) ∧
    ∀ place pattern, stub.defectBy? oracle = some (.pattern place pattern) →
      ¬ oracle.Compiles pattern ∧
        ∃ path, stub.LeafAt pattern path ∧ PathStep.texts path = place ∧
          (stub.KeysAscend → ∀ path' pattern', stub.LeafAt pattern' path' →
            List.Lex PathStep.Before path' path → oracle.Compiles pattern') := by
  refine ⟨fun h => ?_, fun place pattern => defectBy?_eq_pattern⟩
  have hcompiles : ∀ pattern, stub.HasPattern pattern → oracle.Compiles pattern :=
    fun pattern => compiles_of_defectBy?_eq_none h
  refine ⟨fun headers => ?_, fun predicate hmem inner hwithin message => ⟨?_, ?_⟩,
    fun messages => ?_, fun query => ?_, fun message position => ?_⟩
  · exact HeaderPredicate.accepts_asksOnly.mono fun pattern hpattern =>
      hcompiles pattern (.headers hpattern)
  · exact Predicate.accepts_asksOnly.mono fun pattern hpattern =>
      hcompiles pattern (.predicate hmem (.within hwithin hpattern))
  · exact Predicate.tolerates_asksOnly.mono fun pattern hpattern =>
      hcompiles pattern (.predicate hmem (.within hwithin hpattern))
  · refine Sequence.accepts_asksOnly.mono fun pattern => ?_
    rintro ⟨predicate, hmem, hpattern⟩
    exact hcompiles pattern (.predicate (sequence_subset hmem) hpattern)
  · exact answers_asksOnly.mono hcompiles
  · exact acceptsAt_asksOnly.mono hcompiles

/-- A stub with a pattern for a header, and another one in an alternative. -/
def alternating (pattern : String) : Stub where
  service := "Cart"
  method := "Add"
  headers := { matching := [("user", .str "^b")] }
  expectation := .single { anyOf := [{ matching := some [("item", .str pattern)] }] }
  reply := { data := some [] }

theorem keysAscend_alternating {pattern : String} : (alternating pattern).KeysAscend := by
  have hone : ∀ key value : String, (Json.obj [(key, .str value)]).WellFormed := fun key value =>
    Json.wellFormed_obj_iff.mpr ⟨List.pairwise_singleton _ _, fun entry hmem => by
      obtain rfl := List.mem_singleton.mp hmem
      trivial⟩
  refine ⟨hone _ _, fun predicate hmem inner fields hwithin hfields => ?_⟩
  obtain rfl := List.mem_singleton.mp hmem
  cases hwithin with
  | self => cases hfields
  | alternative hmem hwithin =>
    obtain rfl := List.mem_singleton.mp hmem
    cases hwithin with
    | self =>
      cases hfields
      exact hone _ _
    | alternative hmem => cases hmem

/-- With a pattern in the alternative nothing is wrong, and all that is asked for compiles. With a
text that is no pattern there, this is reported with its place, and the pattern for the header,
which comes first, compiles. -/
theorem asks_for_checked_alternating :
    (alternating "^p").defectBy? .standard = none ∧
    (∀ query, ((alternating "^p").answers query).AsksOnly .standard Oracle.standard.Compiles) ∧
    (alternating "(").defectBy? .standard =
      some (.pattern "input.any[0].matches.item" "(") ∧
    ¬ Oracle.standard.Compiles "(" ∧
    (∃ path, (alternating "(").LeafAt "(" path ∧
      PathStep.texts path = "input.any[0].matches.item") ∧
    Oracle.standard.Compiles "^b" := by
  have hnone : (alternating "^p").defectBy? .standard = none := by decide +kernel
  have hsome : (alternating "(").defectBy? .standard =
      some (.pattern "input.any[0].matches.item" "(") := by decide +kernel
  obtain ⟨-, -, -, hanswers, -⟩ := (asks_for_checked .standard (alternating "^p")).1 hnone
  obtain ⟨hbroken, path, hleaf, htexts, hbefore⟩ :=
    (asks_for_checked .standard (alternating "(")).2 _ _ hsome
  refine ⟨hnone, hanswers, hsome, hbroken, ⟨path, hleaf, htexts⟩, ?_⟩
  have hheader : (alternating "(").LeafAt "^b" [.headers, .field "user"] :=
    .headers (.field List.mem_cons_self .here)
  refine hbefore keysAscend_alternating _ _ hheader ?_
  -- the steps to the text that is reported begin in the predicate
  cases hleaf with
  | headers hleaf =>
    cases hleaf with
    | field hmem hleaf =>
      obtain ⟨rfl, rfl⟩ := Prod.mk.inj (List.mem_singleton.mp hmem)
      have hleaves := Json.mem_leaves_iff.mpr hleaf
      simp [Json.leaves] at hleaves
  | input => exact List.Lex.rel .headers_input
  | inputs hexpectation => cases hexpectation

end Stub

end Understudy
