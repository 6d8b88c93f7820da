import Understudy.Proofs.Json.Parts
import Understudy.Proofs.Predicate.Respelling
import Understudy.Stub.Validation

/-!
# Where patterns stand

A pattern is a text among the wanted values of a stub, reached from the stub by steps: into the
headers or a predicate, into its own map or an alternative, and into items and fields. The steps are
ordered as the parts that they lead to are looked at, so one pattern comes before another if its
steps do, the first that differ deciding. The listed patterns are exactly those that stand
somewhere, and they ascend in this order.

## Main definitions

* `PathStep`, `PathStep.Before`: a step towards a pattern, and the order of steps
* `Json.LeafAt`, `Predicate.LeafAt`, `Stub.LeafAt`: a pattern stands at the end of some steps
* `Stub.KeysAscend`: the keys of all maps of patterns ascend

## Main results

* `Stub.patterns_eq`: the listed patterns are the leaves, each with its steps written out
* `Stub.mem_leaves_iff`, `Stub.pairwise_leaves`: the leaves are the patterns that stand somewhere,
  in order
-/

namespace Understudy

/-! ## Steps -/

/-- A step towards a pattern. -/
inductive PathStep where
  /-- To the patterns for headers. -/
  | headers
  /-- To the one predicate. -/
  | input
  /-- To a predicate by its position. -/
  | inputs (index : ℕ)
  /-- To the predicate's own patterns. -/
  | own
  /-- To an alternative by its position. -/
  | alternative (index : ℕ)
  /-- To an item by its position. -/
  | item (index : ℕ)
  /-- To a field by its key. -/
  | field (key : String)

namespace PathStep

/-- How a step is written in the place of a pattern. -/
def text : PathStep → String
  | headers => "headers.matches"
  | input => "input"
  | inputs index => itemPlace "inputs" index
  | own => ".matches"
  | alternative index => itemPlace ".any" index
  | item index => itemPlace "" index
  | field key => "." ++ key

/-- Steps written one after the other. -/
def texts : List PathStep → String
  | [] => ""
  | step :: rest => step.text ++ texts rest

/-- One step leads to something that is looked at before what another leads to. -/
inductive Before : PathStep → PathStep → Prop
  | headers_input : Before headers input
  | headers_inputs {index : ℕ} : Before headers (inputs index)
  | inputs {index index' : ℕ} : index < index' → Before (inputs index) (inputs index')
  | own {index : ℕ} : Before own (alternative index)
  | alternative {index index' : ℕ} : index < index' →
    Before (alternative index) (alternative index')
  | item {index index' : ℕ} : index < index' → Before (item index) (item index')
  | field {key key' : String} : key < key' → Before (field key) (field key')

instance : Std.Asymm Before where
  asymm step step' h := by
    rintro (_ | _ | hlt' | _ | hlt' | hlt' | hlt') <;> rcases h with _ | _ | hlt | _ | hlt | hlt | hlt
    all_goals exact absurd hlt' hlt.asymm

end PathStep

/-- The steps to a pattern, and the pattern. -/
abbrev Leaf := List PathStep × String

namespace Leaf

/-- A leaf reached with one more step in front. -/
def under (step : PathStep) (leaf : Leaf) : Leaf :=
  (step :: leaf.1, leaf.2)

/-- The place of a leaf as it is written from another place, and its pattern. -/
def placed (place : String) (leaf : Leaf) : String × String :=
  (place ++ PathStep.texts leaf.1, leaf.2)

/-- A leaf comes before another one. -/
def Before (leaf leaf' : Leaf) : Prop :=
  List.Lex PathStep.Before leaf.1 leaf'.1

theorem placed_under (place : String) (step : PathStep) (leaf : Leaf) :
    (leaf.under step).placed place = leaf.placed (place ++ step.text) := by
  simp only [placed, under, PathStep.texts, String.append_assoc]

theorem map_placed_under (place : String) (step : PathStep) (leaves : List Leaf) :
    (leaves.map (under step)).map (placed place) = leaves.map (placed (place ++ step.text)) := by
  rw [List.map_map]
  exact List.map_congr_left fun leaf _ => placed_under place step leaf

/-- Leaves stay in order with one more step in front. -/
theorem pairwise_under {step : PathStep} {leaves : List Leaf} (h : leaves.Pairwise Before) :
    (leaves.map (under step)).Pairwise Before :=
  List.pairwise_map.mpr (h.imp fun hlex => List.Lex.cons hlex)

end Leaf

/-! ## Numbered parts -/

section Numbered

variable {α : Type} {step : ℕ → PathStep} {leavesOf : α → List Leaf} {index : ℕ} {parts : List α}

/-- The leaves of parts that are reached by their positions, from a position on. -/
def numbered (step : ℕ → PathStep) (leavesOf : α → List Leaf) (index : ℕ) : List α → List Leaf
  | [] => []
  | part :: rest =>
    (leavesOf part).map (Leaf.under (step index)) ++ numbered step leavesOf (index + 1) rest

theorem mem_numbered {path : List PathStep} {pattern : String} :
    (path, pattern) ∈ numbered step leavesOf index parts ↔
      ∃ i part rest, parts[i]? = some part ∧ path = step (index + i) :: rest ∧
        (rest, pattern) ∈ leavesOf part := by
  induction parts generalizing index with
  | nil => simp [numbered]
  | cons first parts ih =>
    rw [numbered, List.mem_append, List.mem_map, ih]
    constructor
    · rintro (⟨leaf, hmem, heq⟩ | ⟨i, part, rest, hpart, rfl, hmem⟩)
      · obtain ⟨rfl, rfl⟩ := Prod.mk.inj heq
        exact ⟨0, first, leaf.1, rfl, rfl, hmem⟩
      · exact ⟨i + 1, part, rest, hpart, by rw [Nat.add_right_comm, Nat.add_assoc], hmem⟩
    · rintro ⟨i, part, rest, hpart, rfl, hmem⟩
      cases i with
      | zero =>
        obtain rfl : first = part := by simpa using hpart
        exact .inl ⟨_, hmem, rfl⟩
      | succ i =>
        exact .inr ⟨i, part, rest, hpart, by rw [Nat.add_right_comm, Nat.add_assoc], hmem⟩

/-- Parts are looked at by ascending positions. -/
theorem pairwise_numbered (hstep : ∀ i j, i < j → (step i).Before (step j))
    (h : ∀ part ∈ parts, (leavesOf part).Pairwise Leaf.Before) :
    (numbered step leavesOf index parts).Pairwise Leaf.Before := by
  induction parts generalizing index with
  | nil => exact .nil
  | cons part parts ih =>
    obtain ⟨hpart, hparts⟩ := List.forall_mem_cons.mp h
    refine List.pairwise_append.mpr ⟨Leaf.pairwise_under hpart, ih hparts, ?_⟩
    rintro leaf hleaf ⟨path, pattern⟩ hlater
    obtain ⟨inner, -, rfl⟩ := List.mem_map.mp hleaf
    obtain ⟨i, -, rest, -, rfl, -⟩ := mem_numbered.mp hlater
    exact List.Lex.rel (hstep _ _ (by omega))

/-- The patterns of numbered parts, listed with their places. -/
theorem map_placed_numbered {place : String} (base : String)
    {patternsOf : String → α → List (String × String)}
    {listed : ℕ → List α → List (String × String)} (hnil : ∀ index, listed index [] = [])
    (hcons : ∀ index part rest, listed index (part :: rest) =
      patternsOf (itemPlace (place ++ base) index) part ++ listed (index + 1) rest)
    (htext : ∀ index, (step index).text = itemPlace base index)
    (h : ∀ part ∈ parts, ∀ place, patternsOf place part = (leavesOf part).map (Leaf.placed place)) :
    listed index parts = (numbered step leavesOf index parts).map (Leaf.placed place) := by
  induction parts generalizing index with
  | nil => rw [hnil, numbered, List.map_nil]
  | cons part parts ih =>
    obtain ⟨hpart, hparts⟩ := List.forall_mem_cons.mp h
    rw [hcons, numbered, List.map_append, Leaf.map_placed_under, htext, hpart, ih hparts]
    simp only [itemPlace, String.append_assoc]

end Numbered

/-! ## Values -/

namespace Json

variable {pattern place : String} {path : List PathStep} {json : Json} {items : List Json}
  {fields : List (String × Json)} {index : ℕ}

/-- A pattern stands at the end of some steps into a value. -/
inductive LeafAt (pattern : String) : List PathStep → Json → Prop
  | here : LeafAt pattern [] (.str pattern)
  | item {items : List Json} {index : ℕ} {item : Json} {path : List PathStep} :
    items[index]? = some item → LeafAt pattern path item →
      LeafAt pattern (.item index :: path) (.arr items)
  | field {fields : List (String × Json)} {key : String} {value : Json} {path : List PathStep} :
    (key, value) ∈ fields → LeafAt pattern path value →
      LeafAt pattern (.field key :: path) (.obj fields)

mutual
/-- The leaves of a value. -/
def leaves : Json → List Leaf
  | .str pattern => [([], pattern)]
  | .arr items => itemLeaves 0 items
  | .obj fields => fieldLeaves fields
  | _ => []
termination_by structural json => json

/-- The leaves of items from a position on. -/
def itemLeaves (index : ℕ) : List Json → List Leaf
  | [] => []
  | item :: rest => item.leaves.map (Leaf.under (.item index)) ++ itemLeaves (index + 1) rest
termination_by structural items => items

/-- The leaves of fields. -/
def fieldLeaves : List (String × Json) → List Leaf
  | [] => []
  | (key, value) :: rest => value.leaves.map (Leaf.under (.field key)) ++ fieldLeaves rest
termination_by structural fields => fields
end

theorem itemLeaves_eq_numbered : itemLeaves index items = numbered .item leaves index items := by
  induction items generalizing index with
  | nil => rfl
  | cons item rest ih => rw [itemLeaves, numbered, ih]

theorem mem_fieldLeaves : (path, pattern) ∈ fieldLeaves fields ↔
    ∃ key value rest, (key, value) ∈ fields ∧ path = .field key :: rest ∧
      (rest, pattern) ∈ value.leaves := by
  induction fields with
  | nil => simp [fieldLeaves]
  | cons entry fields ih =>
    obtain ⟨key, value⟩ := entry
    rw [fieldLeaves, List.mem_append, List.mem_map, ih]
    constructor
    · rintro (⟨leaf, hmem, heq⟩ | ⟨key', value', rest, hentry, rfl, hmem⟩)
      · obtain ⟨rfl, rfl⟩ := Prod.mk.inj heq
        exact ⟨key, value, leaf.1, List.mem_cons_self, rfl, hmem⟩
      · exact ⟨key', value', rest, List.mem_cons_of_mem _ hentry, rfl, hmem⟩
    · rintro ⟨key', value', rest, hentry, rfl, hmem⟩
      rcases List.mem_cons.mp hentry with heq | hentry
      · obtain ⟨rfl, rfl⟩ := Prod.mk.inj heq
        exact .inl ⟨_, hmem, rfl⟩
      · exact .inr ⟨key', value', rest, hentry, rfl, hmem⟩

/-- **The leaves of a value** are the patterns that stand in it. -/
theorem mem_leaves_iff : (path, pattern) ∈ json.leaves ↔ LeafAt pattern path json := by
  induction json using Json.induction generalizing path with
  | null | bool | num => exact iff_of_false List.not_mem_nil nofun
  | str text =>
    rw [leaves, List.mem_singleton, Prod.mk.injEq]
    constructor
    · rintro ⟨rfl, rfl⟩
      exact .here
    · rintro ⟨⟩
      exact ⟨rfl, rfl⟩
  | arr items ih =>
    rw [leaves, itemLeaves_eq_numbered, mem_numbered]
    constructor
    · rintro ⟨i, item, rest, hitem, rfl, hmem⟩
      rw [Nat.zero_add]
      exact .item hitem ((ih item (List.mem_of_getElem? hitem)).mp hmem)
    · intro h
      cases h with
      | @item _ i item rest hitem hleaf =>
        exact ⟨i, item, rest, hitem, by rw [Nat.zero_add],
          (ih item (List.mem_of_getElem? hitem)).mpr hleaf⟩
  | obj fields ih =>
    rw [leaves, mem_fieldLeaves]
    constructor
    · rintro ⟨key, value, rest, hentry, rfl, hmem⟩
      exact .field hentry ((ih _ hentry).mp hmem)
    · intro h
      cases h with
      | field hentry hleaf => exact ⟨_, _, _, hentry, rfl, (ih _ hentry).mpr hleaf⟩

/-- The leaves of a value with ascending keys are in order. -/
theorem pairwise_leaves (h : json.WellFormed) : json.leaves.Pairwise Leaf.Before := by
  induction json using Json.induction with
  | null | bool | num => exact .nil
  | str => exact List.pairwise_singleton _ _
  | arr items ih =>
    rw [leaves, itemLeaves_eq_numbered]
    exact pairwise_numbered (fun i j => .item) fun item hmem =>
      ih item hmem (wellFormed_arr_iff.mp h item hmem)
  | obj fields ih =>
    obtain ⟨hasc, hvalues⟩ := wellFormed_obj_iff.mp h
    rw [leaves]
    clear h
    induction fields with
    | nil => exact .nil
    | cons entry fields ihf =>
      obtain ⟨key, value⟩ := entry
      obtain ⟨hhead, hasc⟩ := List.pairwise_cons.mp hasc
      obtain ⟨hvalue, hvalues⟩ := List.forall_mem_cons.mp hvalues
      rw [fieldLeaves]
      refine List.pairwise_append.mpr
        ⟨Leaf.pairwise_under (ih _ List.mem_cons_self hvalue),
          ihf (fun entry hmem => ih entry (List.mem_cons_of_mem _ hmem)) hasc hvalues, ?_⟩
      rintro leaf hleaf ⟨path, pattern⟩ hlater
      obtain ⟨inner, -, rfl⟩ := List.mem_map.mp hleaf
      obtain ⟨key', value', rest, hentry, rfl, -⟩ := mem_fieldLeaves.mp hlater
      exact List.Lex.rel (.field (hhead _ hentry))

theorem fieldPatterns_eq (h : ∀ entry ∈ fields, ∀ place,
    entry.2.patterns place = entry.2.leaves.map (Leaf.placed place)) :
    fieldPatterns place fields = (fieldLeaves fields).map (Leaf.placed place) := by
  induction fields with
  | nil => rfl
  | cons entry fields ih =>
    obtain ⟨key, value⟩ := entry
    obtain ⟨hvalue, hfields⟩ := List.forall_mem_cons.mp h
    rw [fieldPatterns, fieldLeaves, List.map_append, Leaf.map_placed_under, hvalue, ih hfields]
    simp only [PathStep.text, String.append_assoc]

/-- The patterns of a value are its leaves, each with its place written out. -/
theorem patterns_eq : json.patterns place = json.leaves.map (Leaf.placed place) := by
  induction json using Json.induction generalizing place with
  | null | bool | num => rfl
  | str => simp [patterns, leaves, Leaf.placed, PathStep.texts]
  | arr items ih =>
    rw [patterns, leaves, itemLeaves_eq_numbered]
    refine map_placed_numbered "" (fun _ => rfl) (fun index item rest => ?_)
      (fun _ => rfl) fun item hmem _ => ih item hmem
    rw [itemPatterns, String.append_empty]
  | obj fields ih => exact fieldPatterns_eq fun entry hmem _ => ih entry hmem

end Json

/-! ## Predicates -/

namespace Predicate

variable {pattern place : String} {path : List PathStep} {predicate : Predicate}
  {predicates : List Predicate} {step : ℕ → PathStep} {index : ℕ}

/-- A pattern stands at the end of some steps into a predicate. -/
inductive LeafAt (pattern : String) : List PathStep → Predicate → Prop
  | own {predicate : Predicate} {fields : Fields} {path : List PathStep} :
    predicate.matching = some fields → Json.LeafAt pattern path (.obj fields) →
      LeafAt pattern (.own :: path) predicate
  | alternative {predicate alternative : Predicate} {index : ℕ} {path : List PathStep} :
    predicate.anyOf[index]? = some alternative → LeafAt pattern path alternative →
      LeafAt pattern (.alternative index :: path) predicate

/-- One predicate is another one or stands somewhere among its alternatives. -/
inductive Within (inner : Predicate) : Predicate → Prop
  | self : Within inner inner
  | alternative {predicate alternative : Predicate} :
    alternative ∈ predicate.anyOf → Within inner alternative → Within inner predicate

/-- The keys of the predicate's patterns ascend, those of its alternatives too. -/
def KeysAscend (predicate : Predicate) : Prop :=
  ∀ inner fields, Within inner predicate → inner.matching = some fields →
    (Json.obj fields).WellFormed

theorem KeysAscend.alternative (h : predicate.KeysAscend) {alternative : Predicate}
    (hmem : alternative ∈ predicate.anyOf) : alternative.KeysAscend :=
  fun inner fields hwithin hfields => h inner fields (.alternative hmem hwithin) hfields

mutual
/-- The leaves of a predicate. -/
def leaves : Predicate → List Leaf
  | ⟨_, _, _, matching, anyOf⟩ =>
    (Json.fieldLeaves (matching.getD [])).map (Leaf.under .own)
      ++ listLeaves .alternative 0 anyOf
termination_by structural predicate => predicate

/-- The leaves of predicates that are reached by their positions, from a position on. -/
def listLeaves (step : ℕ → PathStep) (index : ℕ) : List Predicate → List Leaf
  | [] => []
  | predicate :: rest =>
    predicate.leaves.map (Leaf.under (step index)) ++ listLeaves step (index + 1) rest
termination_by structural predicates => predicates
end

theorem listLeaves_eq_numbered :
    listLeaves step index predicates = numbered step leaves index predicates := by
  induction predicates generalizing index with
  | nil => rfl
  | cons predicate rest ih => rw [listLeaves, numbered, ih]

theorem leaves_eq : predicate.leaves =
    (Json.fieldLeaves (predicate.matching.getD [])).map (Leaf.under .own) ++
      numbered .alternative leaves 0 predicate.anyOf := by
  rw [← listLeaves_eq_numbered]
  cases predicate
  rfl

/-- **The leaves of a predicate** are the patterns that stand in it. -/
theorem mem_leaves_iff : (path, pattern) ∈ predicate.leaves ↔ LeafAt pattern path predicate := by
  induction predicate using Predicate.induction generalizing path with
  | step predicate ih =>
    rw [leaves_eq, List.mem_append, List.mem_map, mem_numbered]
    constructor
    · rintro (⟨leaf, hmem, heq⟩ | ⟨i, alternative, rest, hget, rfl, hmem⟩)
      · obtain ⟨rfl, rfl⟩ := Prod.mk.inj heq
        cases hmatching : predicate.matching with
        | none =>
          rw [hmatching] at hmem
          cases hmem
        | some fields =>
          rw [hmatching] at hmem
          exact .own hmatching (Json.mem_leaves_iff.mp hmem)
      · rw [Nat.zero_add]
        exact .alternative hget ((ih alternative (List.mem_of_getElem? hget)).mp hmem)
    · intro h
      cases h with
      | @own _ fields rest hmatching hleaf =>
        refine .inl ⟨(rest, pattern), ?_, rfl⟩
        rw [hmatching]
        exact Json.mem_leaves_iff.mpr hleaf
      | @alternative _ alternative i rest hget hleaf =>
        exact .inr ⟨i, alternative, rest, hget, by rw [Nat.zero_add],
          (ih alternative (List.mem_of_getElem? hget)).mpr hleaf⟩

/-- The leaves of a predicate with ascending keys are in order. -/
theorem pairwise_leaves (h : predicate.KeysAscend) : predicate.leaves.Pairwise Leaf.Before := by
  induction predicate using Predicate.induction with
  | step predicate ih =>
    rw [leaves_eq]
    refine List.pairwise_append.mpr ⟨Leaf.pairwise_under ?_,
      pairwise_numbered (fun i j => .alternative) fun alternative hmem =>
        ih alternative hmem (h.alternative hmem), ?_⟩
    · cases hmatching : predicate.matching with
      | none => exact .nil
      | some fields => exact Json.pairwise_leaves (h predicate fields .self hmatching)
    · rintro leaf hleaf ⟨path, pattern⟩ hlater
      obtain ⟨inner, -, rfl⟩ := List.mem_map.mp hleaf
      obtain ⟨i, -, rest, -, rfl, -⟩ := mem_numbered.mp hlater
      exact List.Lex.rel .own

/-- The patterns of a predicate are its leaves, each with its place written out. -/
theorem patterns_eq : predicate.patterns place = predicate.leaves.map (Leaf.placed place) := by
  induction predicate using Predicate.induction generalizing place with
  | step predicate ih =>
    rw [leaves_eq, List.map_append, Leaf.map_placed_under]
    have hlist : listPatterns (place ++ ".any") 0 predicate.anyOf =
        (numbered .alternative leaves 0 predicate.anyOf).map (Leaf.placed place) :=
      map_placed_numbered ".any" (fun _ => rfl) (fun _ _ _ => rfl) (fun _ => rfl)
        fun alternative hmem _ => ih alternative hmem
    rw [← hlist]
    obtain ⟨_, _, _, matching, anyOf⟩ := predicate
    rw [patterns, Json.fieldPatterns_eq fun _ _ _ => Json.patterns_eq]
    rfl

end Predicate

/-! ## Stubs -/

namespace Stub

variable {stub : Stub} {pattern : String} {path : List PathStep}

/-- A pattern stands at the end of some steps into a stub. -/
inductive LeafAt (stub : Stub) (pattern : String) : List PathStep → Prop
  | headers {path : List PathStep} : Json.LeafAt pattern path (.obj stub.headers.matching) →
    LeafAt stub pattern (.headers :: path)
  | input {predicate : Predicate} {path : List PathStep} : stub.expectation = .single predicate →
    predicate.LeafAt pattern path → LeafAt stub pattern (.input :: path)
  | inputs {predicates : List Predicate} {index : ℕ} {predicate : Predicate} {path : List PathStep} :
    stub.expectation = .ordered predicates → predicates[index]? = some predicate →
      predicate.LeafAt pattern path → LeafAt stub pattern (.inputs index :: path)

/-- The predicates of a stub, be it one or several in order. -/
def predicates (stub : Stub) : List Predicate :=
  match stub.expectation with
  | .single predicate => [predicate]
  | .ordered predicates => predicates

/-- The keys of all patterns of the stub ascend. -/
structure KeysAscend (stub : Stub) : Prop where
  headers : (Json.obj stub.headers.matching).WellFormed
  predicates : ∀ predicate ∈ stub.predicates, predicate.KeysAscend

/-- The leaves of a stub. -/
def leaves (stub : Stub) : List Leaf :=
  (Json.fieldLeaves stub.headers.matching).map (Leaf.under .headers) ++
    match stub.expectation with
    | .single predicate => predicate.leaves.map (Leaf.under .input)
    | .ordered predicates => numbered .inputs Predicate.leaves 0 predicates

/-- **The leaves of a stub** are the patterns that stand in it. -/
theorem mem_leaves_iff : (path, pattern) ∈ stub.leaves ↔ stub.LeafAt pattern path := by
  rw [leaves, List.mem_append, List.mem_map]
  constructor
  · rintro (⟨leaf, hmem, heq⟩ | hmem)
    · obtain ⟨rfl, rfl⟩ := Prod.mk.inj heq
      exact .headers (Json.mem_leaves_iff.mp hmem)
    · cases hexpectation : stub.expectation with
      | single predicate =>
        rw [hexpectation] at hmem
        obtain ⟨leaf, hleaf, heq⟩ := List.mem_map.mp hmem
        obtain ⟨rfl, rfl⟩ := Prod.mk.inj heq
        exact .input hexpectation (Predicate.mem_leaves_iff.mp hleaf)
      | ordered predicates =>
        rw [hexpectation] at hmem
        obtain ⟨i, predicate, rest, hget, rfl, hleaf⟩ := mem_numbered.mp hmem
        rw [Nat.zero_add]
        exact .inputs hexpectation hget (Predicate.mem_leaves_iff.mp hleaf)
  · intro h
    cases h with
    | @headers rest hleaf => exact .inl ⟨(rest, pattern), Json.mem_leaves_iff.mpr hleaf, rfl⟩
    | @input predicate rest hexpectation hleaf =>
      rw [hexpectation]
      exact .inr (List.mem_map.mpr ⟨(rest, pattern), Predicate.mem_leaves_iff.mpr hleaf, rfl⟩)
    | @inputs predicates i predicate rest hexpectation hget hleaf =>
      rw [hexpectation]
      exact .inr (mem_numbered.mpr ⟨i, predicate, rest, hget, by rw [Nat.zero_add],
        Predicate.mem_leaves_iff.mpr hleaf⟩)

/-- The leaves of a stub with ascending keys are in order. -/
theorem pairwise_leaves (h : stub.KeysAscend) : stub.leaves.Pairwise Leaf.Before := by
  refine List.pairwise_append.mpr
    ⟨Leaf.pairwise_under (Json.pairwise_leaves h.headers), ?_, ?_⟩
  · cases hexpectation : stub.expectation with
    | single predicate =>
      refine Leaf.pairwise_under (Predicate.pairwise_leaves (h.predicates predicate ?_))
      rw [predicates, hexpectation]
      exact List.mem_singleton_self predicate
    | ordered predicates =>
      refine pairwise_numbered (fun i j => .inputs) fun predicate hmem => ?_
      refine Predicate.pairwise_leaves (h.predicates predicate ?_)
      rw [Stub.predicates, hexpectation]
      exact hmem
  · rintro leaf hleaf ⟨path, pattern⟩ hlater
    obtain ⟨inner, -, rfl⟩ := List.mem_map.mp hleaf
    cases hexpectation : stub.expectation with
    | single predicate =>
      rw [hexpectation] at hlater
      obtain ⟨inner', -, heq⟩ := List.mem_map.mp hlater
      obtain ⟨rfl, -⟩ := Prod.mk.inj heq
      exact List.Lex.rel .headers_input
    | ordered predicates =>
      rw [hexpectation] at hlater
      obtain ⟨i, -, rest, -, rfl, -⟩ := mem_numbered.mp hlater
      exact List.Lex.rel .headers_inputs

/-- **The patterns of a stub** are its leaves, each with its place written out. -/
theorem patterns_eq : stub.patterns = stub.leaves.map (Leaf.placed "") := by
  rw [patterns, leaves, List.map_append, Leaf.map_placed_under, String.empty_append,
    Json.fieldPatterns_eq fun _ _ _ => Json.patterns_eq]
  congr 1
  cases stub.expectation with
  | single predicate =>
    rw [Leaf.map_placed_under, String.empty_append]
    exact Predicate.patterns_eq
  | ordered predicates =>
    refine map_placed_numbered "inputs" (fun _ => rfl) (fun index predicate rest => ?_)
      (fun _ => rfl) fun predicate _ _ => Predicate.patterns_eq
    rw [Predicate.listPatterns, String.empty_append]

end Stub

end Understudy
