import Understudy.Memo.Consult

/-!
# Caches that remember answers do not change them

A consultation is a tree of requests, so a statement about all consultations is an induction over
that tree. The caches are *sound* for an oracle when everything that they remember is what the
oracle would answer. Sound caches stay sound, and a run with them yields the same value as an
evaluation that asks the oracle every time, whatever has been remembered and forgotten before.

## Main definitions

* `Caches.Sound`: the caches remember answers of the oracle

## Main results

* `Consult.evalBy_bind`: an evaluation goes through a sequence of computations
* `Consult.runBy_fst`, `Consult.runBy_sound`: a run with sound caches is an evaluation, and leaves
  sound caches
-/

namespace Understudy

namespace Consult

variable {α β : Type} (oracle : Oracle)

theorem andThen_done (computation : Consult α) : computation.andThen .done = computation := by
  induction computation with
  | done value => rfl
  | pattern source ask ih => exact congrArg (Consult.pattern source) (funext ih)
  | digest text ask ih => exact congrArg (Consult.digest text) (funext ih)

theorem andThen_assoc {γ : Type} (computation : Consult α) (next : α → Consult β)
    (last : β → Consult γ) :
    (computation.andThen next).andThen last =
      computation.andThen fun value => (next value).andThen last := by
  induction computation with
  | done value => rfl
  | pattern source ask ih => exact congrArg (Consult.pattern source) (funext ih)
  | digest text ask ih => exact congrArg (Consult.digest text) (funext ih)

instance : LawfulMonad Consult :=
  LawfulMonad.mk' Consult andThen_done (fun _ _ => rfl) andThen_assoc

@[simp] theorem evalBy_pure (value : α) : (pure value : Consult α).evalBy oracle = value := rfl

@[simp] theorem evalBy_done (value : α) : (Consult.done value).evalBy oracle = value := rfl

@[simp] theorem evalBy_bind (computation : Consult α) (next : α → Consult β) :
    (computation >>= next).evalBy oracle = (next (computation.evalBy oracle)).evalBy oracle := by
  show (computation.andThen next).evalBy oracle = _
  induction computation with
  | done value => rfl
  | pattern source ask ih => exact ih _
  | digest text ask ih => exact ih _

@[simp] theorem evalBy_compiled (source : String) :
    (compiled source).evalBy oracle = oracle.compile? source := rfl

@[simp] theorem evalBy_digested (text : String) :
    (digested text).evalBy oracle = oracle.digest text := rfl

@[simp] theorem evalBy_ite (p : Prop) [Decidable p] (a b : Consult α) :
    (if p then a else b).evalBy oracle = if p then a.evalBy oracle else b.evalBy oracle := by
  split <;> rfl

/-- Asking about every item filters the items. -/
@[simp] theorem evalBy_filter (test : α → Consult Bool) (items : List α) :
    (Consult.filter test items).evalBy oracle =
      items.filter fun item => (test item).evalBy oracle := by
  induction items with
  | nil => rfl
  | cons item rest ih => simp only [Consult.filter, evalBy_bind, evalBy_pure, ih, List.filter_cons]

/-- Asking about items until one fails tells whether all pass. -/
@[simp] theorem evalBy_all (test : α → Consult Bool) (items : List α) :
    (Consult.all test items).evalBy oracle = items.all fun item => (test item).evalBy oracle := by
  induction items with
  | nil => rfl
  | cons item rest ih =>
    simp only [Consult.all, evalBy_bind, evalBy_ite, evalBy_pure, ih, List.all_cons]
    cases (test item).evalBy oracle <;> rfl

/-- Asking about items one after the other counts those that pass. -/
@[simp] theorem evalBy_count (test : α → Consult Bool) (items : List α) :
    (Consult.count test items).evalBy oracle =
      items.countP fun item => (test item).evalBy oracle := by
  induction items with
  | nil => rfl
  | cons item rest ih =>
    simp only [Consult.count, evalBy_bind, evalBy_pure, ih, List.countP_cons]
    cases (test item).evalBy oracle <;> rfl

/-- A computation for every item, one after the other, maps the items. -/
@[simp] theorem evalBy_mapM (f : α → Consult β) (items : List α) :
    (items.mapM f).evalBy oracle = items.map fun item => (f item).evalBy oracle := by
  rw [← List.mapM'_eq_mapM]
  induction items with
  | nil => rfl
  | cons item rest ih =>
    rw [List.mapM'_cons]
    simp only [evalBy_bind, evalBy_pure, ih, List.map_cons]

/-- A run goes through a sequence of computations with the caches that are left by the first. -/
theorem runBy_bind (computation : Consult α) (next : α → Consult β) (caches : Caches) :
    (computation >>= next).runBy oracle caches =
      (next (computation.runBy oracle caches).1).runBy oracle
        (computation.runBy oracle caches).2 := by
  show (computation.andThen next).runBy oracle caches = _
  induction computation generalizing caches with
  | done value => rfl
  | pattern source ask ih => exact ih _ _
  | digest text ask ih => exact ih _ _

end Consult

namespace Recency

variable {κ α : Type} [DecidableEq κ]

theorem mem_of_find? {cache : Recency κ α} {key : κ} {value : α}
    (h : cache.find? key = some value) : (key, value) ∈ cache.entries := by
  obtain ⟨⟨k, v⟩, he, rfl⟩ := Option.map_eq_some_iff.mp h
  obtain rfl : k = key := by simpa using List.find?_some he
  exact List.mem_of_find?_eq_some he

theorem mem_put {cache : Recency κ α} {key : κ} {value : α} {entry : κ × α}
    (h : entry ∈ (cache.put key value).entries) :
    entry = (key, value) ∨ entry ∈ cache.entries := by
  rcases List.mem_cons.mp (List.mem_of_mem_take h) with h | h
  · exact .inl h
  · exact .inr ((List.mem_filter.mp h).1)

end Recency

/-- Everything that the caches remember is what the oracle answers. -/
structure Caches.Sound (oracle : Oracle) (caches : Caches) : Prop where
  patterns : ∀ entry ∈ caches.patterns.entries, oracle.compile? entry.1 = some entry.2
  digests : ∀ entry ∈ caches.digests.entries, oracle.digest entry.1 = entry.2

namespace Caches

variable {oracle : Oracle}

/-- Empty caches remember nothing wrong. -/
theorem Sound.ofCapacities (patterns digests : Nat) :
    (Caches.ofCapacities patterns digests).Sound oracle :=
  ⟨fun _ h => absurd h List.not_mem_nil, fun _ h => absurd h List.not_mem_nil⟩

theorem Sound.compiledBy {caches : Caches} (h : caches.Sound oracle) (source : String) :
    (caches.compiledBy oracle source).1 = oracle.compile? source ∧
      (caches.compiledBy oracle source).2.Sound oracle := by
  unfold Caches.compiledBy
  cases htouch : caches.patterns.touch source with
  | some touched =>
    -- remembered: the answer is that of the oracle, and comes to the front
    obtain ⟨pattern, hfind, rfl⟩ := Option.map_eq_some_iff.mp htouch
    have hanswer := h.patterns _ (Recency.mem_of_find? hfind)
    refine ⟨hanswer.symm, fun entry he => ?_, h.digests⟩
    rcases Recency.mem_put he with rfl | he
    · exact hanswer
    · exact h.patterns entry he
  | none =>
    -- not remembered: the oracle is asked, and its pattern comes to the front
    cases hcompile : oracle.compile? source with
    | none => exact ⟨rfl, h⟩
    | some pattern =>
      refine ⟨rfl, fun entry he => ?_, h.digests⟩
      rcases Recency.mem_put he with rfl | he
      · exact hcompile
      · exact h.patterns entry he

theorem Sound.digestedBy {caches : Caches} (h : caches.Sound oracle) (text : String) :
    (caches.digestedBy oracle text).1 = oracle.digest text ∧
      (caches.digestedBy oracle text).2.Sound oracle := by
  unfold Caches.digestedBy
  cases htouch : caches.digests.touch text with
  | some touched =>
    -- remembered: the answer is that of the oracle, and comes to the front
    obtain ⟨value, hfind, rfl⟩ := Option.map_eq_some_iff.mp htouch
    have hanswer := h.digests _ (Recency.mem_of_find? hfind)
    refine ⟨hanswer.symm, h.patterns, fun entry he => ?_⟩
    rcases Recency.mem_put he with rfl | he
    · exact hanswer
    · exact h.digests entry he
  | none =>
    -- not remembered: the oracle is asked, and its digest comes to the front
    refine ⟨rfl, h.patterns, fun entry he => ?_⟩
    rcases Recency.mem_put he with rfl | he
    · rfl
    · exact h.digests entry he

end Caches

namespace Consult

variable {α : Type} {oracle : Oracle}

/-- The simulation between a run and an evaluation, one request at a time. -/
theorem runBy_simulates (computation : Consult α) {caches : Caches} (h : caches.Sound oracle) :
    (computation.runBy oracle caches).1 = computation.evalBy oracle ∧
      (computation.runBy oracle caches).2.Sound oracle := by
  induction computation generalizing caches with
  | done value => exact ⟨rfl, h⟩
  | pattern source next ih =>
    obtain ⟨hanswer, hsound⟩ := h.compiledBy source
    simp only [runBy, evalBy, ← hanswer]
    exact ih _ hsound
  | digest text next ih =>
    obtain ⟨hanswer, hsound⟩ := h.digestedBy text
    simp only [runBy, evalBy, ← hanswer]
    exact ih _ hsound

/-- **Caches are transparent**: a run with sound caches yields what an evaluation yields. -/
theorem runBy_fst (computation : Consult α) {caches : Caches} (h : caches.Sound oracle) :
    (computation.runBy oracle caches).1 = computation.evalBy oracle :=
  (computation.runBy_simulates h).1

/-- Sound caches stay sound. -/
theorem runBy_sound (computation : Consult α) {caches : Caches} (h : caches.Sound oracle) :
    (computation.runBy oracle caches).2.Sound oracle :=
  (computation.runBy_simulates h).2

end Consult

end Understudy
