import Understudy.Proofs.Memo.Transparency
import Understudy.Proofs.Store.Values
import Understudy.Store.Lookup

/-!
# Runs of changes

A store is changed by storing a batch of values, by deleting the values of some identifiers or
those that pass a test, and by clearing it. A change is a sequence of small *steps*: it files a
value, takes an identifier out, or clears the tables. One step keeps the tables sound, so a change
does, and so does every run of changes, with whatever identifiers repeated and whatever caches the
digests are remembered in.

## Main definitions

* `Change`, `Store.after`: the changes of a store, and a run of them
* `Step`, `Change.steps`: the steps of a change
* `Store.afterSteps`: a run of steps

## Main results

* `Store.evalBy_apply`: a change is the run of its steps
* `Store.Sound.afterSteps`, `Store.Sound.after`: runs keep the tables sound
* `Store.tables_agree_after`: what the tables of a store say after any run of changes
-/

namespace Understudy

/-- The changes of a store. -/
inductive Change (α : Type) where
  | upsert (values : List α)
  | delete (ids : List Identifier)
  | deleteWhere (test : α → Bool)
  | clear

/-- The store after a change. -/
def Change.apply {α : Type} [Filed α] : Change α → Store α → Consult (Store α)
  | upsert values, store => return (← store.upsert values).2
  | delete ids, store => return (store.delete ids).2
  | deleteWhere test, store => return (store.deleteWhere test).2
  | clear, _ => return .empty

/-- The store after some changes, made one after the other. -/
def Store.after {α : Type} [Filed α] : List (Change α) → Store α → Consult (Store α)
  | [], store => return store
  | change :: rest, store => do Store.after rest (← change.apply store)

/-- What a change does to the tables at a time. -/
inductive Step (α : Type) where
  | file (value : α)
  | take (id : Identifier)
  | clear

namespace Step

variable {α : Type} [Filed α]

/-- The identifier that a step takes out of the tables. -/
def taken? : Step α → Option Identifier
  | file value => some (Filed.id value)
  | take id => some id
  | clear => none

/-- The store after a step. -/
def apply (digest : String → UInt32) (store : Store α) : Step α → Store α
  | file value => store.put (valueKey digest value) value
  | take id => (store.remove id).2
  | clear => .empty

end Step

/-- The steps of a change. -/
def Change.steps {α : Type} [Filed α] (store : Store α) : Change α → List (Step α)
  | upsert values => values.map .file
  | delete ids => ids.map .take
  | deleteWhere test => ((store.values.filter test).map Filed.id).map .take
  | clear => [.clear]

namespace Store

variable {α : Type} [Filed α]

/-- The store after some steps. -/
def afterSteps (digest : String → UInt32) (steps : List (Step α)) (store : Store α) : Store α :=
  steps.foldl (Step.apply digest) store

variable (oracle : Oracle) {digest : String → UInt32} {store : Store α}

/-! ## A change is the run of its steps -/

@[simp] theorem evalBy_keyOf (left right : String) :
    (keyOf left right).evalBy oracle = nameKey oracle.digest left right := rfl

/-- Storing values files each under the key of its name, in order. -/
theorem evalBy_upsert (store : Store α) (values : List α) :
    (store.upsert values).evalBy oracle =
      (values.map Filed.id, afterSteps oracle.digest (values.map .file) store) := by
  simp only [upsert, afterSteps, Consult.evalBy_bind, Consult.evalBy_mapM, Consult.evalBy_pure,
    evalBy_keyOf, List.foldl_map]
  rfl

theorem delete_snd (digest : String → UInt32) (store : Store α) (ids : List Identifier) :
    (store.delete ids).2 = afterSteps digest (ids.map .take) store := by
  induction ids generalizing store with
  | nil => rfl
  | cons id rest ih => exact ih (store.remove id).2

theorem deleteWhere_snd (digest : String → UInt32) (test : α → Bool) (store : Store α) :
    (store.deleteWhere test).2 =
      afterSteps digest (((store.values.filter test).map Filed.id).map .take) store := by
  simp only [deleteWhere, afterSteps, List.foldl_map]
  rfl

/-- **A change is the run of its steps.** -/
theorem evalBy_apply (change : Change α) (store : Store α) :
    (change.apply store).evalBy oracle = afterSteps oracle.digest (change.steps store) store := by
  cases change with
  | upsert values =>
    simp only [Change.apply, Consult.evalBy_bind, Consult.evalBy_pure, evalBy_upsert, Change.steps]
  | delete ids => exact delete_snd oracle.digest store ids
  | deleteWhere test => exact deleteWhere_snd oracle.digest test store
  | clear => rfl

/-! ## Soundness of runs -/

variable {oracle}

theorem Sound.step (h : store.Sound digest) (step : Step α) :
    (step.apply digest store).Sound digest := by
  cases step with
  | file value => exact h.put value
  | take id => exact h.remove id
  | clear => exact Sound.empty

theorem Sound.afterSteps (h : store.Sound digest) (steps : List (Step α)) :
    (store.afterSteps digest steps).Sound digest := by
  induction steps generalizing store with
  | nil => exact h
  | cons step rest ih => exact ih (h.step step)

theorem Sound.apply (h : store.Sound oracle.digest) (change : Change α) :
    ((change.apply store).evalBy oracle).Sound oracle.digest := by
  rw [evalBy_apply]
  exact h.afterSteps _

/-- **A run of changes** keeps the tables sound. -/
theorem Sound.after (h : store.Sound oracle.digest) (changes : List (Change α)) :
    ((store.after changes).evalBy oracle).Sound oracle.digest := by
  induction changes generalizing store with
  | nil => exact h
  | cons change rest ih =>
    rw [Store.after, Consult.evalBy_bind]
    exact ih (h.apply change)

/-- A run with caches that start empty is an evaluation. -/
theorem runBy_after (patterns digests : Nat) (changes : List (Change α)) (store : Store α) :
    ((store.after changes).runBy oracle (.ofCapacities patterns digests)).1 =
      (store.after changes).evalBy oracle :=
  Consult.runBy_fst _ (Caches.Sound.ofCapacities patterns digests)

/-! ## What the tables say -/

/-- A filed identifier is in its bucket and in no other. -/
theorem Sound.bucket_unique (h : store.Sound digest) {id : Identifier} {key key' : UInt64}
    (hk : store.keys.find? id = some key) (hs : ((store.bucket key').find? id).isSome) :
    key' = key :=
  Option.some.inj (((h.keys_iff id key').mpr hs).symm.trans hk)

omit [Filed α] in
theorem isSome_find?_bucket_iff (store : Store α) (key : UInt64) (id : Identifier) :
    ((store.bucket key).find? id).isSome ↔
      ∃ bucket, store.buckets.find? key = some bucket ∧ (bucket.find? id).isSome := by
  unfold bucket
  cases store.buckets.find? key <;> simp

/-- **The tables agree** after any run of changes on a store that starts empty, whatever function
the digests are made with and however few of them the caches can remember. An identifier is filed
with a key exactly if the bucket of that key has a value for it, so it is in one bucket only; a
value is under its own identifier in the bucket of its own name; no bucket is empty; a left digest
is counted exactly if some value has it, with the number of those values. A further change is a run
of steps, none of which takes an identifier out whose bucket is missing or whose count is zero. -/
theorem tables_agree_after (oracle : Oracle) (patterns digests : Nat)
    (changes : List (Change α)) :
    let store := ((Store.empty.after changes).runBy oracle (.ofCapacities patterns digests)).1
    (∀ id key, store.keys.find? id = some key ↔
      ∃ bucket, store.buckets.find? key = some bucket ∧ (bucket.find? id).isSome) ∧
    (∀ id key key' bucket, store.keys.find? id = some key →
      store.buckets.find? key' = some bucket → (bucket.find? id).isSome → key' = key) ∧
    (∀ key bucket id value, store.buckets.find? key = some bucket →
      bucket.find? id = some value → Filed.id value = id ∧
        key = bucketKey (oracle.digest (Filed.left value)) (oracle.digest (Filed.right value))) ∧
    (∀ key bucket, store.buckets.find? key = some bucket → bucket ≠ []) ∧
    (∀ left, store.lefts.find? left =
      let count := store.values.countP fun value => leftOf (valueKey oracle.digest value) = left
      if count = 0 then none else some count) ∧
    ∀ change : Change α,
      (change.apply store).evalBy oracle = store.afterSteps oracle.digest (change.steps store) ∧
      ∀ before step later, change.steps store = before ++ step :: later →
        ∀ id, step.taken? = some id → (store.afterSteps oracle.digest before).Removable id := by
  intro store
  have h : store.Sound oracle.digest := by
    show (((Store.empty.after changes).runBy oracle (.ofCapacities patterns digests)).1).Sound _
    rw [runBy_after]
    exact Sound.empty.after changes
  have hbucket : ∀ {key bucket}, store.buckets.find? key = some bucket →
      store.bucket key = bucket := by
    intro key bucket hb
    rw [Store.bucket, hb]
    rfl
  refine ⟨fun id key => ?_, fun id key key' bucket hk hb hs => ?_,
    fun key bucket id value hb hv => ?_, h.bucket_ne_nil, fun left => ?_, fun change => ?_⟩
  · rw [h.keys_iff, isSome_find?_bucket_iff]
  · exact h.bucket_unique hk (by rwa [hbucket hb])
  · obtain ⟨hid, hkey⟩ := h.filed key id value (by rwa [hbucket hb])
    exact ⟨hid, hkey.symm⟩
  · rw [h.lefts_eq, h.filedUnder_eq]
  · exact ⟨evalBy_apply oracle change store,
      fun before _ _ _ id _ => (h.afterSteps before).removable id⟩

end Store

end Understudy
