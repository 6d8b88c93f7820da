import Understudy.Proofs.Store.Index

/-!
# The values of a store

Listing the values of some buckets of a sound store yields the values that are found and have one
of the keys, each once. All values are those of all buckets, so they are the finds, and there are
as many of them as identifiers that are filed.

## Main definitions

* `Store.valuesUnder`: the values of some buckets

## Main results

* `Store.Sound.mem_valuesUnder`, `Store.Sound.nodup_ids_valuesUnder`: the values of some buckets
* `Store.Sound.mem_values`, `Store.Sound.nodup_values`: all values
* `Store.Sound.perm_keys`: the filed identifiers are those of the values, with the keys of their
  names
-/

namespace Understudy.Store

variable {α : Type}

/-- The values of some buckets, one bucket after the other. -/
def valuesUnder (store : Store α) (keys : List UInt64) : List α :=
  keys.flatMap fun key => (store.bucket key).map Prod.snd

variable [Filed α] {digest : String → UInt32} {store : Store α}

theorem Sound.mem_bucket (h : store.Sound digest) {key : UInt64} {value : α} :
    value ∈ (store.bucket key).map Prod.snd ↔
      store.get? (Filed.id value) = some value ∧ valueKey digest value = key := by
  rw [List.mem_map]
  constructor
  · rintro ⟨⟨id, v⟩, hmem, rfl⟩
    have hv := (h.bucket_ascending key).mem_iff_find?.mp hmem
    obtain ⟨hid, hkey⟩ := h.filed key id v hv
    subst hid
    exact ⟨h.get?_eq_some_iff.mpr ⟨key, hv⟩, hkey⟩
  · rintro ⟨hv, rfl⟩
    exact ⟨_, Table.mem_of_find? (h.bucket_of_get? hv).2, rfl⟩

/-- The identifiers of the values in a bucket are the keys of the bucket. -/
theorem Sound.ids_bucket (h : store.Sound digest) (key : UInt64) :
    ((store.bucket key).map Prod.snd).map Filed.id = (store.bucket key).map Prod.fst := by
  rw [List.map_map]
  refine List.map_congr_left fun entry hmem => ?_
  exact (h.filed key entry.1 entry.2 ((h.bucket_ascending key).mem_iff_find?.mp hmem)).1

/-- **The values of some buckets** are those found that have one of the keys. -/
theorem Sound.mem_valuesUnder (h : store.Sound digest) {keys : List UInt64} {value : α} :
    value ∈ store.valuesUnder keys ↔
      store.get? (Filed.id value) = some value ∧ valueKey digest value ∈ keys := by
  rw [valuesUnder, List.mem_flatMap]
  simp only [h.mem_bucket]
  constructor
  · rintro ⟨key, hkey, hv, rfl⟩
    exact ⟨hv, hkey⟩
  · rintro ⟨hv, hkey⟩
    exact ⟨_, hkey, hv, rfl⟩

/-- No identifier comes twice among the values of different buckets. -/
theorem Sound.nodup_ids_valuesUnder (h : store.Sound digest) {keys : List UInt64}
    (hkeys : keys.Nodup) : ((store.valuesUnder keys).map Filed.id).Nodup := by
  rw [valuesUnder, List.map_flatMap]
  simp only [h.ids_bucket]
  rw [List.nodup_flatMap]
  refine ⟨fun key _ => (h.bucket_ascending key).nodup_keys, hkeys.imp ?_⟩
  intro key key' hne id hid hid'
  -- an identifier in two buckets would be filed with two keys
  have hfiled : ∀ k, id ∈ (store.bucket k).map Prod.fst → store.keys.find? id = some k := by
    intro k hk
    obtain ⟨entry, hmem, rfl⟩ := List.mem_map.mp hk
    rw [h.keys_iff, (h.bucket_ascending k).mem_iff_find?.mp hmem]
    rfl
  exact hne (Option.some.inj ((hfiled key hid).symm.trans (hfiled key' hid')))

/-! ## All values -/

theorem Sound.values_eq (h : store.Sound digest) :
    store.values = store.valuesUnder (store.buckets.map Prod.fst) := by
  rw [values, valuesUnder, List.flatMap_map]
  refine List.flatMap_congr fun entry hmem => ?_
  rw [bucket, h.buckets_ascending.mem_iff_find?.mp hmem]
  rfl

/-- **The values of a sound store** are those that are found. -/
theorem Sound.mem_values (h : store.Sound digest) {value : α} :
    value ∈ store.values ↔ store.get? (Filed.id value) = some value := by
  rw [h.values_eq, h.mem_valuesUnder]
  refine and_iff_left_of_imp fun hv => ?_
  have hs : ((store.bucket (valueKey digest value)).find? (Filed.id value)).isSome := by
    rw [(h.bucket_of_get? hv).2]
    rfl
  exact List.mem_map.mpr ⟨_, Table.mem_of_find? (find?_buckets_of_bucket hs), rfl⟩

theorem Sound.nodup_ids_values (h : store.Sound digest) : (store.values.map Filed.id).Nodup := by
  rw [h.values_eq]
  exact h.nodup_ids_valuesUnder h.buckets_ascending.nodup_keys

theorem Sound.nodup_values (h : store.Sound digest) : store.values.Nodup :=
  h.nodup_ids_values.of_map

/-- The filed identifiers are those of the values, with the keys of their names. -/
theorem Sound.perm_keys (h : store.Sound digest) :
    (store.values.map fun value => (Filed.id value, valueKey digest value)).Perm store.keys := by
  refine (List.perm_ext_iff_of_nodup ?_ h.keys_ascending.nodup_keys.of_map).mpr ?_
  · -- pairs of different values differ in their identifiers
    refine List.Nodup.of_map Prod.fst ?_
    rw [List.map_map]
    exact h.nodup_ids_values
  · rintro ⟨id, key⟩
    rw [List.mem_map, h.keys_ascending.mem_iff_find?, h.keys_iff]
    constructor
    · rintro ⟨value, hv, he⟩
      obtain ⟨rfl, rfl⟩ := Prod.mk.inj he
      rw [(h.bucket_of_get? (h.mem_values.mp hv)).2]
      rfl
    · intro hs
      obtain ⟨value, hv⟩ := Option.isSome_iff_exists.mp hs
      obtain ⟨rfl, rfl⟩ := h.filed key id value hv
      exact ⟨value, h.mem_values.mpr (h.get?_eq_some_iff.mpr ⟨_, hv⟩), rfl⟩

/-- A left digest is counted once for every value that has it. -/
theorem Sound.filedUnder_eq (h : store.Sound digest) (left : UInt32) :
    store.filedUnder left =
      store.values.countP fun value => leftOf (valueKey digest value) = left := by
  rw [filedUnder, ← h.perm_keys.countP_eq, List.countP_map]
  rfl

theorem Sound.size_eq (h : store.Sound digest) : store.size = store.values.length := by
  rw [size, ← h.perm_keys.length_eq, List.length_map]

end Understudy.Store
