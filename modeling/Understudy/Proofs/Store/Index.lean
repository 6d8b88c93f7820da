import Understudy.Proofs.Identifier
import Understudy.Proofs.Table
import Understudy.Store.Basic

/-!
# The three tables of a store

A store keeps its values in buckets, files the key of every identifier apart, and counts the values
of every left digest apart. The three tables are *sound* when they say the same: an identifier is
filed with a key exactly if the bucket of that key has a value for it, no bucket is empty, every
value lies in the bucket of its own name, and each count is the number of identifiers filed with
its left digest. Taking a value out and filing a value keep the tables sound, whichever bucket the
identifier was in before.

## Main definitions

* `nameKey`, `valueKey`: the key of a name and of a value, under a digest
* `Store.Sound`: the tables of a store agree
* `Store.Removable`: a removal finds the bucket and the count that it changes

## Main results

* `Store.Sound.remove`, `Store.Sound.put`: both steps keep the tables sound
* `Store.Sound.removable`: in sound tables no removal misses a bucket or a count
* `Store.Sound.get?_remove`, `Store.Sound.get?_put`: what is stored after a step
-/

namespace Understudy

/-! ## Keys

A key is two digests side by side, so it determines both. -/

theorem toNat_bucketKey (left right : UInt32) :
    (bucketKey left right).toNat = left.toNat * 2 ^ 32 + right.toNat := by
  have hl := left.toNat_lt
  have hr := right.toNat_lt
  simp only [bucketKey, UInt64.toNat_or, UInt64.toNat_shiftLeft, UInt32.toNat_toUInt64]
  rw [show UInt64.toNat 32 % 64 = 32 from rfl, Nat.mod_eq_of_lt (by rw [Nat.shiftLeft_eq]; omega),
    ← Nat.shiftLeft_add_eq_or_of_lt hr, Nat.shiftLeft_eq]

@[simp] theorem leftOf_bucketKey (left right : UInt32) : leftOf (bucketKey left right) = left := by
  apply UInt32.toNat_inj.mp
  have hl := left.toNat_lt
  have hr := right.toNat_lt
  rw [leftOf, UInt64.toNat_toUInt32, UInt64.toNat_shiftRight, toNat_bucketKey,
    show UInt64.toNat 32 % 64 = 32 from rfl, Nat.shiftRight_eq_div_pow]
  omega

theorem bucketKey_inj {left right left' right' : UInt32} :
    bucketKey left right = bucketKey left' right' ↔ left = left' ∧ right = right' := by
  refine ⟨fun h => ?_, fun ⟨hl, hr⟩ => hl ▸ hr ▸ rfl⟩
  have h := congrArg UInt64.toNat h
  rw [toNat_bucketKey, toNat_bucketKey] at h
  have := right.toNat_lt
  have := right'.toNat_lt
  exact ⟨UInt32.toNat_inj.mp (by omega), UInt32.toNat_inj.mp (by omega)⟩

instance instIsStrictTotalOrderUInt32 : IsStrictTotalOrder UInt32 (· < ·) where
  irrefl _ := UInt32.lt_irrefl _
  trans _ _ _ := UInt32.lt_trans
  trichotomous _ _ h h' := UInt32.le_antisymm (UInt32.not_lt.mp h') (UInt32.not_lt.mp h)

instance instIsStrictTotalOrderUInt64 : IsStrictTotalOrder UInt64 (· < ·) where
  irrefl _ := UInt64.lt_irrefl _
  trans _ _ _ := UInt64.lt_trans
  trichotomous _ _ h h' := UInt64.le_antisymm (UInt64.not_lt.mp h') (UInt64.not_lt.mp h)

/-- The key of a name of two parts, under a digest. -/
def nameKey (digest : String → UInt32) (left right : String) : UInt64 :=
  bucketKey (digest left) (digest right)

/-- The key of the name of a value. -/
def valueKey {α : Type} [Filed α] (digest : String → UInt32) (value : α) : UInt64 :=
  nameKey digest (Filed.left value) (Filed.right value)

namespace Store

variable {α : Type}

/-- How many identifiers are filed with a left digest. -/
def filedUnder (store : Store α) (left : UInt32) : Nat :=
  store.keys.countP fun entry => leftOf entry.2 = left

/-- The tables of a store agree. -/
structure Sound [Filed α] (digest : String → UInt32) (store : Store α) : Prop where
  lefts_ascending : store.lefts.Ascending
  buckets_ascending : store.buckets.Ascending
  keys_ascending : store.keys.Ascending
  bucket_ascending : ∀ key, (store.bucket key).Ascending
  /-- No bucket is empty. -/
  bucket_ne_nil : ∀ key bucket, store.buckets.find? key = some bucket → bucket ≠ []
  /-- An identifier is filed with the key of the one bucket that has a value for it. -/
  keys_iff : ∀ id key, store.keys.find? id = some key ↔ ((store.bucket key).find? id).isSome
  /-- A value lies under its own identifier, in the bucket of its own name. -/
  filed : ∀ key id value, (store.bucket key).find? id = some value →
    Filed.id value = id ∧ valueKey digest value = key
  /-- A left digest is counted exactly if some value has it, with the number of those values. -/
  lefts_eq : ∀ left, store.lefts.find? left =
    if store.filedUnder left = 0 then none else some (store.filedUnder left)

/-- Whether taking an identifier out finds its bucket, and a count that it can lower. -/
def Removable (store : Store α) (id : Identifier) : Prop :=
  ∀ key, store.keys.find? id = some key →
    (∃ bucket, store.buckets.find? key = some bucket) ∧
      ∃ count, store.lefts.find? (leftOf key) = some count ∧ 0 < count

variable {digest : String → UInt32} {store : Store α}

theorem find?_buckets_of_bucket {key : UInt64} {id : Identifier}
    (hs : ((store.bucket key).find? id).isSome) :
    store.buckets.find? key = some (store.bucket key) := by
  unfold bucket at *
  cases hb : store.buckets.find? key with
  | none => simp [hb] at hs
  | some bucket => rfl

theorem filedUnder_pos {id : Identifier} {key : UInt64}
    (hk : store.keys.find? id = some key) : 0 < store.filedUnder (leftOf key) :=
  List.countP_pos_iff.mpr ⟨(id, key), Table.mem_of_find? hk, by simp⟩

variable [Filed α]

theorem Sound.empty : (Store.empty : Store α).Sound digest where
  lefts_ascending := Table.ascending_nil
  buckets_ascending := Table.ascending_nil
  keys_ascending := Table.ascending_nil
  bucket_ascending _ := Table.ascending_nil
  bucket_ne_nil _ _ h := by cases h
  keys_iff _ _ := by simp [Store.empty, bucket]
  filed _ _ _ h := by simp [Store.empty, bucket] at h
  lefts_eq _ := rfl

/-! ## What is stored -/

theorem Sound.get?_eq_some_iff (h : store.Sound digest) {id : Identifier} {value : α} :
    store.get? id = some value ↔ ∃ key, (store.bucket key).find? id = some value := by
  unfold get?
  constructor
  · intro hv
    cases hk : store.keys.find? id with
    | none => simp [hk] at hv
    | some key =>
      rw [hk] at hv
      obtain ⟨bucket, hb, hv⟩ := Option.bind_eq_some_iff.mp hv
      exact ⟨key, by rw [Store.bucket, hb]; exact hv⟩
  · rintro ⟨key, hv⟩
    -- an identifier in a bucket is filed with the key of that bucket
    have hs : ((store.bucket key).find? id).isSome := by rw [hv]; rfl
    simp only [(h.keys_iff id key).mpr hs, find?_buckets_of_bucket hs, Option.bind_some, hv]

/-- A stored value is found under its own identifier, in the bucket of its own name. -/
theorem Sound.bucket_of_get? (h : store.Sound digest) {id : Identifier} {value : α}
    (hv : store.get? id = some value) :
    Filed.id value = id ∧ (store.bucket (valueKey digest value)).find? id = some value := by
  obtain ⟨key, hv⟩ := h.get?_eq_some_iff.mp hv
  obtain ⟨hid, hkey⟩ := h.filed key id value hv
  exact ⟨hid, hkey ▸ hv⟩

theorem Sound.keys_eq_none_iff (h : store.Sound digest) {id : Identifier} :
    store.keys.find? id = none ↔ store.get? id = none := by
  constructor
  · intro hk
    simp [get?, hk]
  · intro hv
    cases hk : store.keys.find? id with
    | none => rfl
    | some key =>
      -- a filed identifier has a value in its bucket, so it is found
      obtain ⟨value, hvalue⟩ := Option.isSome_iff_exists.mp ((h.keys_iff id key).mp hk)
      rw [h.get?_eq_some_iff.mpr ⟨key, hvalue⟩] at hv
      cases hv

/-! ## Removals -/

/-- In sound tables no removal misses a bucket or a count. -/
theorem Sound.removable (h : store.Sound digest) (id : Identifier) : store.Removable id := by
  intro key hk
  have hpos := filedUnder_pos hk
  refine ⟨⟨_, find?_buckets_of_bucket ((h.keys_iff id key).mp hk)⟩,
    store.filedUnder (leftOf key), ?_, hpos⟩
  rw [h.lefts_eq, if_neg (Nat.pos_iff_ne_zero.mp hpos)]

section Tables

omit [Filed α]

theorem remove_of_keys_eq_none {id : Identifier} (hk : store.keys.find? id = none) :
    store.remove id = (none, store) := by
  simp only [remove, hk]

theorem remove_of_keys_eq_some {id : Identifier} {key : UInt64} {bucket : Table Identifier α}
    (hk : store.keys.find? id = some key) (hb : store.buckets.find? key = some bucket) :
    store.remove id = (bucket.find? id,
      { lefts := uncountLeft (leftOf key) store.lefts
        buckets := if (bucket.erase id).isEmpty then store.buckets.erase key
          else store.buckets.insert key (bucket.erase id)
        keys := store.keys.erase id }) := by
  simp only [remove, hk, hb]

/-- Whether a bucket goes or is replaced when it has become empty cannot be seen in its values. -/
theorem find?_eraseOrInsert {buckets : Table UInt64 (Table Identifier α)}
    (h : buckets.Ascending) (key : UInt64) (rest : Table Identifier α) (other : UInt64) :
    (if rest.isEmpty then buckets.erase key else buckets.insert key rest).find? other =
      if other = key then (if rest = [] then none else some rest) else buckets.find? other := by
  cases rest with
  | nil => simp only [List.isEmpty_nil, if_true, Table.find?_erase h]
  | cons entry rest =>
    simp only [List.isEmpty_cons, Bool.false_eq_true, if_false, reduceCtorEq, Table.find?_insert]

theorem find?_uncountLeft {lefts : Table UInt32 Nat} (h : lefts.Ascending) {left : UInt32}
    {count : Nat} (hc : lefts.find? left = some (count + 1)) (other : UInt32) :
    (uncountLeft left lefts).find? other =
      if other = left then (if count = 0 then none else some count) else lefts.find? other := by
  simp only [uncountLeft, hc, Nat.add_sub_cancel]
  by_cases hz : count = 0
  · rw [if_pos hz, if_pos hz, Table.find?_erase h]
  · rw [if_neg hz, if_neg hz, Table.find?_insert]

theorem uncountLeft_ascending {lefts : Table UInt32 Nat} (h : lefts.Ascending) (left : UInt32) :
    (uncountLeft left lefts).Ascending := by
  unfold uncountLeft
  split
  · split
    · exact h.erase left
    · exact h.insert left _
  · exact h

theorem find?_countLeft (lefts : Table UInt32 Nat) (left other : UInt32) :
    (countLeft left lefts).find? other =
      if other = left then some ((lefts.find? left).getD 0 + 1) else lefts.find? other :=
  Table.find?_insert lefts left _ other

end Tables

omit [Filed α] in
theorem keys_remove (store : Store α) (id : Identifier) :
    (store.remove id).2.keys = store.keys.erase id := by
  cases hk : store.keys.find? id with
  | none => rw [remove_of_keys_eq_none hk, Table.erase_eq_self hk]
  | some key =>
    simp only [remove, hk]
    split <;> rfl

omit [Filed α] in
theorem filedUnder_remove {id : Identifier} {key : UInt64} (hk : store.keys.find? id = some key)
    (left : UInt32) :
    store.filedUnder left =
      (store.remove id).2.filedUnder left + if leftOf key = left then 1 else 0 := by
  rw [filedUnder, filedUnder, keys_remove, (Table.perm_cons_erase hk).countP_eq, List.countP_cons]
  simp

theorem Sound.remove_eq (h : store.Sound digest) {id : Identifier} {key : UInt64}
    (hk : store.keys.find? id = some key) :
    store.remove id = ((store.bucket key).find? id,
      { lefts := uncountLeft (leftOf key) store.lefts
        buckets := if ((store.bucket key).erase id).isEmpty then store.buckets.erase key
          else store.buckets.insert key ((store.bucket key).erase id)
        keys := store.keys.erase id }) :=
  remove_of_keys_eq_some hk (find?_buckets_of_bucket ((h.keys_iff id key).mp hk))

/-- A removal yields the value that is found. -/
theorem Sound.remove_fst (h : store.Sound digest) (id : Identifier) :
    (store.remove id).1 = store.get? id := by
  cases hk : store.keys.find? id with
  | none => rw [remove_of_keys_eq_none hk, h.keys_eq_none_iff.mp hk]
  | some key =>
    have hb := find?_buckets_of_bucket ((h.keys_iff id key).mp hk)
    rw [h.remove_eq hk, get?, hk]
    simp only [hb, Option.bind_some]

/-- A removal takes the identifier out of every bucket. -/
theorem Sound.bucket_remove (h : store.Sound digest) (id : Identifier) (other : UInt64) :
    (store.remove id).2.bucket other = (store.bucket other).erase id := by
  -- an identifier is in no bucket but the one that it is filed with
  have habsent : store.keys.find? id ≠ some other → ((store.bucket other).find? id) = none := by
    intro hne
    rw [Ne, h.keys_iff, Option.not_isSome_iff_eq_none] at hne
    exact hne
  cases hk : store.keys.find? id with
  | none => rw [remove_of_keys_eq_none hk, Table.erase_eq_self (habsent (by simp [hk]))]
  | some key =>
    rw [h.remove_eq hk, bucket, find?_eraseOrInsert h.buckets_ascending]
    by_cases ho : other = key
    · subst ho
      rw [if_pos rfl]
      split
      · next he => rw [he]; rfl
      · rfl
    · rw [if_neg ho, Table.erase_eq_self (habsent (by rw [hk]; simpa using Ne.symm ho))]
      rfl

theorem Sound.remove_bucket_ne_nil (h : store.Sound digest) (id : Identifier) (key : UInt64)
    (bucket : Table Identifier α) (hb : (store.remove id).2.buckets.find? key = some bucket) :
    bucket ≠ [] := by
  cases hk : store.keys.find? id with
  | none =>
    rw [remove_of_keys_eq_none hk] at hb
    exact h.bucket_ne_nil key bucket hb
  | some filed =>
    rw [h.remove_eq hk, find?_eraseOrInsert h.buckets_ascending] at hb
    split at hb
    · -- the bucket is put back only if something is left in it
      split at hb
      · cases hb
      · next hne => exact Option.some.inj hb ▸ hne
    · exact h.bucket_ne_nil key bucket hb

theorem Sound.lefts_remove (h : store.Sound digest) (id : Identifier) (left : UInt32) :
    (store.remove id).2.lefts.find? left =
      if (store.remove id).2.filedUnder left = 0 then none
      else some ((store.remove id).2.filedUnder left) := by
  cases hk : store.keys.find? id with
  | none =>
    rw [remove_of_keys_eq_none hk]
    exact h.lefts_eq left
  | some key =>
    -- the counted identifiers are one fewer for the left digest of this key
    have hcount := filedUnder_remove hk
    have hlefts : store.lefts.find? (leftOf key) =
        some ((store.remove id).2.filedUnder (leftOf key) + 1) := by
      rw [h.lefts_eq, hcount, if_pos rfl, if_neg (Nat.succ_ne_zero _)]
    rw [h.remove_eq hk] at hlefts hcount ⊢
    rw [find?_uncountLeft h.lefts_ascending hlefts]
    by_cases ho : left = leftOf key
    · rw [if_pos ho, ho]
    · rw [if_neg ho, h.lefts_eq, hcount left, if_neg (Ne.symm ho), Nat.add_zero]

theorem Sound.remove_ascending (h : store.Sound digest) (id : Identifier) :
    (store.remove id).2.lefts.Ascending ∧ (store.remove id).2.buckets.Ascending := by
  cases hk : store.keys.find? id with
  | none =>
    rw [remove_of_keys_eq_none hk]
    exact ⟨h.lefts_ascending, h.buckets_ascending⟩
  | some key =>
    rw [h.remove_eq hk]
    refine ⟨uncountLeft_ascending h.lefts_ascending _, ?_⟩
    dsimp only
    split
    · exact h.buckets_ascending.erase key
    · exact h.buckets_ascending.insert key _

/-- **Taking an identifier out** keeps the tables sound. -/
theorem Sound.remove (h : store.Sound digest) (id : Identifier) :
    (store.remove id).2.Sound digest where
  lefts_ascending := (h.remove_ascending id).1
  buckets_ascending := (h.remove_ascending id).2
  keys_ascending := by
    rw [keys_remove]
    exact h.keys_ascending.erase id
  bucket_ascending key := by
    rw [h.bucket_remove]
    exact (h.bucket_ascending key).erase id
  bucket_ne_nil := h.remove_bucket_ne_nil id
  keys_iff other key := by
    rw [keys_remove, h.bucket_remove, Table.find?_erase h.keys_ascending,
      Table.find?_erase (h.bucket_ascending key)]
    by_cases ho : other = id
    · simp [ho]
    · rw [if_neg ho, if_neg ho, h.keys_iff]
  filed key other value hv := by
    rw [h.bucket_remove, Table.find?_erase (h.bucket_ascending key)] at hv
    split at hv
    · cases hv
    · exact h.filed key other value hv
  lefts_eq := h.lefts_remove id

theorem Sound.get?_remove (h : store.Sound digest) (id other : Identifier) :
    (store.remove id).2.get? other = if other = id then none else store.get? other := by
  apply Option.ext
  intro value
  rw [(h.remove id).get?_eq_some_iff]
  simp only [h.bucket_remove, Table.find?_erase (h.bucket_ascending _)]
  by_cases ho : other = id
  · simp [ho]
  · simp only [if_neg ho, h.get?_eq_some_iff]

/-! ## Filing

A value is filed after its identifier has been taken out, so the identifier is new to every
table. -/

theorem bucket_put (store : Store α) (key : UInt64) (value : α) (other : UInt64) :
    (store.put key value).bucket other =
      if other = key then
        ((store.remove (Filed.id value)).2.bucket key).insert (Filed.id value) value
      else (store.remove (Filed.id value)).2.bucket other := by
  rw [bucket, put, Table.find?_insert]
  split <;> rfl

theorem find?_bucket_put (h : store.Sound digest) (key : UInt64) (value : α) (other : UInt64)
    (id : Identifier) :
    ((store.put key value).bucket other).find? id =
      if id = Filed.id value then (if other = key then some value else none)
      else (store.bucket other).find? id := by
  rw [bucket_put, h.bucket_remove, h.bucket_remove]
  -- the identifier has the new value only, and any other one what it had
  by_cases hi : id = Filed.id value
  · rw [if_pos hi]
    split
    · rw [Table.find?_insert, if_pos hi]
    · rw [Table.find?_erase (h.bucket_ascending other), if_pos hi]
  · rw [if_neg hi]
    split
    · next ho => rw [Table.find?_insert, if_neg hi, Table.find?_erase (h.bucket_ascending key),
        if_neg hi, ho]
    · rw [Table.find?_erase (h.bucket_ascending other), if_neg hi]

theorem find?_keys_put (h : store.Sound digest) (key : UInt64) (value : α) (id : Identifier) :
    (store.put key value).keys.find? id =
      if id = Filed.id value then some key else store.keys.find? id := by
  rw [put, Table.find?_insert, keys_remove, Table.find?_erase h.keys_ascending]
  split <;> rfl

theorem filedUnder_put (h : store.Sound digest) (key : UInt64) (value : α) (left : UInt32) :
    (store.put key value).filedUnder left =
      (store.remove (Filed.id value)).2.filedUnder left + if leftOf key = left then 1 else 0 := by
  -- the identifier has been taken out, so it is new to the keys
  have hnew : (store.remove (Filed.id value)).2.keys.find? (Filed.id value) = none := by
    rw [keys_remove, Table.find?_erase h.keys_ascending, if_pos rfl]
  rw [filedUnder, put, (Table.insert_perm hnew key).countP_eq, List.countP_cons, filedUnder]
  simp

theorem Sound.lefts_put (h : store.Sound digest) (key : UInt64) (value : α) (left : UInt32) :
    (store.put key value).lefts.find? left =
      if (store.put key value).filedUnder left = 0 then none
      else some ((store.put key value).filedUnder left) := by
  rw [filedUnder_put h]
  simp only [put, find?_countLeft, (h.remove (Filed.id value)).lefts_eq]
  -- one identifier more is counted, for the left digest of this key only
  by_cases hl : left = leftOf key
  · subst hl
    rw [if_pos rfl, if_pos rfl, if_neg (Nat.succ_ne_zero _)]
    split
    · next hz => rw [hz]; rfl
    · rfl
  · rw [if_neg hl, if_neg (Ne.symm hl), Nat.add_zero]

theorem Sound.put_bucket_ne_nil (h : store.Sound digest) (key : UInt64) (value : α) (other : UInt64)
    (bucket : Table Identifier α) (hb : (store.put key value).buckets.find? other = some bucket) :
    bucket ≠ [] := by
  rw [put, Table.find?_insert] at hb
  split at hb
  · exact Option.some.inj hb ▸ Table.insert_ne_nil _ _ _
  · exact (h.remove (Filed.id value)).bucket_ne_nil other bucket hb

/-- **Filing a value** under the key of its name keeps the tables sound, wherever its identifier
was before. -/
theorem Sound.put (h : store.Sound digest) (value : α) :
    (store.put (valueKey digest value) value).Sound digest where
  lefts_ascending := (h.remove (Filed.id value)).lefts_ascending.insert _ _
  buckets_ascending := (h.remove (Filed.id value)).buckets_ascending.insert _ _
  keys_ascending := (h.remove (Filed.id value)).keys_ascending.insert _ _
  bucket_ascending key := by
    rw [bucket_put]
    split
    · exact ((h.remove (Filed.id value)).bucket_ascending _).insert _ _
    · exact (h.remove (Filed.id value)).bucket_ascending key
  bucket_ne_nil := h.put_bucket_ne_nil _ value
  keys_iff id key := by
    rw [find?_keys_put h, find?_bucket_put h]
    by_cases hi : id = Filed.id value
    · rw [if_pos hi, if_pos hi]
      split
      · next hk => simp [hk]
      · next hk => simp [Ne.symm hk]
    · rw [if_neg hi, if_neg hi, h.keys_iff]
  filed key id v hv := by
    rw [find?_bucket_put h] at hv
    split at hv
    · next hi =>
      split at hv
      · next hk => exact Option.some.inj hv ▸ ⟨hi.symm, hk.symm⟩
      · cases hv
    · exact h.filed key id v hv
  lefts_eq := h.lefts_put _ value

theorem Sound.get?_put (h : store.Sound digest) (value : α) (id : Identifier) :
    (store.put (valueKey digest value) value).get? id =
      if id = Filed.id value then some value else store.get? id := by
  apply Option.ext
  intro v
  rw [(h.put value).get?_eq_some_iff]
  simp only [find?_bucket_put h]
  by_cases hi : id = Filed.id value
  · simp [hi]
  · simp only [if_neg hi, h.get?_eq_some_iff]

end Store

end Understudy
