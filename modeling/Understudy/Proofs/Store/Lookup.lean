import Understudy.Proofs.Store.Changes
import Understudy.Proofs.Store.Ranking

/-!
# What a lookup finds

A lookup by name stands for one key, or for two if the left part has points. In a sound store it
finds those of these keys that have a bucket, so it lists the stored values that are *on the route*:
the key of their name is among the keys of the route. If there are none, the right part is missing
exactly if a left part of the route is known.

## Main definitions

* `routeNames`, `routeKeys`: the left parts that a name stands for, and the keys
* `OnRoute`: a value's name has one of the keys

## Main results

* `shortName?_eq_some_iff`: the short form of a name
* `Store.Sound.evalBy_position`: the keys that a lookup finds, or what it misses
* `Store.Sound.findAll_ok`, `Store.Sound.findAll_error`: what a lookup lists
* `Store.Sound.findIn_ok`, `Store.Sound.findIn_error`: the value with an identifier
-/

namespace Understudy

/-! ## Routes -/

theorem reverse_takeWhile_append {c : Char} {before after : List Char} (h : c ∉ after) :
    ((before ++ c :: after).reverse.takeWhile (· != c)).reverse = after := by
  rw [List.reverse_append, List.reverse_cons, List.append_assoc, List.takeWhile_append_of_pos]
  · simp
  · intro a ha
    simp only [bne_iff_ne]
    rintro rfl
    exact h (List.mem_reverse.mp ha)

/-- The short form of a name is what follows its last point. -/
theorem shortName?_eq_some_iff {name short : String} :
    shortName? name = some short ↔
      ∃ qualifier, name = qualifier ++ "." ++ short ∧ '.' ∉ short.toList := by
  unfold shortName?
  constructor
  · intro h
    split at h
    · next hmem =>
      -- the first point of the reversed name is the last one of the name
      obtain ⟨after, before, hsplit, hafter⟩ :=
        List.eq_append_cons_of_mem (List.mem_reverse.mpr (List.contains_iff_mem.mp hmem))
      have hlist : name.toList = before.reverse ++ '.' :: after.reverse := by
        rw [← List.reverse_reverse name.toList, hsplit]
        simp
      rw [hlist, reverse_takeWhile_append (by simpa using hafter)] at h
      obtain rfl := Option.some.inj h
      refine ⟨String.ofList before.reverse, String.toList_inj.mp ?_, by simpa using hafter⟩
      simp [hlist]
    · cases h
  · rintro ⟨qualifier, rfl, hshort⟩
    have hlist : (qualifier ++ "." ++ short).toList = qualifier.toList ++ '.' :: short.toList := by
      simp
    rw [hlist, reverse_takeWhile_append hshort, String.ofList_toList, if_pos (by simp)]

/-- The left parts that a left part stands for. -/
def routeNames (left : String) : List String :=
  left :: (shortName? left).toList

/-- The keys that a name stands for, each once. -/
def routeKeys (digest : String → UInt32) (left right : String) : List UInt64 :=
  ((routeNames left).map fun name => nameKey digest name right).dedup

/-- Whether a value is filed under one of the keys of a name. -/
def OnRoute {α : Type} [Filed α] (digest : String → UInt32) (left right : String) (value : α) :
    Prop :=
  valueKey digest value ∈ routeKeys digest left right

instance {α : Type} [Filed α] (digest : String → UInt32) (left right : String) (value : α) :
    Decidable (OnRoute digest left right value) :=
  inferInstanceAs (Decidable (_ ∈ _))

theorem routeKeys_nodup (digest : String → UInt32) (left right : String) :
    (routeKeys digest left right).Nodup :=
  List.nodup_dedup _

theorem routeKeys_of_none {digest : String → UInt32} {left right : String}
    (h : shortName? left = none) : routeKeys digest left right = [nameKey digest left right] := by
  simp [routeKeys, routeNames, h]

theorem routeKeys_of_some {digest : String → UInt32} {left right short : String}
    (h : shortName? left = some short) :
    routeKeys digest left right =
      if nameKey digest left right = nameKey digest short right then [nameKey digest left right]
      else [nameKey digest left right, nameKey digest short right] := by
  simp only [routeKeys, routeNames, h, Option.toList_some, List.map_cons, List.map_nil]
  split
  · next he => simp [he]
  · next hne => rw [List.dedup_eq_self]; simp [hne]

namespace Store

variable {α : Type} [Filed α] {oracle : Oracle} {store : Store α}

/-! ## What is known of keys and left digests -/

/-- There is a bucket for a key exactly if a stored value has it. -/
theorem Sound.has_buckets_iff (h : store.Sound oracle.digest) {key : UInt64} :
    store.buckets.has key ↔ ∃ value ∈ store.values, valueKey oracle.digest value = key := by
  unfold Table.has
  constructor
  · intro hs
    obtain ⟨bucket, hb⟩ := Option.isSome_iff_exists.mp hs
    -- no bucket is empty, so there is a value to name
    obtain ⟨entry, rest, he⟩ := List.exists_cons_of_ne_nil (h.bucket_ne_nil key bucket hb)
    have hmem : entry.2 ∈ (store.bucket key).map Prod.snd := by
      rw [Store.bucket, hb, he]
      exact List.mem_cons_self
    obtain ⟨hv, hkey⟩ := h.mem_bucket.mp hmem
    exact ⟨entry.2, h.mem_values.mpr hv, hkey⟩
  · rintro ⟨value, hv, rfl⟩
    have hs : ((store.bucket (valueKey oracle.digest value)).find? (Filed.id value)).isSome := by
      rw [(h.bucket_of_get? (h.mem_values.mp hv)).2]
      rfl
    rw [find?_buckets_of_bucket hs]
    rfl

/-- A left digest is known exactly if a stored value has it. -/
theorem Sound.has_lefts_iff (h : store.Sound oracle.digest) {left : UInt32} :
    store.lefts.has left ↔ ∃ value ∈ store.values, oracle.digest (Filed.left value) = left := by
  have hleft : ∀ value : α, leftOf (valueKey oracle.digest value) =
      oracle.digest (Filed.left value) := fun value => leftOf_bucketKey _ _
  rw [Table.has, h.lefts_eq, h.filedUnder_eq]
  simp only [hleft]
  by_cases hz : store.values.countP (fun v => oracle.digest (Filed.left v) = left) = 0
  · rw [if_pos hz]
    rw [List.countP_eq_zero] at hz
    simpa using hz
  · rw [if_neg hz]
    obtain ⟨value, hv, hl⟩ := List.countP_pos_iff.mp (Nat.pos_of_ne_zero hz)
    exact iff_of_true rfl ⟨value, hv, of_decide_eq_true hl⟩

/-- A key that has a bucket has a left digest that is known. -/
theorem Sound.has_lefts_of_has_buckets (h : store.Sound oracle.digest) {left right : UInt32}
    (hb : store.buckets.has (bucketKey left right)) : store.lefts.has left := by
  obtain ⟨value, hv, hkey⟩ := h.has_buckets_iff.mp hb
  exact h.has_lefts_iff.mpr ⟨value, hv, (bucketKey_inj.mp hkey).1⟩

theorem Sound.locate_eq (h : store.Sound oracle.digest) (left right : UInt32) :
    store.locate left right =
      if store.buckets.has (bucketKey left right) then .ok (bucketKey left right)
      else if store.lefts.has left then .error .right else .error .left := by
  unfold locate
  by_cases hb : store.buckets.has (bucketKey left right)
  · rw [if_pos (h.has_lefts_of_has_buckets hb), if_pos hb, if_pos hb]
  · rw [if_neg hb, if_neg hb]

/-! ## The keys that are found -/

/-- **The keys that a lookup finds** are those of the route that have a bucket. -/
theorem Sound.evalBy_position (h : store.Sound oracle.digest) (left right : String) :
    (store.position left right).evalBy oracle =
      let keys := (routeKeys oracle.digest left right).filter fun key => store.buckets.has key
      if keys = [] then
        .error (if (routeNames left).any fun name => store.lefts.has (oracle.digest name)
          then .right else .left)
      else .ok keys := by
  unfold position
  cases hshort : shortName? left with
  | none =>
    rw [routeKeys_of_none hshort]
    simp only [Consult.evalBy_bind, Consult.evalBy_digested, Consult.evalBy_pure, h.locate_eq,
      routeNames, hshort, Option.toList_none, nameKey]
    by_cases hk : store.buckets.has (bucketKey (oracle.digest left) (oracle.digest right)) <;>
      by_cases hl : store.lefts.has (oracle.digest left) <;>
        simp [hk, hl, Except.map]
  | some short =>
    rw [routeKeys_of_some hshort]
    simp only [Consult.evalBy_bind, Consult.evalBy_digested, Consult.evalBy_pure, h.locate_eq,
      routeNames, hshort, Option.toList_some, nameKey]
    -- with one key, or with two of which each may have a bucket
    by_cases he : bucketKey (oracle.digest left) (oracle.digest right) =
        bucketKey (oracle.digest short) (oracle.digest right)
    · have hd := (bucketKey_inj.mp he).1
      by_cases hk : store.buckets.has (bucketKey (oracle.digest short) (oracle.digest right)) <;>
        by_cases hl : store.lefts.has (oracle.digest short) <;>
          simp [hd, hk, hl, joinKeys]
    · by_cases hk : store.buckets.has (bucketKey (oracle.digest left) (oracle.digest right)) <;>
        by_cases hk' : store.buckets.has (bucketKey (oracle.digest short) (oracle.digest right)) <;>
          by_cases hl : store.lefts.has (oracle.digest left) <;>
            by_cases hl' : store.lefts.has (oracle.digest short) <;>
              simp [he, hk, hk', hl, hl', joinKeys]

/-- The keys of a route that have a bucket. -/
def foundKeys (digest : String → UInt32) (store : Store α) (left right : String) : List UInt64 :=
  (routeKeys digest left right).filter fun key => store.buckets.has key

omit [Filed α] in
theorem foundKeys_nodup (digest : String → UInt32) (store : Store α) (left right : String) :
    (foundKeys digest store left right).Nodup :=
  (routeKeys_nodup digest left right).filter _

/-- A stored value has one of the keys that are found exactly if it is on the route. -/
theorem Sound.mem_foundKeys (h : store.Sound oracle.digest) {left right : String} {value : α}
    (hv : value ∈ store.values) :
    valueKey oracle.digest value ∈ foundKeys oracle.digest store left right ↔
      OnRoute oracle.digest left right value := by
  rw [foundKeys, List.mem_filter, OnRoute]
  exact and_iff_left (h.has_buckets_iff.mpr ⟨value, hv, rfl⟩)

theorem Sound.foundKeys_eq_nil_iff (h : store.Sound oracle.digest) {left right : String} :
    foundKeys oracle.digest store left right = [] ↔
      ∀ value ∈ store.values, ¬ OnRoute oracle.digest left right value := by
  rw [foundKeys, List.filter_eq_nil_iff]
  constructor
  · intro hnone value hv hroute
    exact hnone _ hroute (h.has_buckets_iff.mpr ⟨value, hv, rfl⟩)
  · intro hnone key hkey hb
    obtain ⟨value, hv, rfl⟩ := h.has_buckets_iff.mp hb
    exact hnone value hv hkey

theorem Sound.position_ok (h : store.Sound oracle.digest) {left right : String}
    (hroute : ∃ value ∈ store.values, OnRoute oracle.digest left right value) :
    (store.position left right).evalBy oracle =
      .ok (foundKeys oracle.digest store left right) := by
  rw [h.evalBy_position]
  refine if_neg fun hnil => ?_
  obtain ⟨value, hv, hon⟩ := hroute
  exact h.foundKeys_eq_nil_iff.mp hnil value hv hon

/-- The part that is missing if nothing is stored on a route. -/
theorem Sound.position_error (h : store.Sound oracle.digest) {left right : String}
    (hroute : ∀ value ∈ store.values, ¬ OnRoute oracle.digest left right value) :
    (store.position left right).evalBy oracle =
      .error (if ∃ name ∈ routeNames left, ∃ value ∈ store.values,
          oracle.digest (Filed.left value) = oracle.digest name then .right else .left) := by
  rw [h.evalBy_position]
  simp only [List.any_eq_true, h.has_lefts_iff]
  exact if_pos (h.foundKeys_eq_nil_iff.mpr hroute)

/-! ## The values that are found -/

/-- **A lookup lists** the stored values on its route, each once and sorted by place. -/
theorem Sound.findAll_ok (h : store.Sound oracle.digest) {left right : String}
    (hroute : ∃ value ∈ store.values, OnRoute oracle.digest left right value) :
    ∃ ranking, (store.findAll left right).evalBy oracle = .ok ranking ∧
      (ranking.toList.map Filed.id).Nodup ∧
      (ranking.toList.Pairwise fun a b => place a ≤ place b) ∧
      ∀ value, value ∈ ranking.toList ↔
        value ∈ store.values ∧ OnRoute oracle.digest left right value := by
  have hperm := Ranking.toList_ofList_perm
    (store.valuesUnder (foundKeys oracle.digest store left right))
  refine ⟨.ofList (store.valuesUnder (foundKeys oracle.digest store left right)), ?_, ?_,
    Ranking.toList_ofList_sorted _, fun value => ?_⟩
  · rw [findAll, Consult.evalBy_bind, h.position_ok hroute]
    rfl
  · rw [(hperm.map Filed.id).nodup_iff]
    exact h.nodup_ids_valuesUnder (foundKeys_nodup _ _ _ _)
  · rw [hperm.mem_iff, h.mem_valuesUnder, ← h.mem_values]
    exact and_congr_right fun hv => h.mem_foundKeys hv

theorem Sound.findAll_error (h : store.Sound oracle.digest) {left right : String}
    (hroute : ∀ value ∈ store.values, ¬ OnRoute oracle.digest left right value) :
    (store.findAll left right).evalBy oracle =
      .error (if ∃ name ∈ routeNames left, ∃ value ∈ store.values,
          oracle.digest (Filed.left value) = oracle.digest name then .right else .left) := by
  rw [findAll, Consult.evalBy_bind, h.position_error hroute]
  rfl

/-- Among some buckets there is one value with an identifier at most. -/
theorem Sound.findSome?_bucket (h : store.Sound oracle.digest) (keys : List UInt64)
    (id : Identifier) :
    (keys.findSome? fun key => (store.bucket key).find? id) =
      (store.get? id).filter fun value => valueKey oracle.digest value ∈ keys := by
  apply Option.ext
  intro value
  rw [Option.filter_eq_some_iff, decide_eq_true_iff]
  constructor
  · intro hsome
    obtain ⟨key, hkey, hv⟩ := List.exists_of_findSome?_eq_some hsome
    exact ⟨h.get?_eq_some_iff.mpr ⟨key, hv⟩, (h.filed key id value hv).2 ▸ hkey⟩
  · rintro ⟨hv, hkey⟩
    obtain ⟨hid, hbucket⟩ := h.bucket_of_get? hv
    -- the search yields something, and an identifier has one value only
    cases hs : keys.findSome? fun key => (store.bucket key).find? id with
    | none =>
      rw [List.findSome?_eq_none_iff.mp hs _ hkey] at hbucket
      cases hbucket
    | some other =>
      obtain ⟨key, -, ho⟩ := List.exists_of_findSome?_eq_some hs
      rw [← hv, h.get?_eq_some_iff.mpr ⟨key, ho⟩]

/-- **A lookup by identifier** finds the stored value if it is on the route. -/
theorem Sound.findIn_ok (h : store.Sound oracle.digest) {left right : String} (id : Identifier)
    (hroute : ∃ value ∈ store.values, OnRoute oracle.digest left right value) :
    (store.findIn left right id).evalBy oracle =
      .ok ((store.get? id).filter fun value => OnRoute oracle.digest left right value) := by
  rw [findIn, Consult.evalBy_bind, h.position_ok hroute, Consult.evalBy_pure, Except.map,
    h.findSome?_bucket]
  cases hv : store.get? id with
  | none => rfl
  | some value =>
    have hmem : value ∈ store.values := h.mem_values.mpr ((h.bucket_of_get? hv).1.symm ▸ hv)
    simp only [Option.filter_some, h.mem_foundKeys hmem]

theorem Sound.findIn_error (h : store.Sound oracle.digest) {left right : String}
    (id : Identifier) (hroute : ∀ value ∈ store.values, ¬ OnRoute oracle.digest left right value) :
    (store.findIn left right id).evalBy oracle =
      .error (if ∃ name ∈ routeNames left, ∃ value ∈ store.values,
          oracle.digest (Filed.left value) = oracle.digest name then .right else .left) := by
  rw [findIn, Consult.evalBy_bind, h.position_error hroute]
  rfl

end Store

end Understudy
