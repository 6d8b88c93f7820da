import Understudy.Proofs.Store.Lookup
import Understudy.Stub.Filing

/-!
# A store is a finite map

What a store holds is a map from identifiers to values. A value that is stored takes the place of
any with its identifier, and a deletion takes identifiers out, so the map after a run of changes is
told by the changes alone. Everything that can be asked of the store is told by the map in turn:
two runs that lead to one map lead to equal stores.

## Main definitions

* `Contents`, `Contents.after`: a map from identifiers to values, and the map after some changes
* `namesInUse`, `namesAmong`: the names that a lookup compares, also where the values are listed

## Main results

* `Store.Sound.get?_after`: the store after some changes holds the map after the changes
* `Store.Sound.ext_get?`: a sound store is determined by its map
* `Store.refines_contents`: what can be asked of a store after a run of changes
-/

namespace Understudy

/-- What a store holds: at most one value for each identifier. -/
abbrev Contents (α : Type) := Identifier → Option α

namespace Contents

variable {α : Type} [Filed α]

/-- The map after a change. -/
def apply (contents : Contents α) : Change α → Contents α
  | .upsert values =>
    values.foldl (fun map value => Function.update map (Filed.id value) (some value)) contents
  | .delete ids => ids.foldl (fun map id => Function.update map id none) contents
  | .deleteWhere test => fun id => (contents id).filter fun value => !test value
  | .clear => fun _ => none

/-- The map after some changes, made one after the other to the empty map. -/
def after (changes : List (Change α)) : Contents α :=
  changes.foldl apply fun _ => none

omit [Filed α] in
/-- Taking out some identifiers leaves the others. -/
theorem foldl_none (ids : List Identifier) (contents : Contents α) (id : Identifier) :
    ids.foldl (fun map id => Function.update map id none) contents id =
      if id ∈ ids then none else contents id := by
  induction ids generalizing contents with
  | nil => rfl
  | cons first rest ih =>
    rw [List.foldl_cons, ih]
    by_cases hrest : id ∈ rest
    · rw [if_pos hrest, if_pos (List.mem_cons_of_mem _ hrest)]
    · by_cases hfirst : id = first
      · subst hfirst
        rw [if_neg hrest, if_pos List.mem_cons_self, Function.update_self]
      · have hne : id ∉ first :: rest := by simp [hfirst, hrest]
        rw [if_neg hrest, if_neg hne, Function.update_of_ne hfirst]

/-- What is stored after a batch of values with different identifiers. -/
theorem upsert_eq_some_iff {values : List α} (hids : (values.map Filed.id).Nodup)
    {contents : Contents α} {id : Identifier} {value : α} :
    Contents.apply contents (.upsert values) id = some value ↔
      value ∈ values ∧ Filed.id value = id ∨
        id ∉ values.map Filed.id ∧ contents id = some value := by
  induction values generalizing contents with
  | nil => simp [Contents.apply]
  | cons first rest ih =>
    obtain ⟨hfirst, hrest⟩ := List.nodup_cons.mp hids
    have hupdate : Contents.apply contents (.upsert (first :: rest)) id = some value ↔
        value ∈ rest ∧ Filed.id value = id ∨ id ∉ rest.map Filed.id ∧
          Function.update contents (Filed.id first) (some first) id = some value :=
      ih hrest
    rw [hupdate, List.map_cons, List.mem_cons, List.mem_cons, Function.update_apply]
    by_cases hid : id = Filed.id first
    · -- no later value takes the place of the first
      subst hid
      rw [if_pos rfl, Option.some.injEq]
      constructor
      · rintro (⟨hmem, hvalue⟩ | ⟨-, rfl⟩)
        · exact .inl ⟨.inr hmem, hvalue⟩
        · exact .inl ⟨.inl rfl, rfl⟩
      · rintro (⟨rfl | hmem, hvalue⟩ | ⟨hnot, -⟩)
        · exact .inr ⟨hfirst, rfl⟩
        · exact .inl ⟨hmem, hvalue⟩
        · exact absurd (.inl rfl) hnot
    · have hne : value = first → Filed.id value ≠ id := by
        rintro rfl he
        exact hid he.symm
      rw [if_neg hid]
      tauto

end Contents

namespace Store

variable {α : Type} [Filed α] {digest : String → UInt32} {oracle : Oracle} {store : Store α}

/-! ## The map of a store -/

theorem Sound.get?_remove_eq_update (h : store.Sound digest) (id : Identifier) :
    (store.remove id).2.get? = Function.update store.get? id none := by
  funext other
  rw [h.get?_remove, Function.update_apply]

theorem Sound.get?_put_eq_update (h : store.Sound digest) (value : α) :
    (store.put (valueKey digest value) value).get? =
      Function.update store.get? (Filed.id value) (some value) := by
  funext other
  rw [h.get?_put, Function.update_apply]

theorem Sound.get?_file (h : store.Sound digest) (values : List α) :
    (store.afterSteps digest (values.map .file)).get? =
      values.foldl (fun map value => Function.update map (Filed.id value) (some value))
        store.get? := by
  induction values generalizing store with
  | nil => rfl
  | cons value rest ih =>
    rw [List.foldl_cons, ← h.get?_put_eq_update, ← ih (h.put value)]
    rfl

theorem Sound.get?_take (h : store.Sound digest) (ids : List Identifier) :
    (store.afterSteps digest (ids.map .take)).get? =
      ids.foldl (fun map id => Function.update map id none) store.get? := by
  induction ids generalizing store with
  | nil => rfl
  | cons id rest ih =>
    rw [List.foldl_cons, ← h.get?_remove_eq_update, ← ih (h.remove id)]
    rfl

/-- The identifiers of the values that pass a test. -/
theorem Sound.mem_selected (h : store.Sound digest) {test : α → Bool} {id : Identifier} :
    id ∈ (store.values.filter test).map Filed.id ↔
      ∃ value, store.get? id = some value ∧ test value = true := by
  rw [List.mem_map]
  constructor
  · rintro ⟨value, hv, rfl⟩
    obtain ⟨hv, ht⟩ := List.mem_filter.mp hv
    exact ⟨value, h.mem_values.mp hv, ht⟩
  · rintro ⟨value, hv, ht⟩
    obtain rfl := (h.bucket_of_get? hv).1
    exact ⟨value, List.mem_filter.mpr ⟨h.mem_values.mpr hv, ht⟩, rfl⟩

/-- A change of a store is a change of its map. -/
theorem Sound.get?_apply (h : store.Sound oracle.digest) (change : Change α) :
    ((change.apply store).evalBy oracle).get? = Contents.apply store.get? change := by
  rw [evalBy_apply]
  cases change with
  | upsert values => exact h.get?_file values
  | delete ids => exact h.get?_take ids
  | deleteWhere test =>
    refine (h.get?_take _).trans (funext fun id => ?_)
    -- the identifiers taken out are those whose values pass the test
    rw [Contents.foldl_none, Contents.apply]
    simp only [h.mem_selected]
    cases store.get? id with
    | none => simp
    | some value => cases ht : test value <;> simp [ht, Option.filter]
  | clear => rfl

/-- **A run of changes** of a store is a run of changes of its map. -/
theorem Sound.get?_after (h : store.Sound oracle.digest) (changes : List (Change α)) :
    ((store.after changes).evalBy oracle).get? = changes.foldl Contents.apply store.get? := by
  induction changes generalizing store with
  | nil => rfl
  | cons change rest ih =>
    rw [Store.after, Consult.evalBy_bind, ih (h.apply change), h.get?_apply, List.foldl_cons]

/-- A bucket holds the values of the map that have its key. -/
theorem Sound.find?_bucket (h : store.Sound digest) (key : UInt64) (id : Identifier) :
    (store.bucket key).find? id =
      (store.get? id).filter fun value => valueKey digest value = key := by
  apply Option.ext
  intro value
  rw [Option.filter_eq_some_iff, decide_eq_true_iff]
  constructor
  · intro hv
    exact ⟨h.get?_eq_some_iff.mpr ⟨key, hv⟩, (h.filed key id value hv).2⟩
  · rintro ⟨hv, rfl⟩
    exact (h.bucket_of_get? hv).2

theorem Sound.find?_buckets (h : store.Sound digest) (key : UInt64) :
    store.buckets.find? key = if store.bucket key = [] then none else some (store.bucket key) := by
  cases hb : store.buckets.find? key with
  | none => simp [bucket, hb]
  | some bucket =>
    have he : store.bucket key = bucket := by
      rw [Store.bucket, hb]
      rfl
    rw [he, if_neg (h.bucket_ne_nil key bucket hb)]

/-- **A sound store is determined by its map.** -/
theorem Sound.ext_get? {other : Store α} (h : store.Sound digest) (h' : other.Sound digest)
    (heq : store.get? = other.get?) : store = other := by
  -- each table is told by the one before it: buckets, keys, counts
  have hbucket : ∀ key, store.bucket key = other.bucket key := fun key =>
    (h.bucket_ascending key).ext_find? (h'.bucket_ascending key) fun id => by
      rw [h.find?_bucket, h'.find?_bucket, heq]
  have hbuckets : store.buckets = other.buckets :=
    h.buckets_ascending.ext_find? h'.buckets_ascending fun key => by
      rw [h.find?_buckets, h'.find?_buckets, hbucket]
  have hkeys : store.keys = other.keys :=
    h.keys_ascending.ext_find? h'.keys_ascending fun id => Option.ext fun key => by
      rw [h.keys_iff, h'.keys_iff, hbucket]
  have hlefts : store.lefts = other.lefts :=
    h.lefts_ascending.ext_find? h'.lefts_ascending fun left => by
      rw [h.lefts_eq, h'.lefts_eq, filedUnder, filedUnder, hkeys]
  cases store
  cases other
  simp only [mk.injEq]
  exact ⟨hlefts, hbuckets, hkeys⟩

/-! ## Counts -/

/-- There are as many values as identifiers that have one. -/
theorem Sound.size_eq_encard (h : store.Sound digest) :
    (store.size : ℕ∞) = {id | (store.get? id).isSome}.encard := by
  have hset : {id | (store.get? id).isSome} = ((store.values.map Filed.id).toFinset : Set _) := by
    ext id
    rw [Set.mem_ofPred_eq, List.coe_toFinset, Set.mem_ofPred_eq, List.mem_map]
    constructor
    · intro hs
      obtain ⟨value, hv⟩ := Option.isSome_iff_exists.mp hs
      obtain rfl := (h.bucket_of_get? hv).1
      exact ⟨value, h.mem_values.mpr hv, rfl⟩
    · rintro ⟨value, hv, rfl⟩
      rw [h.mem_values.mp hv]
      rfl
  rw [hset, Set.encard_coe_eq_coe_finsetCard, List.toFinset_card_of_nodup h.nodup_ids_values,
    List.length_map, h.size_eq]

/-- A deletion counts every identifier that has a value once. -/
theorem Sound.delete_fst (h : store.Sound digest) (ids : List Identifier) :
    (store.delete ids).1 = (ids.toFinset.filter fun id => (store.get? id).isSome).card := by
  induction ids generalizing store with
  | nil => rfl
  | cons id rest ih =>
    -- an identifier that has been deleted is not counted again
    have hrest : (rest.toFinset.filter fun other => ((store.remove id).2.get? other).isSome) =
        (rest.toFinset.filter fun other => (store.get? other).isSome).erase id := by
      ext other
      simp only [Finset.mem_filter, Finset.mem_erase, h.get?_remove]
      by_cases ho : other = id <;> simp [ho]
    show (if (store.remove id).1.isSome then ((store.remove id).2.delete rest).1 + 1
      else ((store.remove id).2.delete rest).1) = _
    rw [List.toFinset_cons, Finset.filter_insert, h.remove_fst, ih (h.remove id), hrest]
    split
    · rw [← Finset.erase_insert_eq_erase, Finset.card_erase_add_one (Finset.mem_insert_self _ _)]
    · next hnone =>
      rw [Finset.erase_eq_of_notMem]
      exact fun hmem => hnone (Finset.mem_filter.mp hmem).2

end Store

/-! ## Lookups by name

Digests stand for names as long as no two names in use have the same one. -/

/-- Whether a value has a name: its right part is that of the name, and its left part is that of
the name or what follows the last point there. -/
def Named {α : Type} [Filed α] (left right : String) (value : α) : Prop :=
  Filed.right value = right ∧ (Filed.left value = left ∨
    ∃ qualifier, left = qualifier ++ "." ++ Filed.left value ∧ '.' ∉ (Filed.left value).toList)

/-- The names whose digests are compared when a name is looked up. -/
def namesInUse {α : Type} [Filed α] (contents : Contents α) (left right : String) : Set String :=
  {name | name = right ∨ name ∈ routeNames left ∨ ∃ id value, contents id = some value ∧
    (name = Filed.left value ∨ name = Filed.right value)}

variable {α : Type} [Filed α]

/-- The names that a lookup compares, where some values are stored. -/
def namesAmong (values : List α) (left right : String) : List String :=
  right :: (routeNames left ++ values.flatMap fun value => [Filed.left value, Filed.right value])

/-- Where all values are listed, the digests of finitely many names have to be compared. -/
theorem injOn_namesInUse {digest : String → UInt32} {contents : Contents α} {values : List α}
    {left right : String} (hvalues : ∀ id value, contents id = some value → value ∈ values)
    (hdigest : ∀ a ∈ namesAmong values left right, ∀ b ∈ namesAmong values left right,
      digest a = digest b → a = b) :
    Set.InjOn digest (namesInUse contents left right) := by
  have hnames : ∀ name ∈ namesInUse contents left right, name ∈ namesAmong values left right := by
    rintro name (rfl | hroute | ⟨id, value, hvalue, hname⟩)
    · exact List.mem_cons_self
    · exact List.mem_cons_of_mem _ (List.mem_append_left _ hroute)
    · refine List.mem_cons_of_mem _ (List.mem_append_right _ ?_)
      exact List.mem_flatMap.mpr ⟨value, hvalues id value hvalue, List.mem_pair.mpr hname⟩
  exact fun a ha b hb => hdigest a (hnames a ha) b (hnames b hb)

theorem named_iff {left right : String} {value : α} :
    Named left right value ↔ Filed.left value ∈ routeNames left ∧ Filed.right value = right := by
  rw [Named, routeNames, List.mem_cons, Option.mem_toList, shortName?_eq_some_iff, and_comm]

/-- The values that have a name are on its route. -/
theorem onRoute_of_named {digest : String → UInt32} {left right : String} {value : α}
    (h : Named left right value) : OnRoute digest left right value := by
  obtain ⟨hname, rfl⟩ := named_iff.mp h
  rw [OnRoute, routeKeys, List.mem_dedup, List.mem_map]
  exact ⟨_, hname, rfl⟩

/-- Without collisions, the values on a route are those that have its name. -/
theorem onRoute_iff_named {digest : String → UInt32} {contents : Contents α}
    {left right : String} (hinj : Set.InjOn digest (namesInUse contents left right))
    {id : Identifier} {value : α} (hv : contents id = some value) :
    OnRoute digest left right value ↔ Named left right value := by
  refine ⟨fun hon => ?_, onRoute_of_named⟩
  rw [OnRoute, routeKeys, List.mem_dedup, List.mem_map] at hon
  obtain ⟨name, hname, hkey⟩ := hon
  obtain ⟨hl, hr⟩ := bucketKey_inj.mp hkey
  obtain rfl := hinj (.inr (.inl hname)) (.inr (.inr ⟨id, value, hv, .inl rfl⟩)) hl
  exact named_iff.mpr
    ⟨hname, hinj (.inr (.inr ⟨id, value, hv, .inr rfl⟩)) (.inl rfl) hr.symm⟩

namespace Store

variable {oracle : Oracle} {store : Store α}

/-- The first value of a list with an identifier that comes there once at most. -/
theorem find?_id_eq_some_iff {values : List α} (hids : (values.map Filed.id).Nodup)
    {id : Identifier} {value : α} :
    (values.find? fun value => Filed.id value = id) = some value ↔
      value ∈ values ∧ Filed.id value = id := by
  constructor
  · intro hfind
    exact ⟨List.mem_of_find?_eq_some hfind, by simpa using List.find?_some hfind⟩
  · rintro ⟨hmem, rfl⟩
    cases hfind : values.find? fun other => Filed.id other = Filed.id value with
    | none => simpa using List.find?_eq_none.mp hfind value hmem
    | some other =>
      have hid : Filed.id other = Filed.id value := by
        simpa using List.find?_some hfind
      exact congrArg some
        (List.inj_on_of_nodup_map hids (List.mem_of_find?_eq_some hfind) hmem hid)

/-- What is looked up by a name, and by a name and an identifier. -/
theorem Sound.lookup_named (h : store.Sound oracle.digest) {left right : String}
    (hinj : Set.InjOn oracle.digest (namesInUse store.get? left right))
    (hnamed : ∃ id value, store.get? id = some value ∧ Named left right value) :
    ∃ ranking, (store.findAll left right).evalBy oracle = .ok ranking ∧
      (ranking.toList.map Filed.id).Nodup ∧
      (ranking.toList.Pairwise fun a b => place a ≤ place b) ∧
      (∀ value, value ∈ ranking.toList ↔
        store.get? (Filed.id value) = some value ∧ Named left right value) ∧
      ∀ id, (store.findIn left right id).evalBy oracle =
        .ok (ranking.toList.find? fun value => Filed.id value = id) := by
  have hroute : ∃ value ∈ store.values, OnRoute oracle.digest left right value := by
    obtain ⟨id, value, hv, hn⟩ := hnamed
    exact ⟨value, h.mem_values.mpr ((h.bucket_of_get? hv).1.symm ▸ hv),
      (onRoute_iff_named hinj hv).mpr hn⟩
  obtain ⟨ranking, heval, hids, hsorted, hmem⟩ := h.findAll_ok hroute
  have hmem' : ∀ value, value ∈ ranking.toList ↔
      store.get? (Filed.id value) = some value ∧ Named left right value := by
    intro value
    rw [hmem, h.mem_values]
    exact and_congr_right fun hv => onRoute_iff_named hinj hv
  refine ⟨ranking, heval, hids, hsorted, hmem', fun id => ?_⟩
  rw [h.findIn_ok id hroute]
  -- both sides hold the value with this identifier, if it has the name
  congr 1
  apply Option.ext
  intro value
  rw [Option.filter_eq_some_iff, decide_eq_true_iff, find?_id_eq_some_iff hids, hmem']
  constructor
  · rintro ⟨hv, hon⟩
    obtain rfl := (h.bucket_of_get? hv).1
    exact ⟨⟨hv, (onRoute_iff_named hinj hv).mp hon⟩, rfl⟩
  · rintro ⟨⟨hv, hn⟩, rfl⟩
    exact ⟨hv, (onRoute_iff_named hinj hv).mpr hn⟩

/-- **A store is the map of its changes**, after any run of them on an empty store, whatever the
digests are and however few of them are remembered. Single values, all values, counts and
deletions are told by the map. A name that some value of the map has is looked up right as long as
no names in use have the same digest: its values are listed, each once, by descending score and then
by ascending identifier, in whatever order they were gathered, and the value with an identifier is
the one that is listed. Two runs with the same map lead to the same store. -/
theorem refines_contents (oracle : Oracle) (patterns digests : Nat)
    (changes : List (Change α)) :
    let result := (Store.empty.after changes).runBy oracle (.ofCapacities patterns digests)
    let store := result.1
    let contents := Contents.after changes
    (∀ id, store.get? id = contents id) ∧
    (∀ ids, store.getAll ids = ids.filterMap contents) ∧
    (store.values.Nodup ∧
      ∀ value, value ∈ store.values ↔ contents (Filed.id value) = some value) ∧
    (store.size : ℕ∞) = {id | (contents id).isSome}.encard ∧
    (∀ ids, (store.delete ids).1 = (ids.toFinset.filter fun id => (contents id).isSome).card) ∧
    (∀ test, (store.deleteWhere test).1.Nodup ∧ ∀ id, id ∈ (store.deleteWhere test).1 ↔
      ∃ value, contents id = some value ∧ test value = true) ∧
    (∀ left right, Set.InjOn oracle.digest (namesInUse contents left right) →
      (∃ id value, contents id = some value ∧ Named left right value) →
      ∃ ranking, ((store.findAll left right).runBy oracle result.2).1 = .ok ranking ∧
        ranking.toList.Nodup ∧
        (∀ value, value ∈ ranking.toList ↔
          contents (Filed.id value) = some value ∧ Named left right value) ∧
        (ranking.toList.Pairwise fun a b => Filed.score b < Filed.score a ∨
          Filed.score a = Filed.score b ∧ Filed.id a < Filed.id b) ∧
        (∀ gathered, gathered.Perm ranking.toList →
          (Ranking.ofList gathered).toList = ranking.toList) ∧
        ∀ id, ((store.findIn left right id).runBy oracle result.2).1 =
          .ok (ranking.toList.find? fun value => Filed.id value = id)) ∧
    ∀ patterns' digests' others, Contents.after others = contents →
      ((Store.empty.after others).runBy oracle (.ofCapacities patterns' digests')).1 = store := by
  intro result store contents
  have hcaches : (Caches.ofCapacities patterns digests).Sound oracle :=
    Caches.Sound.ofCapacities patterns digests
  have hempty : (Store.empty : Store α).Sound oracle.digest := Sound.empty
  have hrun : store = (Store.empty.after changes).evalBy oracle := runBy_after _ _ changes _
  have h : store.Sound oracle.digest := hrun ▸ hempty.after changes
  have hcontents : store.get? = contents := by
    rw [hrun, hempty.get?_after]
    rfl
  have hresult : result.2.Sound oracle := Consult.runBy_sound _ hcaches
  rw [← hcontents]
  refine ⟨fun _ => rfl, fun _ => rfl, ⟨h.nodup_values, fun _ => h.mem_values⟩, h.size_eq_encard,
    h.delete_fst, fun test => ⟨?_, fun _ => h.mem_selected⟩, ?_, ?_⟩
  · exact h.nodup_ids_values.sublist (List.filter_sublist.map _)
  · intro left right hinj hnamed
    obtain ⟨ranking, hall, hids, hsorted, hmem, hin⟩ := h.lookup_named hinj hnamed
    refine ⟨ranking, (Consult.runBy_fst _ hresult).trans hall, hids.of_map, hmem, ?_, ?_,
      fun id => (Consult.runBy_fst _ hresult).trans (hin id)⟩
    · refine (pairwise_precedes hsorted hids).imp fun hlt => ?_
      simpa [precedes] using hlt
    · exact fun gathered hperm => Ranking.toList_ofList_eq hperm hsorted hids
  · intro patterns' digests' others hothers
    rw [runBy_after]
    exact (hempty.after others).ext_get? h ((hempty.get?_after others).trans hothers)

end Store

/-! ## A stub that moves -/

namespace Depot

/-- A stub of a service. -/
def stub (id : ℕ) (service : String) (priority : Int64) : Stub where
  id := ⟨BitVec.ofNat 128 id⟩
  service := service
  method := "Add"
  priority := priority

/-- Four stubs are stored; then one moves to another service, and another one is deleted. -/
def changes : List (Change Stub) :=
  [.upsert [stub 1 "shop.Cart" 0, stub 2 "Cart" 5, stub 3 "Mug" 0, stub 4 "Cart" 9],
    .upsert [stub 3 "Cart" 0], .delete [⟨4⟩]]

/-- The stubs that are left, in order of precedence. -/
def left : List Stub := [stub 2 "Cart" 5, stub 1 "shop.Cart" 0, stub 3 "Cart" 0]

/-- The stubs that are left could have been stored at once. -/
theorem after_changes : Contents.after changes = Contents.after [.upsert left] := by
  funext id
  by_cases hfirst : id = ⟨2#128⟩
  · subst hfirst
    rfl
  by_cases hmoved : id = ⟨3#128⟩
  · subst hmoved
    rfl
  by_cases hdeleted : id = ⟨4#128⟩
  · subst hdeleted
    rfl
  simp [Contents.after, Contents.apply, changes, left, stub, Filed.id, Function.update_apply,
    hfirst, hmoved, hdeleted]

theorem nodup_ids : (left.map Filed.id).Nodup := by decide

theorem contents_eq_some_iff {id : Identifier} {value : Stub} :
    Contents.after changes id = some value ↔ value ∈ left ∧ Filed.id value = id := by
  rw [after_changes]
  refine (Contents.upsert_eq_some_iff nodup_ids).trans ?_
  exact or_iff_left fun hempty => nomatch hempty.2

/-- No two of the names that a lookup compares have the same digest. -/
theorem injOn_digest :
    Set.InjOn Oracle.standard.digest (namesInUse (Contents.after changes) "shop.Cart" "Add") :=
  injOn_namesInUse (fun _ _ hvalue => (contents_eq_some_iff.mp hvalue).1) (by decide +kernel)

end Depot

namespace Store

/-- The stub that has moved is found by the short name and by the qualified one, behind the one of
the same priority with a smaller identifier. The one that was deleted is not found. To store what is
left at once leads to the same store. -/
theorem refines_contents_depot :
    let result := (Store.empty.after Depot.changes).runBy .standard (.ofCapacities 2 1)
    Set.InjOn Oracle.standard.digest
      (namesInUse (Contents.after Depot.changes) "shop.Cart" "Add") ∧
    (∃ id value, Contents.after Depot.changes id = some value ∧ Named "shop.Cart" "Add" value) ∧
    (∃ ranking, ((result.1.findAll "shop.Cart" "Add").runBy .standard result.2).1 = .ok ranking ∧
      ranking.toList = Depot.left) ∧
    ((result.1.findIn "shop.Cart" "Add" ⟨3⟩).runBy .standard result.2).1 =
      .ok (some (Depot.stub 3 "Cart" 0)) ∧
    ((result.1.findIn "shop.Cart" "Add" ⟨4⟩).runBy .standard result.2).1 = .ok none ∧
    ((Store.empty.after [.upsert Depot.left]).runBy .standard (.ofCapacities 0 0)).1 =
      result.1 := by
  intro result
  have hnamed : ∀ value ∈ Depot.left, Named "shop.Cart" "Add" value := by
    intro value hmem
    simp only [named_iff]
    revert value
    decide +kernel
  have hsome : ∃ id value, Contents.after Depot.changes id = some value ∧
      Named "shop.Cart" "Add" value :=
    ⟨_, _, Depot.contents_eq_some_iff.mpr ⟨List.mem_cons_self, rfl⟩, hnamed _ List.mem_cons_self⟩
  obtain ⟨-, -, -, -, -, -, hlookup, hsame⟩ := refines_contents .standard 2 1 Depot.changes
  obtain ⟨ranking, hall, hnodup, hmem, -, hgathered, hin⟩ :=
    hlookup "shop.Cart" "Add" Depot.injOn_digest hsome
  -- the stubs that are left have the name, and are listed in the only order there is
  have hperm : Depot.left.Perm ranking.toList := by
    refine (List.perm_ext_iff_of_nodup Depot.nodup_ids.of_map hnodup).mpr fun value => ?_
    rw [hmem, Depot.contents_eq_some_iff]
    exact ⟨fun hleft => ⟨⟨hleft, rfl⟩, hnamed value hleft⟩, fun h => h.1.1⟩
  have hlist : ranking.toList = Depot.left := by
    rw [← hgathered _ hperm]
    rfl
  rw [hlist] at hin
  exact ⟨Depot.injOn_digest, hsome, ⟨ranking, hall, hlist⟩, hin ⟨3⟩, hin ⟨4⟩,
    hsame 0 0 _ Depot.after_changes.symm⟩

end Store

end Understudy
