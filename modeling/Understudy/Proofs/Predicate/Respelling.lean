import Understudy.Proofs.Predicate.Satisfaction
import Understudy.Proofs.Table
import Understudy.Proofs.Text.Spelling

/-!
# Messages with respelled keys

The keys of a message may be spelled in another way, each on its own. Where a field is found under
either spelling of its key, this makes no difference: the same fields are found, so the same
predicates are satisfied, and as many of their fields. Where a field is found under its own key only,
it makes none if the wanted keys are left as they are.

## Main definitions

* `WellSpelled`, `Respelled`: messages with conventional keys, and two with the same fields

## Main results

* `WellSpelled.tolerant?_eq`: the same fields are found under either spelling
* `Predicate.tolerates_congr`, `Predicate.hits_congr`, `Predicate.rank_congr`: what is made of a
  message depends on the wanted fields that are found in it
-/

namespace Understudy

open Text (Conventional SameKey)

/-! ## Messages -/

/-- A message whose keys are spelled conventionally, no two of them being one key. -/
structure WellSpelled (message : Fields) : Prop where
  conventional : ∀ entry ∈ message, Conventional entry.1
  apart : message.Pairwise fun a b => ¬ SameKey a.1 b.1

/-- Two messages have the same fields, each under a spelling of the same key. -/
def Respelled (message message' : Fields) : Prop :=
  ∃ fields : Fields, List.Forall₂ (fun a b => SameKey a.1 b.1 ∧ a.2 = b.2) message fields ∧
    fields.Perm message'

section Messages

variable {message message' : Fields} {key : String} {value : Json}

theorem apart_iff_nodup (h : ∀ entry ∈ message, Conventional entry.1) :
    (message.Pairwise fun a b => ¬ SameKey a.1 b.1) ↔
      (message.map fun entry => Text.snakeCase entry.1).Nodup := by
  rw [List.Nodup, List.pairwise_map]
  refine List.Pairwise.iff_of_mem fun ha hb => ?_
  rw [Text.sameKey_iff (h _ ha) (h _ hb)]

theorem exists_of_forall₂ {α β : Type} {r : α → β → Prop} {as : List α} {bs : List β}
    (h : List.Forall₂ r as bs) {a : α} (hmem : a ∈ as) : ∃ b ∈ bs, r a b := by
  induction h with
  | nil => cases hmem
  | cons hab _ ih =>
    rcases List.mem_cons.mp hmem with rfl | hmem
    · exact ⟨_, List.mem_cons_self, hab⟩
    · obtain ⟨b, hb, hr⟩ := ih hmem
      exact ⟨b, List.mem_cons_of_mem _ hb, hr⟩

namespace Respelled

theorem length_eq (h : Respelled message message') : message.length = message'.length := by
  obtain ⟨fields, hfields, hperm⟩ := h
  rw [hfields.length_eq, hperm.length_eq]

theorem exists_right (h : Respelled message message') {entry : String × Json}
    (hmem : entry ∈ message) : ∃ entry' ∈ message', SameKey entry.1 entry'.1 ∧
      entry.2 = entry'.2 := by
  obtain ⟨fields, hfields, hperm⟩ := h
  obtain ⟨entry', hmem', hsame⟩ := exists_of_forall₂ hfields hmem
  exact ⟨entry', hperm.mem_iff.mp hmem', hsame⟩

theorem exists_left (h : Respelled message message') {entry' : String × Json}
    (hmem : entry' ∈ message') : ∃ entry ∈ message, SameKey entry.1 entry'.1 ∧
      entry.2 = entry'.2 := by
  obtain ⟨fields, hfields, hperm⟩ := h
  exact exists_of_forall₂ hfields.flip (hperm.mem_iff.mpr hmem)

/-- **A respelled message** has the same fields, each under some spelling of its key. -/
theorem exists_sameKey_iff (h : Respelled message message') :
    (∃ found, SameKey key found ∧ (found, value) ∈ message) ↔
      ∃ found, SameKey key found ∧ (found, value) ∈ message' := by
  constructor
  · rintro ⟨found, hkey, hmem⟩
    obtain ⟨⟨found', value'⟩, hmem', hsame, hvalue⟩ := h.exists_right hmem
    obtain rfl : value = value' := hvalue
    exact ⟨found', hkey.trans hsame, hmem'⟩
  · rintro ⟨found', hkey, hmem'⟩
    obtain ⟨⟨found, value'⟩, hmem, hsame, hvalue⟩ := h.exists_left hmem'
    obtain rfl : value' = value := hvalue
    exact ⟨found, hkey.trans hsame.symm, hmem⟩

end Respelled

namespace WellSpelled

/-- A respelled message is spelled well, too. -/
theorem respelled (h : WellSpelled message) (hrespelled : Respelled message message') :
    WellSpelled message' := by
  have hconventional : ∀ entry ∈ message', Conventional entry.1 := by
    intro entry hmem
    obtain ⟨_, -, hsame, -⟩ := hrespelled.exists_left hmem
    exact hsame.right
  refine ⟨hconventional, (apart_iff_nodup hconventional).mpr ?_⟩
  -- the keys have the same snake spellings as before, perhaps in another order
  obtain ⟨fields, hfields, hperm⟩ := hrespelled
  have hkeys : message.map (fun entry => Text.snakeCase entry.1) =
      fields.map fun entry => Text.snakeCase entry.1 := by
    rw [← List.forall₂_eq_eq_eq, List.forall₂_map_left_iff, List.forall₂_map_right_iff]
    exact hfields.imp fun _ _ hsame => hsame.1.snakeCase_eq
  rw [← (hperm.map _).nodup_iff, ← hkeys]
  exact (apart_iff_nodup h.conventional).mp h.apart

/-- There is one field of a key. -/
theorem eq_of_sameKey (h : WellSpelled message) {a b : String × Json} (ha : a ∈ message)
    (hb : b ∈ message) (hsame : SameKey a.1 b.1) : a = b := by
  have hnodup := (apart_iff_nodup h.conventional).mp h.apart
  exact List.inj_on_of_nodup_map hnodup ha hb hsame.snakeCase_eq

theorem mem_of_tolerant? (hkey : Conventional key) (hfound : tolerant? message key = some value) :
    ∃ found, SameKey key found ∧ (found, value) ∈ message := by
  rw [tolerant?, Option.or_eq_some_iff, Option.or_eq_some_iff] at hfound
  rcases hfound with hself | ⟨-, hcamel | ⟨-, hsnake⟩⟩
  · exact ⟨key, hkey.sameKey_self, Table.mem_of_find? hself⟩
  · exact ⟨_, hkey.sameKey_camelCase, Table.mem_of_find? hcamel⟩
  · exact ⟨_, hkey.sameKey_snakeCase, Table.mem_of_find? hsnake⟩

theorem isSome_tolerant? {found : String} (hsame : SameKey key found)
    (hmem : (found, value) ∈ message) : (tolerant? message key).isSome = true := by
  have hfound : (message.find? found).isSome = true := by
    rw [Option.isSome_iff_ne_none, Ne, Table.find?_eq_none_iff]
    intro hnone
    exact hnone _ hmem rfl
  -- the other spellings are tried in turn
  rcases hsame.eq_or with rfl | rfl <;> simp [tolerant?, hfound]

/-- **A field found under either spelling** is the field of the key, however it is spelled. -/
theorem tolerant?_eq_some_iff (h : WellSpelled message) (hkey : Conventional key) :
    tolerant? message key = some value ↔
      ∃ found, SameKey key found ∧ (found, value) ∈ message := by
  constructor
  · exact mem_of_tolerant? hkey
  · rintro ⟨found, hsame, hmem⟩
    obtain ⟨value', hvalue'⟩ := Option.isSome_iff_exists.mp (isSome_tolerant? hsame hmem)
    obtain ⟨found', hsame', hmem'⟩ := mem_of_tolerant? hkey hvalue'
    have heq := h.eq_of_sameKey hmem hmem' (hsame.symm.trans hsame')
    rw [hvalue', (Prod.mk.inj heq).2]

theorem tolerant?_eq (h : WellSpelled message) (hrespelled : Respelled message message')
    (hkey : Conventional key) : tolerant? message key = tolerant? message' key := by
  ext value
  rw [h.tolerant?_eq_some_iff hkey, (h.respelled hrespelled).tolerant?_eq_some_iff hkey]
  exact hrespelled.exists_sameKey_iff

end WellSpelled

end Messages

/-! ## Predicates -/

section Predicates

variable {message message' : Fields}

theorem Consult.all_congr {α : Type} {test test' : α → Consult Bool} {items : List α}
    (h : ∀ item ∈ items, test item = test' item) :
    Consult.all test items = Consult.all test' items := by
  induction items with
  | nil => rfl
  | cons item rest ih =>
    obtain ⟨hitem, hrest⟩ := List.forall_mem_cons.mp h
    rw [Consult.all, Consult.all, hitem, ih hrest]

theorem Consult.count_congr {α : Type} {test test' : α → Consult Bool} {items : List α}
    (h : ∀ item ∈ items, test item = test' item) :
    Consult.count test items = Consult.count test' items := by
  induction items with
  | nil => rfl
  | cons item rest ih =>
    obtain ⟨hitem, hrest⟩ := List.forall_mem_cons.mp h
    rw [Consult.count, Consult.count, hitem, ih hrest]

theorem tolerantTest_congr {test : Json → Json → Consult Bool} {want : String × Json}
    (h : tolerant? message want.1 = tolerant? message' want.1) :
    tolerantTest message test want = tolerantTest message' test want := by
  rw [tolerantTest, tolerantTest, h]

namespace Predicate

variable {predicate : Predicate}

/-- Each field that is wanted in one of the maps is found alike. -/
theorem forall_getD {find? find?' : String → Option Json}
    (h : ∀ key, predicate.Wants key → find? key = find?' key) (map : Option Fields)
    (hmap : map ∈ [predicate.equalTo, predicate.containing, predicate.matching]) :
    ∀ entry ∈ map.getD [], find? entry.1 = find?' entry.1 := by
  intro entry hmem
  cases map with
  | none => cases hmem
  | some want =>
    have hwant : want ∈ predicate.maps := by
      simp only [maps, List.mem_append, Option.mem_toList]
      simpa [eq_comm, or_assoc] using hmap
    exact h entry.1 (.field hwant hmem)

/-! ### Satisfying a predicate -/

theorem anyTolerates_congr {alternatives : List Predicate}
    (h : ∀ alternative ∈ alternatives,
      alternative.tolerates message = alternative.tolerates message') :
    anyTolerates alternatives message = anyTolerates alternatives message' := by
  induction alternatives with
  | nil => rfl
  | cons alternative rest ih =>
    obtain ⟨hfirst, hrest⟩ := List.forall_mem_cons.mp h
    rw [anyTolerates, anyTolerates, hfirst, ih hrest]

/-- Each field that is wanted in one of the maps passes its test alike. -/
theorem forall_tolerantTest
    (h : ∀ key, predicate.Wants key → tolerant? message key = tolerant? message' key)
    (test : Json → Json → Consult Bool) (map : Option Fields)
    (hmap : map ∈ [predicate.equalTo, predicate.containing, predicate.matching]) :
    ∀ entry ∈ map.getD [], tolerantTest message test entry = tolerantTest message' test entry :=
  fun entry hmem => tolerantTest_congr (forall_getD h map hmap entry hmem)

/-- **Whether a message satisfies a predicate** depends on the wanted fields that are found. -/
theorem tolerates_congr (predicate : Predicate)
    (h : ∀ key, predicate.Wants key → tolerant? message key = tolerant? message' key) :
    predicate.tolerates message = predicate.tolerates message' := by
  induction predicate using Predicate.induction with
  | step predicate ih =>
    -- the three maps of wanted fields are gone through, and then the alternatives
    have hequal := Consult.all_congr (forall_tolerantTest h (equalTest predicate.anyOrder)
      predicate.equalTo (by simp))
    have hcontained := Consult.all_congr (forall_tolerantTest h containedTest
      predicate.containing (by simp))
    have hmatched := Consult.all_congr (forall_tolerantTest h Matching.value
      predicate.matching (by simp))
    have halternatives : anyTolerates predicate.anyOf message =
        anyTolerates predicate.anyOf message' :=
      anyTolerates_congr fun alternative hmem =>
        ih alternative hmem fun key hwants => h key (.alternative hmem hwants)
    rw [tolerates_eq, tolerates_eq, mapsTolerate, mapsTolerate, hequal, hcontained, hmatched,
      halternatives]

/-- **The wanted fields that a message satisfies** depend on those that are found. -/
theorem hits_congr (predicate : Predicate)
    (h : ∀ key, predicate.Wants key → tolerant? message key = tolerant? message' key) :
    predicate.hits message = predicate.hits message' := by
  have hequal := Consult.count_congr (forall_tolerantTest h (equalTest predicate.anyOrder)
    predicate.equalTo (by simp))
  have hcontained := Consult.count_congr (forall_tolerantTest h containedTest
    predicate.containing (by simp))
  have hmatched := Consult.count_congr (forall_tolerantTest h Matching.value
    predicate.matching (by simp))
  rw [hits, hits, hequal, hcontained, hmatched]

/-! ### Ranking a message -/

theorem fieldsSum_congr {want : Fields} (h : ∀ entry ∈ want,
    message.find? entry.1 = message'.find? entry.1) (sum : Float) :
    Rank.fieldsSum sum want message = Rank.fieldsSum sum want message' := by
  induction want generalizing sum with
  | nil => rfl
  | cons entry rest ih =>
    obtain ⟨hentry, hrest⟩ := List.forall_mem_cons.mp h
    simp only [Rank.fieldsSum, hentry, ih hrest]

theorem fields_congr {want : Fields} (h : ∀ entry ∈ want,
    message.find? entry.1 = message'.find? entry.1) (hlength : message.length = message'.length) :
    Rank.fields want message = Rank.fields want message' := by
  rw [Rank.fields, Rank.fields, fieldsSum_congr h, hlength]

theorem bestRank_congr {alternatives : List Predicate} (best : Float)
    (h : ∀ alternative ∈ alternatives, alternative.rank message = alternative.rank message') :
    bestRank best alternatives message = bestRank best alternatives message' := by
  induction alternatives generalizing best with
  | nil => rfl
  | cons alternative rest ih =>
    obtain ⟨hfirst, hrest⟩ := List.forall_mem_cons.mp h
    simp only [bestRank, hfirst, ih _ hrest]

/-- **How close a message comes to a predicate** depends on its number of fields and on those of the
wanted fields that are found under their own key. -/
theorem rank_congr (predicate : Predicate)
    (h : ∀ key, predicate.Wants key → message.find? key = message'.find? key)
    (hlength : message.length = message'.length) :
    predicate.rank message = predicate.rank message' := by
  induction predicate using Predicate.induction with
  | step predicate ih =>
    have hequal := fields_congr (forall_getD h predicate.equalTo (by simp)) hlength
    have hcontained := fields_congr (forall_getD h predicate.containing (by simp)) hlength
    have hmatched := fields_congr (forall_getD h predicate.matching (by simp)) hlength
    have halternatives : bestRank 0 predicate.anyOf message =
        bestRank 0 predicate.anyOf message' :=
      bestRank_congr 0 fun alternative hmem =>
        ih alternative hmem fun key hwants => h key (.alternative hmem hwants)
    cases predicate
    rw [rank, rank, halternatives, hequal, hcontained, hmatched]

end Predicate

end Predicates

end Understudy
