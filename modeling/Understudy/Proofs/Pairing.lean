import Mathlib
import Understudy.Predicate.Equality

/-!
# Taking the first that is left

Wanted items are paired off one after the other, each with the first given item that is left and
passes its test. This finds an injective assignment of the wanted items to given ones, the one in
which every wanted item has the first place that the earlier ones leave it. It need not find one
where there is one: an earlier wanted item may take the only place of a later one although another
place would do for it. Where no wanted item takes a place in this way, an assignment is found if
there is one.

## Main definitions

* `pairOff`: the given items that are left when each wanted item has taken the first that it can
* `Assigned`: the wanted items have an injective assignment to given ones
* `FirstFit`: an assignment in which every wanted item has the first place that is left
* `Uncontested`: no wanted item takes a place that only a later one needs

## Main results

* `isSome_pairOff_iff_firstFit`: pairing off finds the assignment to first places
* `assigned_of_isSome_pairOff`, `isSome_pairOff_of_assigned`: pairing off finds an assignment, and
  finds one where there is one and nothing is contested
-/

namespace Understudy

section RemoveFirst

variable {β : Type} {test : β → Bool} {items : List β}

theorem removeFirst_eq_none_iff :
    removeFirst test items = none ↔ ∀ item ∈ items, test item = false := by
  induction items with
  | nil => simp [removeFirst]
  | cons item rest ih =>
    by_cases h : test item = true
    · simp [removeFirst, h]
    · simp [removeFirst, h, ih]

/-- The item that is removed passes the test, and those before it do not. -/
theorem exists_of_removeFirst {left : List β} (h : removeFirst test items = some left) :
    ∃ before item after, items = before ++ item :: after ∧ left = before ++ after ∧
      test item = true ∧ ∀ earlier ∈ before, test earlier = false := by
  induction items generalizing left with
  | nil => cases h
  | cons item rest ih =>
    by_cases hitem : test item = true
    · rw [removeFirst, if_pos hitem, Option.some.injEq] at h
      exact ⟨[], item, rest, rfl, h.symm, hitem, fun _ hmem => absurd hmem List.not_mem_nil⟩
    · rw [removeFirst, if_neg hitem, Option.map_eq_some_iff] at h
      obtain ⟨kept, hkept, rfl⟩ := h
      obtain ⟨before, found, after, rfl, rfl, hfound, hbefore⟩ := ih hkept
      refine ⟨item :: before, found, after, rfl, rfl, hfound, ?_⟩
      exact List.forall_mem_cons.mpr ⟨by simpa using hitem, hbefore⟩

theorem removeFirst_map {γ : Type} (f : γ → β) (items : List γ) :
    removeFirst test (items.map f) =
      (removeFirst (fun item => test (f item)) items).map (List.map f) := by
  induction items with
  | nil => rfl
  | cons item rest ih =>
    by_cases h : test (f item) = true
    · simp [removeFirst, h]
    · simp [removeFirst, h, ih, Function.comp_def]

end RemoveFirst

/-- The given items that are left when each wanted item has taken the first that is left and passes
its test; `none` if one of them finds none. -/
def pairOff {α β : Type} (test : α → β → Bool) : List α → List β → Option (List β)
  | [], gots => some gots
  | want :: wants, gots => (removeFirst (test want) gots).bind (pairOff test wants)

section Assignments

variable {α β : Type} (test : α → β → Bool) (wants : List α) (gots : List β)

/-- The wanted items have an injective assignment to given ones that pass their tests. -/
def Assigned : Prop :=
  ∃ place : Fin wants.length → Fin gots.length, Function.Injective place ∧
    ∀ i, test wants[i] gots[place i] = true

/-- An injective assignment in which every wanted item has the first place that the earlier ones
leave it. -/
structure FirstFit (place : Fin wants.length → Fin gots.length) : Prop where
  injective : Function.Injective place
  fits : ∀ i, test wants[i] gots[place i] = true
  first : ∀ i, ∀ p < place i, test wants[i] gots[p] = true → ∃ j < i, place j = p

/-- No wanted item takes a place that only a later one needs: if a place does for both and a later
place does for the earlier of them, the later place does for the later one as well. -/
def Uncontested : Prop :=
  wants.Pairwise fun want later => gots.Pairwise fun got got' =>
    test want got = true → test want got' = true → test later got = true →
      test later got' = true

instance : Decidable (Uncontested test wants gots) :=
  inferInstanceAs (Decidable (List.Pairwise _ _))

end Assignments

section Pairing

variable {α β : Type} {test : α → β → Bool} {wants : List α} {gots : List β}

theorem pairOff_map {γ : Type} (f : γ → β) (items : List γ) :
    pairOff test wants (items.map f) =
      (pairOff (fun want item => test want (f item)) wants items).map (List.map f) := by
  induction wants generalizing items with
  | nil => rfl
  | cons want wants ih =>
    rw [pairOff, pairOff, removeFirst_map]
    cases removeFirst (fun item => test want (f item)) items with
    | none => rfl
    | some left => exact ih left

end Pairing

/-! ## First places -/

section Places

variable {α : Type} {n : ℕ} {test : α → Fin n → Bool} {want : α} {wants : List α}
  {places left : List (Fin n)} {taken : Fin n}

/-- The first of ascending places that passes a test is the least one, and the others are left. -/
theorem exists_least_of_removeFirst {fits : Fin n → Bool} (hasc : places.Pairwise (· < ·))
    (h : removeFirst fits places = some left) :
    left.Pairwise (· < ·) ∧ ∃ taken ∉ left, fits taken = true ∧
      (∀ p, p ∈ places ↔ p = taken ∨ p ∈ left) ∧
      ∀ p ∈ places, p < taken → fits p = false := by
  obtain ⟨before, taken, after, rfl, rfl, htaken, hbefore⟩ := exists_of_removeFirst h
  obtain ⟨hasc₁, hasc₂, hcross⟩ := List.pairwise_append.mp hasc
  obtain ⟨hafter, hasc₂⟩ := List.pairwise_cons.mp hasc₂
  refine ⟨List.pairwise_append.mpr ⟨hasc₁, hasc₂, fun p hp q hq =>
    hcross p hp q (List.mem_cons_of_mem _ hq)⟩, taken, ?_, htaken, ?_, ?_⟩
  · rw [List.mem_append, not_or]
    exact ⟨fun hmem => lt_irrefl _ (hcross _ hmem _ List.mem_cons_self),
      fun hmem => lt_irrefl _ (hafter _ hmem)⟩
  · intro p
    simp only [List.mem_append, List.mem_cons]
    tauto
  · intro p hp hlt
    rcases List.mem_append.mp hp with hp | hp
    · exact hbefore p hp
    · rcases List.mem_cons.mp hp with rfl | hp
      · exact absurd hlt (lt_irrefl _)
      · exact absurd hlt (hafter p hp).asymm

/-- Wanted items have the first places of some that the earlier ones leave them. -/
structure FirstPlaces (test : α → Fin n → Bool) (wants : List α) (places : List (Fin n))
    (place : Fin wants.length → Fin n) : Prop where
  mem : ∀ i, place i ∈ places
  injective : Function.Injective place
  fits : ∀ i, test wants[i] (place i) = true
  first : ∀ i, ∀ p ∈ places, p < place i → test wants[i] p = true → ∃ j < i, place j = p

/-- One more wanted item in front takes the least place that fits. -/
theorem FirstPlaces.cons {place : Fin wants.length → Fin n}
    (h : FirstPlaces test wants left place) (hnotMem : taken ∉ left)
    (hmem : ∀ p, p ∈ places ↔ p = taken ∨ p ∈ left) (htaken : test want taken = true)
    (hleast : ∀ p ∈ places, p < taken → test want p = false) :
    FirstPlaces test (want :: wants) places (Fin.cons taken place) where
  mem i := by
    refine Fin.cases ((hmem _).mpr (.inl rfl)) (fun i => ?_) i
    exact (hmem _).mpr (.inr (h.mem i))
  injective := by
    refine Fin.cons_injective_iff.mpr ⟨?_, h.injective⟩
    rintro ⟨i, hi⟩
    exact hnotMem (hi ▸ h.mem i)
  fits i := Fin.cases htaken h.fits i
  first i := by
    refine Fin.cases (fun p hp hlt hfit => ?_) (fun i p hp hlt hfit => ?_) i
    · -- no place before the least one fits
      have hfalse := hleast p hp hlt
      rw [show test want p = true from hfit] at hfalse
      cases hfalse
    · rcases (hmem p).mp hp with rfl | hp
      · exact ⟨0, Fin.succ_pos i, rfl⟩
      · obtain ⟨j, hj, rfl⟩ := h.first i p hp hlt hfit
        exact ⟨j.succ, Fin.succ_lt_succ_iff.mpr hj, rfl⟩

/-- Without the wanted item in front, whose place is the least one that fits. -/
theorem FirstPlaces.tail {place : Fin (want :: wants).length → Fin n}
    (h : FirstPlaces test (want :: wants) places place) (hnotMem : taken ∉ left)
    (hmem : ∀ p, p ∈ places ↔ p = taken ∨ p ∈ left) (htaken : test want taken = true)
    (hleast : ∀ p ∈ places, p < taken → test want p = false) :
    FirstPlaces test wants left fun i => place i.succ := by
  have hfirst : place 0 = taken := by
    have hfit : test want (place 0) = true := h.fits 0
    rcases lt_trichotomy (place 0) taken with hlt | heq | hgt
    · rw [hleast _ (h.mem 0) hlt] at hfit
      cases hfit
    · exact heq
    · obtain ⟨j, hj, -⟩ := h.first 0 taken ((hmem _).mpr (.inl rfl)) hgt htaken
      exact absurd hj (Fin.not_lt_zero j)
  refine ⟨fun i => ?_, fun i j hij => Fin.succ_injective _ (h.injective hij),
    fun i => h.fits i.succ, fun i p hp hlt hfit => ?_⟩
  · rcases (hmem _).mp (h.mem i.succ) with heq | hleft
    · exact absurd (h.injective (heq.trans hfirst.symm)) (Fin.succ_ne_zero i)
    · exact hleft
  · obtain ⟨j, hj, rfl⟩ := h.first i.succ p ((hmem p).mpr (.inr hp)) hlt hfit
    refine Fin.cases (fun hj hp => ?_) (fun j hj hp => ?_) j hj hp
    · rw [hfirst] at hp
      exact absurd hp hnotMem
    · exact ⟨j, Fin.succ_lt_succ_iff.mp hj, rfl⟩

/-- Pairing off ascending places finds first places for the wanted items. -/
theorem isSome_pairOff_places (hasc : places.Pairwise (· < ·)) :
    (pairOff test wants places).isSome = true ↔ ∃ place, FirstPlaces test wants places place := by
  induction wants generalizing places with
  | nil =>
    exact iff_of_true rfl ⟨Fin.elim0, fun i => i.elim0, fun i => i.elim0, fun i => i.elim0,
      fun i => i.elim0⟩
  | cons want wants ih =>
    cases hremove : removeFirst (test want) places with
    | none =>
      rw [pairOff, hremove, Option.bind_none]
      refine iff_of_false Bool.false_ne_true ?_
      rintro ⟨place, h⟩
      have hnone := removeFirst_eq_none_iff.mp hremove _ (h.mem 0)
      rw [show test want (place 0) = true from h.fits 0] at hnone
      cases hnone
    | some left =>
      obtain ⟨hleft, taken, hnotMem, htaken, hmem, hleast⟩ :=
        exists_least_of_removeFirst hasc hremove
      rw [pairOff, hremove, Option.bind_some, ih hleft]
      constructor
      · rintro ⟨place, h⟩
        exact ⟨_, h.cons hnotMem hmem htaken hleast⟩
      · rintro ⟨place, h⟩
        exact ⟨_, h.tail hnotMem hmem htaken hleast⟩

end Places

section Pairing

open scoped List

variable {α β : Type} {test : α → β → Bool} {wants : List α} {gots : List β}

/-- **Pairing off** finds the assignment to first places. -/
theorem isSome_pairOff_iff_firstFit :
    (pairOff test wants gots).isSome = true ↔ ∃ place, FirstFit test wants gots place := by
  have hpair : (pairOff test wants gots).isSome =
      (pairOff (fun want (p : Fin gots.length) => test want gots[p]) wants
        (List.finRange gots.length)).isSome := by
    conv_lhs => rw [← List.map_getElem_finRange gots]
    rw [pairOff_map, Option.isSome_map]
    rfl
  rw [hpair, isSome_pairOff_places (List.pairwise_lt_finRange _)]
  constructor
  · rintro ⟨place, h⟩
    exact ⟨place, h.injective, h.fits, fun i p => h.first i p (List.mem_finRange p)⟩
  · rintro ⟨place, h⟩
    exact ⟨place, fun i => List.mem_finRange _, h.injective, h.fits,
      fun i p _ => h.first i p⟩

/-- **What is paired off** is assigned. -/
theorem assigned_of_isSome_pairOff (h : (pairOff test wants gots).isSome = true) :
    Assigned test wants gots := by
  obtain ⟨place, hplace⟩ := isSome_pairOff_iff_firstFit.mp h
  exact ⟨place, hplace.injective, hplace.fits⟩

/-- An assignment picks given items, in any order, one for each wanted item. -/
theorem assigned_iff_forall₂ :
    Assigned test wants gots ↔
      ∃ picked, picked.Subperm gots ∧ List.Forall₂ (fun w g => test w g = true) wants picked := by
  constructor
  · rintro ⟨place, hinj, htest⟩
    refine ⟨(List.ofFn place).map fun p => gots[p], ?_, ?_⟩
    · -- no place is taken twice
      obtain ⟨places, hperm, hsub⟩ := List.Nodup.subperm (List.nodup_ofFn.mpr hinj)
        fun p _ => List.mem_finRange (n := gots.length) p
      refine ⟨places.map fun p => gots[p], hperm.map _, ?_⟩
      conv_rhs => rw [← List.map_getElem_finRange gots]
      exact hsub.map _
    · refine List.forall₂_iff_get.mpr ⟨by simp, fun i hi _ => ?_⟩
      simpa using htest ⟨i, hi⟩
  · rintro ⟨picked, hsub, htest⟩
    obtain ⟨hlength, htest⟩ := List.forall₂_iff_get.mp htest
    classical
    refine ⟨fun i => hsub.idxInj (i.cast hlength), fun i j hij => ?_, fun i => ?_⟩
    · exact Fin.cast_injective hlength (hsub.idxInj_injective hij)
    · have hgot := hsub.getElem_idxInj_eq_getElem (i := i.cast hlength)
      have hfits := htest i i.isLt (hlength ▸ i.isLt)
      simp only [Fin.getElem_fin, hgot]
      exact hfits

/-- Assignments do not depend on the order of items. -/
theorem Assigned.perm {wants' : List α} {gots' : List β} (hwants : wants.Perm wants')
    (hgots : gots.Perm gots') (h : Assigned test wants gots) : Assigned test wants' gots' := by
  obtain ⟨picked, hsub, htest⟩ := assigned_iff_forall₂.mp h
  obtain ⟨picked', htest', hperm⟩ := List.perm_comp_forall₂ hwants.symm htest
  refine assigned_iff_forall₂.mpr ⟨picked', ?_, htest'⟩
  exact hperm.subperm.trans (hgots.subperm_left.mp hsub)

/-- Wanted items that the given items pass one by one are paired off so. -/
theorem isSome_pairOff_of_forall₂
    (h : List.Forall₂ (fun want got => test want got = true) wants gots) :
    (pairOff test wants gots).isSome = true := by
  induction h with
  | nil => rfl
  | cons hfit _ ih => rwa [pairOff, removeFirst, if_pos hfit, Option.bind_some]

/-- A picked item may be exchanged for one that does for each wanted item that it does for. -/
theorem forall₂_exchange {relation : α → β → Prop} {before after : List β} {got got' : β}
    (h : List.Forall₂ relation wants (before ++ got :: after))
    (hexchange : ∀ want ∈ wants, relation want got → relation want got') :
    List.Forall₂ relation wants (before ++ got' :: after) := by
  induction before generalizing wants with
  | nil =>
    obtain ⟨want, rest, hwant, hrest, rfl⟩ := List.forall₂_cons_right_iff.mp h
    exact .cons (hexchange want List.mem_cons_self hwant) hrest
  | cons first before ih =>
    obtain ⟨want, rest, hwant, hrest, rfl⟩ := List.forall₂_cons_right_iff.mp h
    exact .cons hwant (ih hrest fun want hmem => hexchange want (List.mem_cons_of_mem _ hmem))

/-- Where a first wanted item has been assigned one item and takes another, the later ones can be
assigned what is left, if they can do with the one in place of the other. -/
theorem exists_picked_of_taken {relation : α → β → Prop} {picked left : List β} {own taken : β}
    (hsub : (own :: picked).Subperm (taken :: left)) (hne : own ≠ taken)
    (hpicked : List.Forall₂ relation wants picked)
    (hexchange : ∀ want ∈ wants, relation want taken → relation want own) :
    ∃ picked', picked'.Subperm left ∧ List.Forall₂ relation wants picked' := by
  obtain ⟨chosen, hchosen, hsublist⟩ := hsub
  obtain ⟨rest, hrest⟩ := hsublist.exists_perm_append
  have hperm : (taken :: left).Perm (own :: picked ++ rest) := hrest.trans (hchosen.append_right _)
  have hmem : taken ∈ picked ++ rest :=
    (List.mem_cons.mp (hperm.subset List.mem_cons_self)).resolve_left hne.symm
  by_cases htaken : taken ∈ picked
  · -- a later wanted item had what is taken, and gets what the first one had
    obtain ⟨before, after, rfl⟩ := List.append_of_mem htaken
    refine ⟨before ++ own :: after, ?_, forall₂_exchange hpicked hexchange⟩
    have hmoved : (own :: (before ++ taken :: after)).Perm (taken :: (before ++ own :: after)) :=
      calc own :: (before ++ taken :: after)
        _ ~ own :: taken :: (before ++ after) := List.perm_middle.cons own
        _ ~ taken :: own :: (before ++ after) := .swap ..
        _ ~ taken :: (before ++ own :: after) := (List.perm_middle.cons taken).symm
    have hleft : left.Perm (before ++ own :: after ++ rest) :=
      (hperm.trans (hmoved.append_right rest)).cons_inv
    exact hleft.symm.subperm_left.mp (List.sublist_append_left _ rest).subperm
  · -- no later wanted item had what is taken
    obtain ⟨before, after, rfl⟩ :=
      List.append_of_mem ((List.mem_append.mp hmem).resolve_left htaken)
    have hmoved : (own :: picked ++ (before ++ taken :: after)).Perm
        (taken :: (own :: picked ++ before ++ after)) := by
      rw [← List.append_assoc]
      exact List.perm_middle
    have hleft : left.Perm (own :: picked ++ before ++ after) := (hperm.trans hmoved).cons_inv
    refine ⟨picked, hleft.symm.subperm_left.mp ?_, hpicked⟩
    rw [List.append_assoc]
    exact (List.sublist_cons_self own picked).subperm.trans
      (List.sublist_append_left _ (before ++ after)).subperm

/-- **What has an assignment** is paired off if nothing is contested. -/
theorem isSome_pairOff_of_assigned (hfree : Uncontested test wants gots)
    (h : Assigned test wants gots) : (pairOff test wants gots).isSome = true := by
  obtain ⟨picked, hsub, htest⟩ := assigned_iff_forall₂.mp h
  clear h
  induction wants generalizing gots picked with
  | nil => rfl
  | cons want wants ih =>
    obtain ⟨hyields, hfree⟩ := List.pairwise_cons.mp hfree
    obtain ⟨own, picked, hown, hrest, rfl⟩ := List.forall₂_cons_left_iff.mp htest
    have hmem : own ∈ gots := hsub.subset List.mem_cons_self
    cases hremove : removeFirst (test want) gots with
    | none =>
      rw [removeFirst_eq_none_iff.mp hremove own hmem] at hown
      cases hown
    | some left =>
      obtain ⟨before, taken, after, rfl, rfl, htaken, hbefore⟩ := exists_of_removeFirst hremove
      rw [pairOff, hremove, Option.bind_some]
      have hleft : Uncontested test wants (before ++ after) := by
        refine hfree.imp fun {w later} hcross => hcross.sublist ?_
        exact (List.sublist_cons_self taken after).append_left before
      have hsub : (own :: picked).Subperm (taken :: (before ++ after)) :=
        List.perm_middle.subperm_left.mp hsub
      by_cases heq : own = taken
      · -- the first wanted item takes what it has been assigned
        subst heq
        exact ih hleft picked ((List.subperm_cons own).mp hsub) hrest
      · -- what it has been assigned comes later, and does for those that need what it takes
        have hafter : own ∈ after := by
          rcases List.mem_append.mp hmem with hmem | hmem
          · rw [hbefore own hmem] at hown
            cases hown
          · exact (List.mem_cons.mp hmem).resolve_left heq
        obtain ⟨picked', hsub', hrest'⟩ := exists_picked_of_taken hsub heq hrest
          fun later hlater => by
            have hcross := (List.pairwise_append.mp (hyields later hlater)).2.1
            exact (List.pairwise_cons.mp hcross).1 own hafter htaken hown
        exact ih hleft picked' hsub' hrest'

end Pairing

end Understudy
