import Understudy.Proofs.Identifier
import Understudy.Store.Ranking

/-!
# Rankings yield their values in order

One value comes before another if its *place* is smaller: the score, the highest first, and then
the identifier. Merging two heaps keeps their values and the smallest place on top, so taking values
off a heap one by one lists them in order, as comparing neighbours does for up to three. A ranking
therefore lists what it was made from, sorted, however many values there are and in whatever order
they came; if no identifier comes twice, there is only one such list.

## Main definitions

* `place`: where a value comes in the order of precedence
* `Heap.values`, `Heap.Ordered`: the values of a heap, and its top comes first at every node
* `Ranking.values`, `Ranking.Ordered`: the same of a ranking

## Main results

* `precedes_iff`: precedence is the order of places
* `Heap.merge_perm`, `Heap.Ordered.merge`: merging heaps
* `Ranking.toList_ofList_perm`, `Ranking.toList_ofList_sorted`: a ranking lists its values in order
* `Ranking.toList_ofList_eq`: the order in which the values came cannot be seen
-/

namespace Understudy

variable {α : Type} [Filed α]

/-! ## Precedence -/

/-- Where a value comes in the order of precedence. -/
def place (value : α) : ℤᵒᵈ ×ₗ Identifier :=
  toLex (OrderDual.toDual (Filed.score value).toInt, Filed.id value)

/-- Precedence is the order of places. -/
theorem precedes_iff {a b : α} : precedes a b = true ↔ place a < place b := by
  rw [precedes, Bool.or_eq_true, Bool.and_eq_true, decide_eq_true_iff, decide_eq_true_iff,
    decide_eq_true_iff, place, place, Prod.Lex.toLex_lt_toLex, OrderDual.toDual_lt_toDual,
    OrderDual.toDual_inj, Int64.lt_iff_toInt_lt, Int64.toInt_inj]

theorem not_precedes_iff {a b : α} : precedes a b = false ↔ place b ≤ place a := by
  rw [← not_lt, ← precedes_iff, Bool.not_eq_true]

theorem id_eq_of_place_eq {a b : α} (h : place a = place b) : Filed.id a = Filed.id b :=
  (Prod.mk.inj (toLex.injective h)).2

/-- Values sorted by place whose identifiers differ are in order of precedence. -/
theorem pairwise_precedes {values : List α}
    (hsorted : values.Pairwise fun a b => place a ≤ place b)
    (hids : (values.map Filed.id).Nodup) :
    values.Pairwise fun a b => precedes a b = true := by
  refine (hsorted.and (List.pairwise_map.mp hids)).imp ?_
  rintro a b ⟨hle, hne⟩
  exact precedes_iff.mpr (lt_of_le_of_ne hle fun he => hne (id_eq_of_place_eq he))

/-- There is one way to sort values whose identifiers differ. -/
theorem eq_of_perm_of_sorted {a b : List α} (hperm : a.Perm b)
    (ha : a.Pairwise fun x y => place x ≤ place y) (hb : b.Pairwise fun x y => place x ≤ place y)
    (hids : (a.map Filed.id).Nodup) : a = b := by
  have ha := pairwise_precedes ha hids
  have hb := pairwise_precedes hb ((hperm.map Filed.id).nodup_iff.mp hids)
  refine hperm.eq_of_pairwise (fun x y _ _ hxy hyx => ?_) ha hb
  exact absurd (precedes_iff.mp hxy) (precedes_iff.mp hyx).asymm

/-! ## Heaps -/

namespace Heap

omit [Filed α] in
/-- The values of a heap. -/
def values : Heap α → List α
  | empty => []
  | node _ top left right => top :: (left.values ++ right.values)

/-- At every node, the value on top comes first. -/
def Ordered : Heap α → Prop
  | empty => True
  | node _ top left right =>
    (∀ value ∈ left.values ++ right.values, place top ≤ place value) ∧ left.Ordered ∧ right.Ordered

omit [Filed α] in
@[simp] theorem length_values (heap : Heap α) : heap.values.length = heap.size := by
  induction heap with
  | empty => rfl
  | node _ top left right ihl ihr => simp [values, size, ihl, ihr]

omit [Filed α] in
theorem values_join (top : α) (a b : Heap α) :
    (join top a b).values.Perm (top :: (a.values ++ b.values)) := by
  unfold join
  split
  · exact List.Perm.refl _
  · exact List.perm_append_comm.cons top

theorem Ordered.join {top : α} {a b : Heap α} (ha : a.Ordered) (hb : b.Ordered)
    (h : ∀ value ∈ a.values ++ b.values, place top ≤ place value) :
    (Heap.join top a b).Ordered := by
  unfold Heap.join
  split
  · exact ⟨h, ha, hb⟩
  · exact ⟨fun value hv => h value (List.perm_append_comm.mem_iff.mp hv), hb, ha⟩

/-- Merging keeps the values. -/
theorem merge_perm (a b : Heap α) : (merge a b).values.Perm (a.values ++ b.values) := by
  fun_induction merge a b with
  | case1 b => exact List.Perm.refl _
  | case2 a => simp [values]
  | case3 depth top left right depth' top' left' right' hlt ih =>
    -- the second heap stays on top, and the first goes into its right part
    refine (values_join _ _ _).trans ?_
    refine ((ih.append_left left'.values).cons top').trans ?_
    exact ((List.perm_append_comm_assoc _ _ _).cons top').trans List.perm_middle.symm
  | case4 depth top left right depth' top' left' right' hlt ih =>
    refine (values_join _ _ _).trans ?_
    refine ((ih.append_left left.values).cons top).trans ?_
    simp [values]

theorem Ordered.top_le {depth : Nat} {top : α} {left right : Heap α}
    (h : (node depth top left right).Ordered) :
    ∀ value ∈ (node depth top left right).values, place top ≤ place value := by
  intro value hv
  rcases List.mem_cons.mp hv with rfl | hv
  · exact le_refl _
  · exact h.1 value hv

/-- Merging keeps the first value on top. -/
theorem Ordered.merge {a b : Heap α} (ha : a.Ordered) (hb : b.Ordered) :
    (Heap.merge a b).Ordered := by
  fun_induction Heap.merge a b with
  | case1 b => exact hb
  | case2 a => exact ha
  | case3 depth top left right depth' top' left' right' hlt ih =>
    -- the top of the second heap comes before that of the first, hence before all of it
    refine hb.2.1.join (ih ha hb.2.2) fun value hv => ?_
    rcases List.mem_append.mp hv with hv | hv
    · exact hb.1 value (List.mem_append_left _ hv)
    · rcases List.mem_append.mp ((merge_perm _ _).mem_iff.mp hv) with hv | hv
      · exact (precedes_iff.mp hlt).le.trans (ha.top_le value hv)
      · exact hb.1 value (List.mem_append_right _ hv)
  | case4 depth top left right depth' top' left' right' hlt ih =>
    -- the top of the first heap is on top, and ties leave it there
    refine ha.2.1.join (ih ha.2.2 hb) fun value hv => ?_
    rcases List.mem_append.mp hv with hv | hv
    · exact ha.1 value (List.mem_append_left _ hv)
    · rcases List.mem_append.mp ((merge_perm _ _).mem_iff.mp hv) with hv | hv
      · exact ha.1 value (List.mem_append_right _ hv)
      · have hle := not_precedes_iff.mp (Bool.eq_false_iff.mpr hlt)
        exact hle.trans (hb.top_le value hv)

/-- Building a heap from values on top of a heap adds them. -/
theorem foldl_insert (values : List α) (heap : Heap α) (h : heap.Ordered) :
    (values.foldl (fun heap value => heap.insert value) heap).Ordered ∧
      (values.foldl (fun heap value => heap.insert value) heap).values.Perm
        (values ++ heap.values) := by
  induction values generalizing heap with
  | nil => exact ⟨h, List.Perm.refl _⟩
  | cons value rest ih =>
    -- an insertion is a merge with a heap of one value
    have hsingle : (node 1 value empty empty : Heap α).Ordered :=
      ⟨fun _ hv => absurd hv List.not_mem_nil, trivial, trivial⟩
    obtain ⟨hord, hperm⟩ := ih _ (hsingle.merge h)
    refine ⟨hord, hperm.trans ?_⟩
    refine ((merge_perm _ _).append_left rest).trans ?_
    exact List.perm_middle

theorem ordered_ofList (values : List α) : (ofList values).Ordered :=
  (foldl_insert values empty trivial).1

theorem values_ofList (values : List α) : (ofList values).values.Perm values := by
  have h := (foldl_insert values empty trivial).2
  rwa [Heap.values, List.append_nil] at h

end Heap

/-! ## Rankings -/

namespace Ranking

theorem sortTwo_perm (a b : α) : [(sortTwo a b).1, (sortTwo a b).2].Perm [a, b] := by
  unfold sortTwo
  split
  · exact List.Perm.swap a b []
  · exact List.Perm.refl _

theorem sortTwo_le (a b : α) : place (sortTwo a b).1 ≤ place (sortTwo a b).2 := by
  unfold sortTwo
  split
  · next h => exact (precedes_iff.mp h).le
  · next h => exact not_precedes_iff.mp (Bool.eq_false_iff.mpr h)

theorem le_sortTwo_snd (a b : α) :
    place a ≤ place (sortTwo a b).2 ∧ place b ≤ place (sortTwo a b).2 := by
  by_cases h : precedes b a = true
  · rw [sortTwo, if_pos h]
    exact ⟨le_refl _, (precedes_iff.mp h).le⟩
  · rw [sortTwo, if_neg h]
    exact ⟨not_precedes_iff.mp (Bool.eq_false_iff.mpr h), le_refl _⟩

theorem sortTwo_snd_le {a b bound : α} (ha : place a ≤ place bound) (hb : place b ≤ place bound) :
    place (sortTwo a b).2 ≤ place bound := by
  unfold sortTwo
  split
  · exact ha
  · exact hb

theorem sortFew_perm (values : List α) : (sortFew values).Perm values := by
  unfold sortFew
  split
  · next a b => exact sortTwo_perm a b
  · next a b c =>
    have first := (sortTwo_perm a b).append_right [c]
    have second := (sortTwo_perm (sortTwo a b).2 c).cons (sortTwo a b).1
    have third := (sortTwo_perm (sortTwo a b).1 (sortTwo (sortTwo a b).2 c).1).append_right
      [(sortTwo (sortTwo a b).2 c).2]
    exact third.trans (second.trans first)
  · exact List.Perm.refl _

/-- Three comparisons of neighbours put three values in order. -/
theorem sortFew_sorted {values : List α} (h : values.length ≤ fewest) :
    (sortFew values).Pairwise fun a b => place a ≤ place b := by
  match values with
  | [] => exact List.Pairwise.nil
  | [a] => exact List.pairwise_singleton _ a
  | [a, b] => exact List.pairwise_pair.mpr (sortTwo_le a b)
  | [a, b, c] =>
    -- after two comparisons the last of the three is in its place
    have hlast := le_sortTwo_snd (sortTwo a b).2 c
    have hle := sortTwo_le (sortTwo a b).1 (sortTwo (sortTwo a b).2 c).1
    have hmax : place (sortTwo (sortTwo a b).1 (sortTwo (sortTwo a b).2 c).1).2 ≤
        place (sortTwo (sortTwo a b).2 c).2 :=
      sortTwo_snd_le ((sortTwo_le a b).trans hlast.1) (sortTwo_le _ c)
    refine List.pairwise_cons.mpr ⟨fun value hv => ?_, List.pairwise_pair.mpr hmax⟩
    rcases List.mem_cons.mp hv with rfl | hv
    · exact hle
    · exact List.mem_singleton.mp hv ▸ hle.trans hmax
  | _ :: _ :: _ :: _ :: _ =>
    simp only [List.length_cons, fewest] at h
    omega

omit [Filed α] in
/-- The values of a ranking. -/
def values : Ranking α → List α
  | few values => values
  | many heap => heap.values

/-- The value that comes first is yielded next, at every point. -/
def Ordered : Ranking α → Prop
  | few values => values.Pairwise fun a b => place a ≤ place b
  | many heap => heap.Ordered

omit [Filed α] in
theorem length_values (ranking : Ranking α) : ranking.values.length = ranking.size := by
  cases ranking with
  | few values => rfl
  | many heap => exact heap.length_values

theorem ordered_ofList (values : List α) : (ofList values).Ordered := by
  unfold ofList
  split
  · next h => exact sortFew_sorted h
  · exact Heap.ordered_ofList values

theorem values_ofList (values : List α) : (ofList values).values.Perm values := by
  unfold ofList
  split
  · exact sortFew_perm values
  · exact Heap.values_ofList values

theorem values_of_next?_eq_none {ranking : Ranking α} (h : ranking.next? = none) :
    ranking.values = [] := by
  match ranking with
  | few [] => rfl
  | many .empty => rfl
  | few (_ :: _) => cases h
  | many (.node ..) => cases h

/-- The next value comes first of those that are left. -/
theorem Ordered.next? {ranking rest : Ranking α} {value : α} (h : ranking.Ordered)
    (hnext : ranking.next? = some (value, rest)) :
    rest.Ordered ∧ ranking.values.Perm (value :: rest.values) ∧
      ∀ other ∈ rest.values, place value ≤ place other := by
  match ranking with
  | few [] => cases hnext
  | few (first :: others) =>
    cases hnext
    exact ⟨h.of_cons, List.Perm.refl _, (List.pairwise_cons.mp h).1⟩
  | many .empty => cases hnext
  | many (.node depth top left right) =>
    cases hnext
    have hperm := Heap.merge_perm left right
    exact ⟨h.2.1.merge h.2.2, hperm.symm.cons top, fun other ho => h.1 other (hperm.mem_iff.mp ho)⟩

/-- Taking all values off a ranking lists them in order. -/
theorem Ordered.take {ranking : Ranking α} (h : ranking.Ordered) :
    ∀ count, ranking.values.length = count → (Ranking.take count ranking).Perm ranking.values ∧
      (Ranking.take count ranking).Pairwise fun a b => place a ≤ place b := by
  intro count
  induction count generalizing ranking with
  | zero =>
    intro hlength
    rw [List.length_eq_zero_iff.mp hlength]
    exact ⟨List.Perm.refl _, List.Pairwise.nil⟩
  | succ count ih =>
    intro hlength
    rw [Ranking.take]
    cases hnext : ranking.next? with
    | none =>
      -- a ranking that has values left yields one
      rw [values_of_next?_eq_none hnext] at hlength
      cases hlength
    | some next =>
      obtain ⟨value, rest⟩ := next
      obtain ⟨hrest, hperm, hle⟩ := h.next? hnext
      have hcount : rest.values.length = count := by
        rw [hperm.length_eq, List.length_cons] at hlength
        exact Nat.succ.inj hlength
      obtain ⟨ihperm, ihsorted⟩ := ih hrest hcount
      refine ⟨(ihperm.cons value).trans hperm.symm, List.pairwise_cons.mpr ⟨?_, ihsorted⟩⟩
      exact fun other ho => hle other (ihperm.mem_iff.mp ho)

/-- **A ranking lists** the values that it was made from. -/
theorem toList_ofList_perm (values : List α) : (ofList values).toList.Perm values :=
  ((ordered_ofList values).take _ (length_values _)).1.trans (values_ofList values)

/-- A ranking lists its values by place. -/
theorem toList_ofList_sorted (values : List α) :
    (ofList values).toList.Pairwise fun a b => place a ≤ place b :=
  ((ordered_ofList values).take _ (length_values _)).2

/-- If no identifier comes twice, a ranking lists the one sorted arrangement of its values, so the
order in which they came cannot be seen. -/
theorem toList_ofList_eq {values sorted : List α} (hperm : values.Perm sorted)
    (hsorted : sorted.Pairwise fun a b => place a ≤ place b)
    (hids : (sorted.map Filed.id).Nodup) : (ofList values).toList = sorted := by
  have h : (ofList values).toList.Perm sorted := (toList_ofList_perm values).trans hperm
  refine eq_of_perm_of_sorted h (toList_ofList_sorted values) hsorted ?_
  exact (h.map Filed.id).nodup_iff.mpr hids

end Ranking

end Understudy
