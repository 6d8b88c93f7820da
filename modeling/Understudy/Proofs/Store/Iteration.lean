import Understudy.Proofs.Store.Ranking
import Understudy.Stub.Filing

/-!
# Rankings, one value at a time

A ranking is asked for its next value until there is none. What it still has to yield is a list in
order of precedence, of which the next value is the first and the others are left. A ranking that
was just made has the sorted arrangement of its values to yield, of which there is only one. So
neither the order in which the values came nor their number, which decides whether they are sorted
at once or kept in a heap, makes a difference.

## Main definitions

* `Ranking.afterNext`, `Ranking.afterNexts`: the ranking that is left when values have been taken
* `Ranking.Lists`: what a ranking still has to yield

## Main results

* `Ranking.Lists.next?_eq`, `Ranking.Lists.afterNext`: the next value is the first of the list
* `Ranking.Lists.afterNexts`: so many values are taken off the list
* `Ranking.yields_sorted`: a ranking yields its values in order and says how many are left
-/

namespace Understudy.Ranking

variable {α : Type} [Filed α]

/-- The ranking after its next value has been taken; one without values stays as it is. -/
def afterNext (ranking : Ranking α) : Ranking α :=
  match ranking.next? with
  | some (_, rest) => rest
  | none => ranking

/-- The ranking after it has been asked for so many values. -/
def afterNexts (count : ℕ) (ranking : Ranking α) : Ranking α :=
  afterNext^[count] ranking

/-- What a ranking still has to yield, in order of precedence. -/
structure Lists (ranking : Ranking α) (sorted : List α) : Prop where
  ordered : ranking.Ordered
  perm : ranking.values.Perm sorted
  pairwise : sorted.Pairwise fun a b => precedes a b

namespace Lists

variable {ranking : Ranking α} {sorted : List α}

/-- The number of values left is known all the time. -/
theorem size_eq (h : ranking.Lists sorted) : ranking.size = sorted.length := by
  rw [← length_values, h.perm.length_eq]

/-- A ranking has values to yield as long as its list goes on. -/
theorem eq_nil (h : ranking.Lists sorted) (hnext : ranking.next? = none) : sorted = [] := by
  have hperm := h.perm
  rw [values_of_next?_eq_none hnext] at hperm
  exact hperm.nil_eq.symm

/-- The next value is the first of the list, and the others are left. -/
theorem of_next? (h : ranking.Lists sorted) {value : α} {rest : Ranking α}
    (hnext : ranking.next? = some (value, rest)) :
    ∃ others, sorted = value :: others ∧ rest.Lists others := by
  obtain ⟨hordered, hperm, hfirst⟩ := h.ordered.next? hnext
  have hsorted := hperm.symm.trans h.perm
  cases sorted with
  | nil => exact absurd hsorted List.not_perm_cons_nil
  | cons first others =>
    obtain ⟨hprecedes, hpairwise⟩ := List.pairwise_cons.mp h.pairwise
    have hvalue : value = first := by
      -- two different values would each come before the other
      rcases List.mem_cons.mp (hsorted.mem_iff.mp List.mem_cons_self) with heq | hlater
      · exact heq
      rcases List.mem_cons.mp (hsorted.mem_iff.mpr List.mem_cons_self) with heq | hother
      · exact heq.symm
      · have hlt := precedes_iff.mp (hprecedes value hlater)
        exact absurd (hfirst first hother) (not_le_of_gt hlt)
    subst hvalue
    exact ⟨others, rfl, hordered, hsorted.cons_inv, hpairwise⟩

theorem next?_eq (h : ranking.Lists sorted) : ranking.next?.map Prod.fst = sorted.head? := by
  cases hnext : ranking.next? with
  | none =>
    rw [h.eq_nil hnext]
    rfl
  | some next =>
    obtain ⟨others, rfl, -⟩ := h.of_next? hnext
    rfl

/-- Taking the next value leaves the rest of the list. -/
theorem afterNext (h : ranking.Lists sorted) : ranking.afterNext.Lists sorted.tail := by
  unfold Ranking.afterNext
  split
  · next value rest hnext =>
    obtain ⟨others, rfl, hrest⟩ := h.of_next? hnext
    exact hrest
  · next hnext =>
    obtain rfl := h.eq_nil hnext
    exact h

/-- Asking for so many values takes them off the list. -/
theorem afterNexts (h : ranking.Lists sorted) (count : ℕ) :
    (ranking.afterNexts count).Lists (sorted.drop count) := by
  induction count with
  | zero => exact h
  | succ count ih =>
    rw [Ranking.afterNexts, Function.iterate_succ_apply', ← List.tail_drop]
    exact ih.afterNext

end Lists

/-- A ranking that was made from some values has any sorted arrangement of them to yield. -/
theorem lists_ofList {values sorted : List α} (hperm : values.Perm sorted)
    (hsorted : sorted.Pairwise fun a b => precedes a b) : (ofList values).Lists sorted where
  ordered := ordered_ofList values
  perm := (values_ofList values).trans hperm
  pairwise := hsorted

/-- **A ranking yields its values in order.** If no identifier comes twice, some values have one
arrangement in order of precedence, and any arrangement in which no value stands behind one that it
precedes is this one. A ranking of the values lists it, whatever their number is and in whatever
order they came. Asked for one value after the other, it yields the values of this arrangement and
then none, and tells how many are left, before the first and after each of them. -/
theorem yields_sorted (values : List α) (hids : (values.map Filed.id).Nodup) :
    ∃ sorted : List α, sorted.Perm values ∧ (sorted.Pairwise fun a b => precedes a b) ∧
      (∀ other : List α, other.Perm values → (other.Pairwise fun a b => ¬ precedes b a) →
        other = sorted) ∧
      ∀ arrangement : List α, arrangement.Perm values →
        (ofList arrangement).toList = sorted ∧
        ∀ count, ((ofList arrangement).afterNexts count).next?.map Prod.fst = sorted[count]? ∧
          ((ofList arrangement).afterNexts count).size = sorted.length - count := by
  have hperm := toList_ofList_perm values
  have hplaces := toList_ofList_sorted values
  have hnodup := (hperm.map Filed.id).nodup_iff.mpr hids
  have hsorted := pairwise_precedes hplaces hnodup
  refine ⟨(ofList values).toList, hperm, hsorted, ?_, ?_⟩
  · intro other hother hpairwise
    refine (eq_of_perm_of_sorted (hperm.trans hother.symm) hplaces ?_ hnodup).symm
    exact hpairwise.imp fun h => not_precedes_iff.mp (Bool.eq_false_iff.mpr h)
  · intro arrangement harrangement
    have hsame := harrangement.trans hperm.symm
    refine ⟨toList_ofList_eq hsame hplaces hnodup, fun count => ?_⟩
    have hleft := (lists_ofList hsame hsorted).afterNexts count
    constructor
    · rw [hleft.next?_eq, List.head?_drop]
    · rw [hleft.size_eq, List.length_drop]

end Understudy.Ranking

/-! ## Four stubs -/

namespace Understudy

namespace Shelf

/-- A stub with some priority. -/
def stub (id : ℕ) (priority : Int64) : Stub where
  id := ⟨BitVec.ofNat 128 id⟩
  service := "Cart"
  method := "Add"
  priority := priority

/-- More stubs than are sorted at once, the first one last, and two of them with one priority. -/
def stubs : List Stub := [stub 1 (-1), stub 4 0, stub 3 2, stub 2 2]

end Shelf

/-- Of two stubs with one priority, the one with the smaller identifier is yielded first. -/
theorem Ranking.yields_sorted_tie :
    (Shelf.stubs.map Filed.id).Nodup ∧
    (Ranking.ofList Shelf.stubs).toList = Shelf.stubs.reverse ∧
    ((Ranking.ofList Shelf.stubs).afterNexts 1).next?.map Prod.fst = some (Shelf.stub 3 2) ∧
    ((Ranking.ofList Shelf.stubs).afterNexts 1).size = 3 := by
  have hids : (Shelf.stubs.map Filed.id).Nodup := by decide
  obtain ⟨sorted, -, -, hunique, hyields⟩ := yields_sorted Shelf.stubs hids
  obtain rfl := hunique Shelf.stubs.reverse Shelf.stubs.reverse_perm (by decide)
  obtain ⟨hlist, hnext⟩ := hyields Shelf.stubs (.refl _)
  exact ⟨hids, hlist, (hnext 1).1, (hnext 1).2⟩

end Understudy
