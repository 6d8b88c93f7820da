import Understudy.Proofs.Memo.Transparency

/-!
# What a consultation asks for

What a computation asks for depends on the answers that it gets, so its requests are those under an
oracle. A bound on all patterns that are asked for goes through a sequence of computations, each of
them with the value that the oracle gives to the one before, so it is proved for a computation along
its definition.

## Main definitions

* `Request`: a request for a pattern or for a digest
* `Consult.requests`: the requests of a computation under an oracle
* `Consult.AsksOnly`: all patterns that a computation asks for have some property

## Main results

* `Consult.requests_bind`: the requests of a sequence of computations
* `Consult.AsksOnly.bind`, `Consult.AsksOnly.all`: sequences that ask for such patterns only
-/

namespace Understudy

/-- A request for the pattern that a text writes, or for the digest of a text. -/
inductive Request where
  | pattern (source : String)
  | digest (text : String)

namespace Consult

variable {α β : Type} {oracle : Oracle} {computation : Consult α} {next : α → Consult β}
  {P Q : String → Prop}

/-- The requests of a computation, in order. -/
def requests (oracle : Oracle) : Consult α → List Request
  | .done _ => []
  | .pattern source next => .pattern source :: (next (oracle.compile? source)).requests oracle
  | .digest text next => .digest text :: (next (oracle.digest text)).requests oracle

/-- A sequence asks for what its first part asks for and then for what the second does with the
value of the first. -/
theorem requests_bind :
    (computation >>= next).requests oracle =
      computation.requests oracle ++ (next (computation.evalBy oracle)).requests oracle := by
  change (computation.andThen next).requests oracle = _
  induction computation with
  | done value => rfl
  | pattern source ask ih =>
    rw [andThen, requests, requests, ih, List.cons_append]
    rfl
  | digest text ask ih =>
    rw [andThen, requests, requests, ih, List.cons_append]
    rfl

/-- Every pattern that the computation asks for under an oracle has a property. -/
def AsksOnly (oracle : Oracle) (P : String → Prop) (computation : Consult α) : Prop :=
  ∀ source, .pattern source ∈ computation.requests oracle → P source

namespace AsksOnly

theorem done (value : α) : AsksOnly oracle P (.done value) :=
  fun _ hmem => absurd hmem List.not_mem_nil

theorem pure (value : α) : AsksOnly oracle P (Pure.pure value : Consult α) :=
  .done value

theorem compiled {source : String} (h : P source) :
    AsksOnly oracle P (Consult.compiled source) := by
  intro asked hmem
  obtain rfl := Request.pattern.inj (List.mem_singleton.mp hmem)
  exact h

theorem bind (h : computation.AsksOnly oracle P)
    (hnext : (next (computation.evalBy oracle)).AsksOnly oracle P) :
    (computation >>= next).AsksOnly oracle P := by
  intro source hmem
  rw [requests_bind, List.mem_append] at hmem
  rcases hmem with hmem | hmem
  · exact h source hmem
  · exact hnext source hmem

theorem ite {p : Prop} [Decidable p] {a b : Consult α} (ha : a.AsksOnly oracle P)
    (hb : b.AsksOnly oracle P) : (if p then a else b).AsksOnly oracle P := by
  split
  · exact ha
  · exact hb

theorem mono (h : computation.AsksOnly oracle P) (himp : ∀ source, P source → Q source) :
    computation.AsksOnly oracle Q :=
  fun source hmem => himp source (h source hmem)

/-- Asking about items until one fails asks for what the single tests ask for. -/
theorem all {test : α → Consult Bool} {items : List α}
    (h : ∀ item ∈ items, (test item).AsksOnly oracle P) :
    (Consult.all test items).AsksOnly oracle P := by
  induction items with
  | nil => exact .done true
  | cons item rest ih =>
    obtain ⟨hitem, hrest⟩ := List.forall_mem_cons.mp h
    exact .bind hitem (.ite (ih hrest) (.pure false))

end AsksOnly

end Consult

end Understudy
