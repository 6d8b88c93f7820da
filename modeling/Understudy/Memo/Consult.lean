import Understudy.Memo.Digest
import Understudy.Memo.Recency
import Understudy.Pattern.Basic

/-!
# Consultations

A computation that asks for compiled patterns and for digests as it goes. What it yields depends on
the answers alone, so it can be evaluated outright, or run against caches that remember answers:
both yield the same, and only the caches tell how often something was computed anew. A text that is
no pattern is not remembered.

## Main definitions

* `Consult`: computations with requests for patterns and digests
* `Oracle`: how requests are answered
* `Consult.evalBy`, `Consult.eval`: the value, every request answered afresh
* `Caches`, `Consult.runBy`, `Consult.run`: the value and the caches after it
-/

namespace Understudy

/-- How requests are answered: the pattern that a text writes, and the digest of a text. -/
structure Oracle where
  compile? : String → Option Pattern
  digest : String → UInt32

/-- Texts are read as patterns and digested as defined here. -/
def Oracle.standard : Oracle := ⟨Pattern.compile?, Understudy.digest⟩

/-- A computation that may ask for compiled patterns and for digests. -/
inductive Consult (α : Type) : Type where
  | done (value : α)
  | pattern (source : String) (next : Option Pattern → Consult α)
  | digest (text : String) (next : UInt32 → Consult α)

namespace Consult

variable {α β : Type}

/-- Goes on with the value of a computation. -/
def andThen : Consult α → (α → Consult β) → Consult β
  | .done value, next => next value
  | .pattern source ask, next => .pattern source fun answer => (ask answer).andThen next
  | .digest text ask, next => .digest text fun answer => (ask answer).andThen next

instance : Monad Consult where
  pure := .done
  bind := andThen

/-- Asks for the pattern that a text writes. -/
def compiled (source : String) : Consult (Option Pattern) :=
  .pattern source .done

/-- Asks for the digest of a text. -/
def digested (text : String) : Consult UInt32 :=
  .digest text .done

/-- The value, with every request answered afresh by an oracle. -/
def evalBy (oracle : Oracle) : Consult α → α
  | .done value => value
  | .pattern source next => (next (oracle.compile? source)).evalBy oracle
  | .digest text next => (next (oracle.digest text)).evalBy oracle

/-- The value, with every request answered afresh. -/
def eval (computation : Consult α) : α :=
  computation.evalBy .standard

/-- Whether all of some items pass a test; the first that fails ends the asking. -/
def all (test : α → Consult Bool) : List α → Consult Bool
  | [] => .done true
  | item :: rest => do if ← test item then all test rest else return false

/-- Whether any of some items passes a test; the first that does ends the asking. -/
def any (test : α → Consult Bool) : List α → Consult Bool
  | [] => .done false
  | item :: rest => do if ← test item then return true else any test rest

/-- The items that pass a test. -/
def filter (test : α → Consult Bool) : List α → Consult (List α)
  | [] => .done []
  | item :: rest => do
    let keep ← test item
    let kept ← filter test rest
    return if keep then item :: kept else kept

/-- The number of items that pass a test. -/
def count (test : α → Consult Bool) : List α → Consult Nat
  | [] => .done 0
  | item :: rest => do
    let hit ← test item
    let hits ← count test rest
    return if hit then hits + 1 else hits

end Consult

/-- What has been computed: patterns and digests by the texts they come from. -/
structure Caches where
  patterns : Recency String Pattern
  digests : Recency String UInt32

/-- Empty caches of some capacities. -/
def Caches.ofCapacities (patterns digests : Nat) : Caches :=
  ⟨.ofCapacity patterns, .ofCapacity digests⟩

/-- The pattern that a text writes, from the cache if it is there. -/
def Caches.compiledBy (oracle : Oracle) (caches : Caches) (source : String) :
    Option Pattern × Caches :=
  match caches.patterns.touch source with
  | some (pattern, patterns) => (some pattern, { caches with patterns })
  | none =>
    match oracle.compile? source with
    | some pattern => (some pattern, { caches with patterns := caches.patterns.put source pattern })
    | none => (none, caches)

@[inherit_doc Caches.compiledBy]
def Caches.compiled (caches : Caches) (source : String) : Option Pattern × Caches :=
  caches.compiledBy .standard source

/-- The digest of a text, from the cache if it is there. -/
def Caches.digestedBy (oracle : Oracle) (caches : Caches) (text : String) : UInt32 × Caches :=
  match caches.digests.touch text with
  | some (value, digests) => (value, { caches with digests })
  | none =>
    let value := oracle.digest text
    (value, { caches with digests := caches.digests.put text value })

@[inherit_doc Caches.digestedBy]
def Caches.digested (caches : Caches) (text : String) : UInt32 × Caches :=
  caches.digestedBy .standard text

/-- The value of a computation whose requests an oracle answers, and the caches after them. -/
def Consult.runBy {α : Type} (oracle : Oracle) : Consult α → Caches → α × Caches
  | .done value, caches => (value, caches)
  | .pattern source next, caches =>
    let (answer, caches) := caches.compiledBy oracle source
    (next answer).runBy oracle caches
  | .digest text next, caches =>
    let (answer, caches) := caches.digestedBy oracle text
    (next answer).runBy oracle caches

/-- The value of a computation, and the caches after its requests. -/
def Consult.run {α : Type} (computation : Consult α) (caches : Caches) : α × Caches :=
  computation.runBy .standard caches

end Understudy
