import Understudy.Search.Match

/-!
# Scans

One pass over the stubs of a route, which keeps the best stub that answers a query and the closest
stub of all. The best one has the greatest specificity and, among those, the greatest score; ties go
to the earlier stub. Two scans of neighbouring stretches merge into the scan of both, so a long
route may be scanned in chunks.

## Main definitions

* `Candidate`, `Scan`: a scored stub, and the winners of a scan
* `Scan.offer`, `Scan.merge`: one more stub, and the scan of a later stretch
* `scan`, `scanChunks`: scans of a route, at once and in chunks
-/

namespace Understudy

/-- A scored stub, by its position in the route. -/
structure Candidate where
  index : Nat
  specificity : Nat
  score : Float
deriving DecidableEq, Inhabited

/-- The winners of a scan. -/
structure Scan where
  /-- The best of the stubs that answer. -/
  best : Option Candidate := none
  /-- The closest of all stubs with a positive score. -/
  similar : Option Candidate := none
deriving DecidableEq, Inhabited

namespace Candidate

/-- Whether a later candidate is better than an earlier one. -/
def better (later earlier : Candidate) : Bool :=
  earlier.specificity < later.specificity ||
    (later.specificity == earlier.specificity && earlier.score < later.score)

/-- Whether a later candidate is closer than an earlier one. -/
def closer (later earlier : Candidate) : Bool :=
  earlier.score < later.score

/-- The winner of an earlier and a later candidate, either of which may be missing. The later one
has to beat the earlier one. -/
def winner (beats : Candidate → Candidate → Bool) :
    Option Candidate → Option Candidate → Option Candidate
  | some earlier, some later => some (if beats later earlier then later else earlier)
  | some earlier, none => some earlier
  | none, later => later

end Candidate

namespace Scan

/-- The winners of a stretch and of a later one. -/
def merge (earlier later : Scan) : Scan where
  best := Candidate.winner Candidate.better earlier.best later.best
  similar := Candidate.winner Candidate.closer earlier.similar later.similar

/-- The scan of a single candidate, given whether it answers. -/
def single (candidate : Candidate) (answers : Bool) : Scan where
  best := if answers then some candidate else none
  similar := if 0 < candidate.score then some candidate else none

/-- The winners after one more candidate. -/
def offer (scan : Scan) (candidate : Candidate) (answers : Bool) : Scan :=
  scan.merge (single candidate answers)

end Scan

/-- A stub as a candidate for a query, and whether it answers. -/
def Stub.candidate (query : Query) (index : Nat) (stub : Stub) : Consult (Candidate × Bool) := do
  let answers ← stub.answers query
  let closeness ← stub.closeness query
  return ({ index, specificity := stub.specificity query.messages,
            score := closeness + stub.priorityScore }, answers)

/-- Goes on with a scan over further stubs, the first of which has some position. -/
def scanFrom (query : Query) (scan : Scan) (index : Nat) : List Stub → Consult Scan
  | [] => return scan
  | stub :: rest => do
    let (candidate, answers) ← stub.candidate query index
    scanFrom query (scan.offer candidate answers) (index + 1) rest

/-- The scan of some stubs, the first of which has some position. -/
def scan (query : Query) (stubs : List Stub) (offset : Nat) : Consult Scan :=
  scanFrom query {} offset stubs

/-- A list cut into chunks of a size; a size of zero counts as one. -/
def chunks {α : Type} (size : Nat) (items : List α) : List (List α) :=
  match items with
  | [] => []
  | item :: rest =>
    (item :: rest).take (max size 1) :: chunks size ((item :: rest).drop (max size 1))
termination_by items.length
decreasing_by simp only [List.length_drop, List.length_cons]; omega

/-- The scans of some chunks, merged in order. -/
def mergeChunks (query : Query) (merged : Scan) (offset : Nat) : List (List Stub) → Consult Scan
  | [] => return merged
  | chunk :: rest => do
    let later ← scan query chunk offset
    mergeChunks query (merged.merge later) (offset + chunk.length) rest

/-- The scan of some stubs in chunks of a size. -/
def scanChunks (size : Nat) (query : Query) (stubs : List Stub) : Consult Scan :=
  mergeChunks query {} 0 (chunks size stubs)

end Understudy
