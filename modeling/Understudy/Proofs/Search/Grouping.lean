import Understudy.Proofs.Search.Selection

/-!
# Merging scans in any grouping

The scans of neighbouring pieces of a route may be merged two at a time in any grouping, with scans
of nothing put in anywhere, as long as their order is kept. Whatever the grouping, the outcome covers
what the whole route offers. As no two offers have the same position, a scan is determined by what it
covers, so every grouping yields the scan of the whole route.

## Main definitions

* `Grouping`: a way to merge some scans in order
* `scansOf`: the scans of neighbouring pieces of a route
* `chunkScans`: the scans of the chunks of a route, each at the position of its chunk

## Main results

* `Scan.Covers.unique`: a scan is determined by what it covers
* `Grouping.merged_eq_scan`: every grouping of the scans of pieces yields the scan of the whole
* `Grouping.merged_chunkScans`: in particular those of chunks
-/

namespace Understudy

/-! ## A scan is determined by what it covers -/

/-- Candidates that differ have one leader at most. -/
theorem Leads.unique {κ : Type} [LinearOrder κ] {key : Candidate → κ} {candidates : List Candidate}
    {a b : Option Candidate} (ha : Leads key candidates a) (hb : Leads key candidates b)
    (hindex : ∀ c ∈ candidates, ∀ d ∈ candidates, c.index = d.index → c = d) : a = b := by
  cases a with
  | none =>
    obtain rfl : candidates = [] := ha
    cases b with
    | none => rfl
    | some second => exact absurd hb.1 List.not_mem_nil
  | some first =>
    obtain ⟨hfirst, ha⟩ := ha
    cases b with
    | none =>
      obtain rfl : candidates = [] := hb
      exact absurd hfirst List.not_mem_nil
    | some second =>
      obtain ⟨hsecond, hb⟩ := hb
      -- each leader is at least as great as the other, so they tie and each comes first
      have hkey : key first = key second := le_antisymm (hb first hfirst).1 (ha second hsecond).1
      have hle : first.index ≤ second.index := (ha second hsecond).2 hkey.symm
      have hge : second.index ≤ first.index := (hb first hfirst).2 hkey
      exact congrArg some (hindex first hfirst second hsecond (le_antisymm hle hge))

/-- Offers at different positions determine the scan that covers them. -/
theorem Scan.Covers.unique {a b : Scan} {offered : List Offer} (ha : a.Covers offered)
    (hb : b.Covers offered)
    (hindex : ∀ c ∈ offered, ∀ d ∈ offered, c.1.index = d.1.index → c = d) : a = b := by
  have hbest : a.best = b.best := by
    refine ha.best.unique hb.best fun c hc d hd he => ?_
    exact congrArg Prod.fst
      (hindex (c, true) (mem_answering.mp hc) (d, true) (mem_answering.mp hd) he)
  have hsimilar : a.similar = b.similar := by
    refine ha.similar.unique hb.similar fun c hc d hd he => ?_
    obtain ⟨⟨answers, hc⟩, -⟩ := mem_positive.mp hc
    obtain ⟨⟨answers', hd⟩, -⟩ := mem_positive.mp hd
    exact congrArg Prod.fst (hindex (c, answers) hc (d, answers') hd he)
  cases a
  cases b
  exact congrArg₂ Scan.mk hbest hsimilar

/-! ## Groupings -/

/-- A way to merge some scans in order: two at a time, with scans of nothing at any place. -/
inductive Grouping where
  | nothing
  | one (scan : Scan)
  | both (earlier later : Grouping)

namespace Grouping

/-- The scans that are merged, in order. -/
def scans : Grouping → List Scan
  | nothing => []
  | one scan => [scan]
  | both earlier later => earlier.scans ++ later.scans

/-- The scan that they are merged into. -/
def merged : Grouping → Scan
  | nothing => {}
  | one scan => scan
  | both earlier later => earlier.merged.merge later.merged

end Grouping

section Pieces

variable (oracle : Oracle) (query : Query)

/-- The scans of neighbouring pieces of a route, the first of which has some position. -/
def scansOf : Nat → List (List Stub) → List Scan
  | _, [] => []
  | offset, piece :: rest =>
    (scan query piece offset).evalBy oracle :: scansOf (offset + piece.length) rest

/-- The scans of the chunks of a route. The position of a chunk is its number times the size. -/
def chunkScans (size : Nat) (stubs : List Stub) : List Scan :=
  (chunks size stubs).mapIdx fun number chunk =>
    (scan query chunk (number * max size 1)).evalBy oracle

variable {oracle query}

/-- Two offers of a route at the same position are the same. -/
theorem offer_eq_of_index_eq {offset : Nat} {stubs : List Stub} {a b : Offer}
    (ha : a ∈ offers oracle query offset stubs) (hb : b ∈ offers oracle query offset stubs)
    (h : a.1.index = b.1.index) : a = b := by
  obtain ⟨i, first, hfirst, rfl⟩ := mem_offers.mp ha
  obtain ⟨j, second, hsecond, rfl⟩ := mem_offers.mp hb
  have hij : offset + i = offset + j := h
  obtain rfl : i = j := Nat.add_left_cancel hij
  obtain rfl : first = second := Option.some.inj (hfirst.symm.trans hsecond)
  rfl

/-- The only scan that covers a route is its scan. -/
theorem Scan.Covers.eq_scan {found : Scan} {offset : Nat} {stubs : List Stub}
    (h : found.Covers (offers oracle query offset stubs)) (hnumeric : Numeric oracle query stubs) :
    found = (scan query stubs offset).evalBy oracle :=
  h.unique (evalBy_scan_covers hnumeric offset) fun _ hc _ hd => offer_eq_of_index_eq hc hd

/-- Scans of pieces in two rows are scans of the pieces of either row. -/
theorem exists_of_scansOf_eq_append {offset : Nat} {pieces : List (List Stub)}
    {earlier later : List Scan} (h : earlier ++ later = scansOf oracle query offset pieces) :
    ∃ before after, pieces = before ++ after ∧ earlier = scansOf oracle query offset before ∧
      later = scansOf oracle query (offset + before.flatten.length) after := by
  induction earlier generalizing offset pieces with
  | nil => exact ⟨[], pieces, rfl, rfl, h⟩
  | cons first earlier ih =>
    cases pieces with
    | nil => cases h
    | cons piece rest =>
      obtain ⟨rfl, htail⟩ := List.cons.inj h
      obtain ⟨before, after, rfl, rfl, rfl⟩ := ih htail
      refine ⟨piece :: before, after, rfl, rfl, ?_⟩
      rw [List.flatten_cons, List.length_append, Nat.add_assoc]

/-- Whatever the grouping, what the scans of pieces are merged into covers all of them. -/
theorem Grouping.covers_merged (grouping : Grouping) {offset : Nat} {pieces : List (List Stub)}
    (h : grouping.scans = scansOf oracle query offset pieces)
    (hnumeric : Numeric oracle query pieces.flatten) :
    grouping.merged.Covers (offers oracle query offset pieces.flatten) := by
  induction grouping generalizing offset pieces with
  | nothing =>
    -- no scans are those of no pieces
    cases pieces with
    | nil => exact Scan.Covers.empty
    | cons => cases h
  | one found =>
    -- a single scan is that of the only piece
    match pieces, h with
    | [piece], h =>
      obtain rfl : found = (scan query piece offset).evalBy oracle := List.head_eq_of_cons_eq h
      rw [List.flatten_singleton] at hnumeric ⊢
      exact evalBy_scan_covers hnumeric offset
  | both earlier later ihearlier ihlater =>
    obtain ⟨before, after, rfl, hbefore, hafter⟩ := exists_of_scansOf_eq_append h
    rw [List.flatten_append] at hnumeric ⊢
    obtain ⟨hnumeric, hnumeric'⟩ := List.forall_mem_append.mp hnumeric
    have hcovers := ihearlier hbefore hnumeric
    have hcovers' := ihlater hafter hnumeric'
    rw [offers_append]
    refine hcovers.merge hcovers' (Numeric.offers hnumeric offset) fun c hc d hd => ?_
    -- the pieces after come at later positions than the pieces before
    exact (index_of_mem_offers hc).2.trans_le (index_of_mem_offers hd).1

/-- **Every grouping** of the scans of neighbouring pieces yields the scan of the whole route. -/
theorem Grouping.merged_eq_scan (grouping : Grouping) {offset : Nat} {pieces : List (List Stub)}
    (h : grouping.scans = scansOf oracle query offset pieces)
    (hnumeric : Numeric oracle query pieces.flatten) :
    grouping.merged = (scan query pieces.flatten offset).evalBy oracle :=
  (grouping.covers_merged h hnumeric).eq_scan hnumeric

/-! ## Chunks -/

/-- Chunks but for the last one have the whole size, so their numbers tell their positions. -/
theorem mapIdx_chunks_eq_scansOf (size : Nat) (stubs : List Stub) (start : Nat) :
    ((chunks size stubs).mapIdx fun number chunk =>
        (scan query chunk (start + number * max size 1)).evalBy oracle) =
      scansOf oracle query start (chunks size stubs) := by
  fun_induction chunks size stubs generalizing start with
  | case1 => rfl
  | case2 stub rest ih =>
    rw [List.mapIdx_cons, scansOf, Nat.zero_mul, Nat.add_zero]
    refine congrArg _ ?_
    by_cases hlast : (stub :: rest).length ≤ max size 1
    · -- nothing is left behind the last chunk
      rw [List.drop_eq_nil_of_le hlast, chunks]
      rfl
    · have hlength : ((stub :: rest).take (max size 1)).length = max size 1 :=
        List.length_take_of_le (Nat.le_of_not_ge hlast)
      rw [hlength, ← ih]
      refine congrArg (List.mapIdx · _) (funext fun number => funext fun chunk => ?_)
      rw [Nat.succ_mul, Nat.add_comm (number * _), Nat.add_assoc]

theorem chunkScans_eq_scansOf (size : Nat) (stubs : List Stub) :
    chunkScans oracle query size stubs = scansOf oracle query 0 (chunks size stubs) := by
  rw [← mapIdx_chunks_eq_scansOf]
  simp only [chunkScans, Nat.zero_add]

/-- **Every grouping of chunks** of any size yields the scan of the route. -/
theorem Grouping.merged_chunkScans (grouping : Grouping) {size : Nat} {stubs : List Stub}
    (h : grouping.scans = chunkScans oracle query size stubs)
    (hnumeric : Numeric oracle query stubs) :
    grouping.merged = (scan query stubs 0).evalBy oracle := by
  have hflatten := chunks_flatten size stubs
  rw [chunkScans_eq_scansOf] at h
  rw [← hflatten] at hnumeric ⊢
  exact grouping.merged_eq_scan h hnumeric

/-- A scan in chunks is the scan of the route. -/
theorem evalBy_scanChunks {stubs : List Stub} (h : Numeric oracle query stubs) (size : Nat) :
    (scanChunks size query stubs).evalBy oracle = (scan query stubs 0).evalBy oracle :=
  (evalBy_scanChunks_covers h size).eq_scan h

end Pieces

end Understudy
