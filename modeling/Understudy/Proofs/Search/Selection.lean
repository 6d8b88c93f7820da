import Understudy.Proofs.Decimal.Order
import Understudy.Proofs.Memo.Transparency
import Understudy.Search.Scan

/-!
# Scans select leaders

A candidate *leads* some candidates if none has a greater key and it is the first of those with the
same key. Where candidates are compared by their keys, the winner of two leaders leads the
candidates of both, so a scan holds the leaders of what it was offered, at once or in chunks. The
keys are those of the scan's two orders: the specificity and then the score for the best stub, the
score alone for the closest one. They are linear orders as long as every score is a number.

## Main definitions

* `Leads`: the leader of some candidates
* `Candidate.strength`, `Candidate.nearness`: the keys of the two orders
* `Scan.Covers`: the winners of a scan lead the candidates that it was offered
* `offers`: the candidates that a route offers
* `Scan.Kept`: what merges keep
* `OfferAlike`: two queries are offered the same

## Main results

* `Leads.winner`: the winner of two leaders leads
* `Scan.Kept.scan`, `Scan.Kept.scanChunks`: what merges keep holds of every scan of a route
* `evalBy_scan_covers`, `evalBy_scanChunks_covers`: scans cover what they were offered
* `scan_congr`, `scanChunks_congr`: queries that are offered the same are scanned alike
-/

namespace Understudy

/-! ## Leaders -/

section Leaders

variable {κ : Type} [LinearOrder κ] {key : Candidate → κ}

/-- The leader of some candidates: it has the greatest key, and is the first with it. There is none
only if there are no candidates. -/
def Leads (key : Candidate → κ) (candidates : List Candidate) : Option Candidate → Prop
  | none => candidates = []
  | some leader => leader ∈ candidates ∧ ∀ other ∈ candidates,
      key other ≤ key leader ∧ (key other = key leader → leader.index ≤ other.index)

/-- The winner of the leaders of two stretches leads both of them together. -/
theorem Leads.winner {beats : Candidate → Candidate → Bool} {earlier later : List Candidate}
    {a b : Option Candidate} (ha : Leads key earlier a) (hb : Leads key later b)
    (hbeats : ∀ c ∈ earlier, ∀ d ∈ later, beats d c = true ↔ key c < key d)
    (hindex : ∀ c ∈ earlier, ∀ d ∈ later, c.index < d.index) :
    Leads key (earlier ++ later) (Candidate.winner beats a b) := by
  cases a with
  | none =>
    obtain rfl : earlier = [] := ha
    exact hb
  | some first =>
    cases b with
    | none =>
      obtain rfl : later = [] := hb
      rw [List.append_nil]
      exact ha
    | some second =>
      obtain ⟨hfirst, ha⟩ := ha
      obtain ⟨hsecond, hb⟩ := hb
      have hwins := hbeats first hfirst second hsecond
      show Leads key _ (some (if beats second first then second else first))
      split
      · next h =>
        -- the later leader has a greater key than the earlier one, hence than all before it
        have hlt := hwins.mp h
        refine ⟨List.mem_append_right _ hsecond, fun other ho => ?_⟩
        rcases List.mem_append.mp ho with ho | ho
        · have hother := (ha other ho).1.trans_lt hlt
          exact ⟨hother.le, fun he => absurd he hother.ne⟩
        · exact hb other ho
      · next h =>
        -- the earlier leader is not beaten, and it comes first if the keys tie
        have hle := not_lt.mp fun hlt => h (hwins.mpr hlt)
        refine ⟨List.mem_append_left _ hfirst, fun other ho => ?_⟩
        rcases List.mem_append.mp ho with ho | ho
        · exact ha other ho
        · exact ⟨(hb other ho).1.trans hle, fun _ => (hindex first hfirst other ho).le⟩

end Leaders

/-! ## The two orders of a scan -/

namespace Candidate

/-- How strong a candidate that answers is: its specificity, and then its score. -/
def strength (candidate : Candidate) : ℕ ×ₗ WithBot (ℤ ×ₗ ℤ ×ₗ ℤ) :=
  toLex (candidate.specificity, Decimal.magnitude candidate.score)

/-- How near a candidate comes: its score. -/
def nearness (candidate : Candidate) : WithBot (ℤ ×ₗ ℤ ×ₗ ℤ) :=
  Decimal.magnitude candidate.score

theorem closer_iff {earlier later : Candidate} (h : earlier.score.isNaN = false) :
    closer later earlier = true ↔ earlier.nearness < later.nearness := by
  rw [closer, decide_eq_true_iff, Decimal.lt_iff_magnitude]
  exact and_iff_right (Decimal.isNaN_iff_magnitude.mp h)

theorem better_iff {earlier later : Candidate} (h : earlier.score.isNaN = false) :
    better later earlier = true ↔ earlier.strength < later.strength := by
  rw [better, Bool.or_eq_true, Bool.and_eq_true, decide_eq_true_iff, beq_iff_eq,
    decide_eq_true_iff, strength, strength, Prod.Lex.toLex_lt_toLex, Decimal.lt_iff_magnitude,
    and_iff_right (Decimal.isNaN_iff_magnitude.mp h), @eq_comm _ later.specificity]

end Candidate

/-- A candidate as it is offered to a scan: with whether it answers. -/
abbrev Offer := Candidate × Bool

/-- The candidates that answer. -/
def answering (offered : List Offer) : List Candidate :=
  (offered.filter Prod.snd).map Prod.fst

/-- The candidates with a positive score. -/
def positive (offered : List Offer) : List Candidate :=
  (offered.map Prod.fst).filter fun candidate => 0 < candidate.score

/-- The winners of a scan lead the candidates that it was offered: the best one leads those that
answer, and the closest one those with a positive score. -/
structure Scan.Covers (scan : Scan) (offered : List Offer) : Prop where
  best : Leads Candidate.strength (answering offered) scan.best
  similar : Leads Candidate.nearness (positive offered) scan.similar

theorem mem_answering {offered : List Offer} {candidate : Candidate} :
    candidate ∈ answering offered ↔ (candidate, true) ∈ offered := by
  simp [answering]

theorem mem_positive {offered : List Offer} {candidate : Candidate} :
    candidate ∈ positive offered ↔
      (∃ answers, (candidate, answers) ∈ offered) ∧ 0 < candidate.score := by
  simp [positive]

namespace Scan

theorem Covers.empty : ({} : Scan).Covers [] := ⟨rfl, rfl⟩

/-- A scan of two neighbouring stretches covers both. -/
theorem Covers.merge {a b : Scan} {earlier later : List Offer} (ha : a.Covers earlier)
    (hb : b.Covers later) (hnumbers : ∀ offer ∈ earlier, offer.1.score.isNaN = false)
    (hindex : ∀ c ∈ earlier, ∀ d ∈ later, c.1.index < d.1.index) :
    (a.merge b).Covers (earlier ++ later) where
  best := by
    rw [answering, List.filter_append, List.map_append]
    refine ha.best.winner hb.best (fun c hc d _ => ?_) fun c hc d hd => ?_
    · exact Candidate.better_iff (hnumbers (c, true) (mem_answering.mp hc))
    · exact hindex (c, true) (mem_answering.mp hc) (d, true) (mem_answering.mp hd)
  similar := by
    rw [positive, List.map_append, List.filter_append]
    refine ha.similar.winner hb.similar (fun c hc d _ => ?_) fun c hc d hd => ?_
    · obtain ⟨⟨answers, hc⟩, -⟩ := mem_positive.mp hc
      exact Candidate.closer_iff (hnumbers (c, answers) hc)
    · obtain ⟨⟨answers, hc⟩, -⟩ := mem_positive.mp hc
      obtain ⟨⟨answers', hd⟩, -⟩ := mem_positive.mp hd
      exact hindex (c, answers) hc (d, answers') hd

theorem Covers.single (candidate : Candidate) (answers : Bool) :
    (Scan.single candidate answers).Covers [(candidate, answers)] where
  best := by
    unfold Scan.single answering
    cases answers with
    | true => exact ⟨List.mem_cons_self, by simp⟩
    | false => exact rfl
  similar := by
    unfold Scan.single positive
    by_cases h : 0 < candidate.score
    · simp only [h, if_true, List.map_cons, List.map_nil, List.filter_cons_of_pos, decide_true,
        List.filter_nil]
      exact ⟨List.mem_cons_self, by simp⟩
    · simp only [h, if_false, List.map_cons, List.map_nil, decide_false, Bool.false_eq_true,
        not_false_eq_true, List.filter_cons_of_neg, List.filter_nil]
      exact rfl

end Scan

/-! ## What a route offers -/

section Offers

variable (oracle : Oracle) (query : Query)

/-- Whether a stub answers a query, as an oracle has it. -/
def Stub.answersBy (stub : Stub) : Bool :=
  (stub.answers query).evalBy oracle

/-- The score of a stub for a query, as an oracle has it: its closeness and its priority. -/
def Stub.scoreBy (stub : Stub) : Float :=
  (stub.closeness query).evalBy oracle + stub.priorityScore

/-- What a stub at some position offers. -/
def Stub.offer (index : Nat) (stub : Stub) : Offer :=
  (⟨index, stub.specificity query.messages, stub.scoreBy oracle query⟩,
    stub.answersBy oracle query)

@[simp] theorem evalBy_candidate (index : Nat) (stub : Stub) :
    (stub.candidate query index).evalBy oracle = stub.offer oracle query index := by
  simp only [Stub.candidate, Consult.evalBy_bind, Consult.evalBy_pure]
  rfl

/-- What the stubs of a route offer, the first of which has some position. -/
def offers : Nat → List Stub → List Offer
  | _, [] => []
  | index, stub :: rest => stub.offer oracle query index :: offers (index + 1) rest

variable {oracle query}

/-- A stub answers a query if it accepts the headers and its predicates answer the messages. -/
theorem Stub.answersBy_iff {stub : Stub} :
    stub.answersBy oracle query = true ↔
      (stub.headers.accepts query.headers).evalBy oracle = true ∧
        (match stub.expectation with
          | .single predicate => predicate.answers query.messages
          | .ordered predicates => Sequence.answers predicates query.messages).evalBy oracle =
            true := by
  rw [answersBy, answers, Consult.evalBy_bind, Consult.evalBy_ite]
  split
  · next hheaders => exact (and_iff_right hheaders).symm
  · next hheaders =>
    rw [Consult.evalBy_pure]
    exact iff_of_false Bool.false_ne_true fun h => hheaders h.1

/-- The offers are those of the stubs at their positions. -/
theorem mem_offers {offset : Nat} {stubs : List Stub} {offer : Offer} :
    offer ∈ offers oracle query offset stubs ↔
      ∃ (position : ℕ) (stub : Stub), stubs[position]? = some stub ∧
        offer = stub.offer oracle query (offset + position) := by
  induction stubs generalizing offset with
  | nil => simp [offers]
  | cons first rest ih =>
    rw [offers, List.mem_cons, ih]
    constructor
    · rintro (rfl | ⟨position, stub, hs, rfl⟩)
      · exact ⟨0, first, rfl, rfl⟩
      · exact ⟨position + 1, stub, hs, by rw [Nat.add_right_comm, Nat.add_assoc]⟩
    · rintro ⟨position, stub, hs, rfl⟩
      cases position with
      | zero => exact .inl (Option.some.inj hs ▸ rfl)
      | succ position =>
        exact .inr ⟨position, stub, hs, by rw [Nat.add_right_comm, Nat.add_assoc]⟩

theorem index_of_mem_offers {offset : Nat} {stubs : List Stub} {offer : Offer}
    (h : offer ∈ offers oracle query offset stubs) :
    offset ≤ offer.1.index ∧ offer.1.index < offset + stubs.length := by
  obtain ⟨position, stub, hs, rfl⟩ := mem_offers.mp h
  obtain ⟨hlt, -⟩ := List.getElem?_eq_some_iff.mp hs
  exact ⟨Nat.le_add_right _ _, Nat.add_lt_add_left hlt offset⟩

theorem offers_append (offset : Nat) (a b : List Stub) :
    offers oracle query offset (a ++ b) =
      offers oracle query offset a ++ offers oracle query (offset + a.length) b := by
  induction a generalizing offset with
  | nil => rfl
  | cons first rest ih =>
    rw [List.cons_append, offers, offers, ih, List.cons_append, List.length_cons,
      Nat.add_right_comm, Nat.add_assoc]

/-- Whether the scores of stubs are numbers. -/
def Numeric (oracle : Oracle) (query : Query) (stubs : List Stub) : Prop :=
  ∀ stub ∈ stubs, (stub.scoreBy oracle query).isNaN = false

theorem Numeric.offers {stubs : List Stub} (h : Numeric oracle query stubs) (offset : Nat) :
    ∀ offer ∈ Understudy.offers oracle query offset stubs, offer.1.score.isNaN = false := by
  intro offer ho
  obtain ⟨position, stub, hs, rfl⟩ := mem_offers.mp ho
  exact h stub (List.mem_of_getElem? hs)

/-! ## Scans of a route -/

/-- A statement about a scan and what it was offered that holds of nothing and of a single offer,
and that a merge keeps. -/
structure Scan.Kept (holds : Scan → List Offer → Prop) : Prop where
  empty : holds {} []
  single : ∀ candidate answers, holds (Scan.single candidate answers) [(candidate, answers)]
  merge : ∀ {a b : Scan} {earlier later : List Offer}, holds a earlier → holds b later →
    holds (a.merge b) (earlier ++ later)

section Kept

variable {holds : Scan → List Offer → Prop}

/-- What merges keep holds after going on with a scan. -/
theorem Scan.Kept.scanFrom (h : Scan.Kept holds) {scan : Scan} {offered : List Offer}
    (hscan : holds scan offered) (stubs : List Stub) (index : Nat) :
    holds ((Understudy.scanFrom query scan index stubs).evalBy oracle)
      (offered ++ offers oracle query index stubs) := by
  induction stubs generalizing scan offered index with
  | nil => rwa [offers, List.append_nil]
  | cons stub rest ih =>
    rw [Understudy.scanFrom, Consult.evalBy_bind, evalBy_candidate, offers, List.append_cons]
    exact ih (h.merge hscan (h.single _ _)) (index + 1)

/-- What merges keep holds of a scan. -/
theorem Scan.Kept.scan (h : Scan.Kept holds) (stubs : List Stub) (offset : Nat) :
    holds ((Understudy.scan query stubs offset).evalBy oracle)
      (offers oracle query offset stubs) :=
  h.scanFrom h.empty stubs offset

/-- What merges keep holds after merging the scans of chunks. -/
theorem Scan.Kept.mergeChunks (h : Scan.Kept holds) {merged : Scan} {offered : List Offer}
    (hmerged : holds merged offered) (stubs : List (List Stub)) (offset : Nat) :
    holds ((Understudy.mergeChunks query merged offset stubs).evalBy oracle)
      (offered ++ offers oracle query offset stubs.flatten) := by
  induction stubs generalizing merged offered offset with
  | nil => rwa [List.flatten_nil, offers, List.append_nil]
  | cons chunk rest ih =>
    rw [Understudy.mergeChunks, Consult.evalBy_bind, List.flatten_cons, offers_append,
      ← List.append_assoc]
    exact ih (h.merge hmerged (h.scan chunk offset)) (offset + chunk.length)

theorem chunks_flatten {α : Type} (size : Nat) (items : List α) :
    (chunks size items).flatten = items := by
  fun_induction chunks size items with
  | case1 => rfl
  | case2 item rest ih =>
    rw [List.flatten_cons, ih, List.take_append_drop]

/-- What merges keep holds of a scan in chunks. -/
theorem Scan.Kept.scanChunks (h : Scan.Kept holds) (stubs : List Stub) (size : Nat) :
    holds ((Understudy.scanChunks size query stubs).evalBy oracle)
      (offers oracle query 0 stubs) := by
  have hchunks : holds ((Understudy.scanChunks size query stubs).evalBy oracle)
      (offers oracle query 0 (chunks size stubs).flatten) :=
    h.mergeChunks h.empty (chunks size stubs) 0
  rwa [chunks_flatten] at hchunks

end Kept

/-- Merges keep it that a scan covers offers in order whose scores are numbers. -/
theorem Scan.kept_covers : Scan.Kept fun scan offered =>
    (∀ offer ∈ offered, offer.1.score.isNaN = false) →
      (offered.Pairwise fun a b => a.1.index < b.1.index) → scan.Covers offered where
  empty _ _ := .empty
  single candidate answers _ _ := .single candidate answers
  merge ha hb hnumbers hindex := by
    obtain ⟨hearlier, hlater⟩ := List.forall_mem_append.mp hnumbers
    obtain ⟨hfirst, hsecond, hbetween⟩ := List.pairwise_append.mp hindex
    exact (ha hearlier hfirst).merge (hb hlater hsecond) hearlier hbetween

/-- A route offers its stubs in order. -/
theorem pairwise_offers (offset : Nat) (stubs : List Stub) :
    (offers oracle query offset stubs).Pairwise fun a b => a.1.index < b.1.index := by
  induction stubs generalizing offset with
  | nil => exact .nil
  | cons stub rest ih =>
    refine List.pairwise_cons.mpr ⟨fun later hlater => ?_, ih (offset + 1)⟩
    exact (Nat.lt_succ_self offset).trans_le (index_of_mem_offers hlater).1

/-- **A scan** covers the stubs of a route. -/
theorem evalBy_scan_covers {stubs : List Stub} (h : Numeric oracle query stubs) (offset : Nat) :
    ((scan query stubs offset).evalBy oracle).Covers (offers oracle query offset stubs) :=
  Scan.kept_covers.scan stubs offset (h.offers offset) (pairwise_offers offset stubs)

/-- **A scan in chunks** of any size covers the stubs of a route. -/
theorem evalBy_scanChunks_covers {stubs : List Stub} (h : Numeric oracle query stubs)
    (size : Nat) :
    ((scanChunks size query stubs).evalBy oracle).Covers (offers oracle query 0 stubs) :=
  Scan.kept_covers.scanChunks stubs size (h.offers 0) (pairwise_offers 0 stubs)

end Offers

/-! ## Queries that are offered the same -/

/-- Each of some stubs is the same candidate for two queries, found out in the same way. -/
def OfferAlike (query query' : Query) (stubs : List Stub) : Prop :=
  ∀ stub ∈ stubs, ∀ index, stub.candidate query index = stub.candidate query' index

section Alike

variable {query query' : Query} {stubs : List Stub}

theorem scanFrom_congr (h : OfferAlike query query' stubs) (before : Scan) (offset : Nat) :
    scanFrom query before offset stubs = scanFrom query' before offset stubs := by
  induction stubs generalizing before offset with
  | nil => rfl
  | cons stub rest ih =>
    obtain ⟨hstub, hrest⟩ := List.forall_mem_cons.mp h
    simp only [scanFrom, hstub, ih hrest]

/-- A scan is the same for queries that are offered the same. -/
theorem scan_congr (h : OfferAlike query query' stubs) (offset : Nat) :
    scan query stubs offset = scan query' stubs offset :=
  scanFrom_congr h {} offset

theorem mergeChunks_congr {pieces : List (List Stub)}
    (h : ∀ piece ∈ pieces, OfferAlike query query' piece) (merged : Scan) (offset : Nat) :
    mergeChunks query merged offset pieces = mergeChunks query' merged offset pieces := by
  induction pieces generalizing merged offset with
  | nil => rfl
  | cons piece rest ih =>
    obtain ⟨hpiece, hrest⟩ := List.forall_mem_cons.mp h
    simp only [mergeChunks, scan_congr hpiece, ih hrest]

/-- So is a scan in chunks. -/
theorem scanChunks_congr (h : OfferAlike query query' stubs) (size : Nat) :
    scanChunks size query stubs = scanChunks size query' stubs := by
  refine mergeChunks_congr (fun piece hpiece stub hmem => h stub ?_) {} 0
  rw [← chunks_flatten size stubs]
  exact List.mem_flatten_of_mem hpiece hmem

end Alike

end Understudy
