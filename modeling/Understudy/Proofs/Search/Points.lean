import Understudy.Proofs.Search.Scores

/-!
# The points of ordered predicates

The rank of ordered predicates adds points up. There are points for each message, for each message
that satisfies its predicate and for all of them doing so, for each message that has all wanted
equal fields, and for each wanted field. These are whole numbers; on top of them comes the
similarity of the messages to what should be contained or match, a quarter of a point at most for
each. As long as the points and quarters have no more digits than a floating-point number, the rank
is told by them.

So a list of predicates of which more are satisfied has a lead, of a thousand points for each and of
ten thousand more if all are satisfied. Nothing says that the lead is enough: wanted fields and
equal ones have points of their own, and there may be any number of them.

## Main definitions

* `Decimal.Reaches`: a number is known but for some quarters
* `Sequence.satisfiedCount`, `Sequence.equalHits`, `Sequence.wantedFields`: what points are for
* `Sequence.lead`: the lead of a list of which more predicates are satisfied
* `Sequence.extras`: the points that have nothing to do with it

## Main results

* `Sequence.rank_reaches`: a rank is made of points and of the similarity of messages
* `Sequence.satisfied_outrank`: more satisfied predicates outrank fewer, unless the lead is made up
-/

namespace Understudy

open Decimal

/-! ## Quarters -/

namespace Decimal

theorem representable_quarters {n : ℕ} (h : n ≤ 2 ^ 53) : Representable ((n : ℚ) / 4) := by
  refine ⟨n, -2, ?_, by decide, ?_⟩
  · rw [abs_of_nonneg (Int.natCast_nonneg n)]
    exact_mod_cast h
  · norm_num [div_eq_mul_inv]

/-- A number reaches some points, and exceeds them by some quarters at most. -/
def Reaches (points quarters : ℕ) (number : Float) : Prop :=
  Between points (points + (quarters : ℚ) / 4) number

variable {a b : Float} {m n i j : ℕ}

theorem HasValue.reaches (ha : HasValue a n) : Reaches n 0 a :=
  ha.between.mono le_rfl (by simp)

theorem reaches_zero : Reaches 0 0 0 :=
  HasValue.reaches (by exact_mod_cast hasValue_zero)

theorem Reaches.cast (ha : Reaches m i a) (hm : m = n) (hi : i = j) : Reaches n j a :=
  hm ▸ hi ▸ ha

/-- **Points and quarters add up**, as long as there are not too many. -/
theorem Reaches.add (ha : Reaches m i a) (hb : Reaches n j b)
    (h : 4 * (m + n) + (i + j) ≤ 2 ^ 53) : Reaches (m + n) (i + j) (a + b) := by
  have hlow : Representable ((m : ℚ) + n) := by
    exact_mod_cast @representable_natCast (m + n) (by omega)
  have hhigh : Representable ((m : ℚ) + i / 4 + (n + j / 4)) := by
    have hquarters := representable_quarters h
    push_cast at hquarters
    convert hquarters using 1
    ring
  have hsum : (m : ℚ) + i / 4 + (n + j / 4) ≤ 2 ^ 53 := by
    have hcast : (4 : ℚ) * (m + n) + (i + j) ≤ 2 ^ 53 := by exact_mod_cast h
    linarith
  have hnonneg : (0 : ℚ) ≤ (m : ℚ) + n := by positivity
  have hadd := Between.add ha hb (hnonneg.trans' (neg_nonpos.mpr (two_zpow_pos _).le))
    (le_ample (hsum.trans (by norm_num)))
  rw [rounded_eq_self hlow, rounded_eq_self hhigh] at hadd
  refine hadd.mono (by push_cast; rfl) (le_of_eq ?_)
  push_cast
  ring

/-- A number with a weight is a whole number of points. -/
theorem reaches_weighted {weight : ℕ} (hweight : 0 < weight ∧ weight ≤ 2 ^ 53)
    (h : n * weight ≤ 2 ^ 53) : Reaches (n * weight) 0 (ofNat n * ofNat weight) := by
  have hn : n ≤ 2 ^ 53 := (Nat.le_mul_of_pos_right n hweight.1).trans h
  have hsmall : |(n : ℚ) * weight| ≤ ample := by
    rw [abs_of_nonneg (by positivity)]
    have hcast : (n : ℚ) * weight ≤ 2 ^ 53 := by exact_mod_cast h
    exact le_ample (hcast.trans (by norm_num))
  have hproduct := (hasValue_ofNat_of_le hn).mul (hasValue_ofNat_of_le hweight.2) hsmall
  rw [← Nat.cast_mul, rounded_eq_self (representable_natCast h)] at hproduct
  exact hproduct.reaches

end Decimal

namespace Sequence

/-! ## What there are points for -/

section Points

variable (oracle : Oracle) (predicates others : List Predicate) (messages : List Fields)

/-- The number of messages that satisfy their predicates, which want something. -/
def satisfiedCount : ℕ :=
  (predicates.zip (effective messages)).countP fun pair =>
    (satisfies pair.1 pair.2).evalBy oracle

/-- The number of messages that have all wanted equal fields, of which there are some. -/
def equalHits : ℕ :=
  (predicates.zip (effective messages)).countP fun pair => equalHit pair.1 pair.2

/-- The number of wanted fields. -/
def wantedFields : ℕ :=
  (predicates.map Predicate.fieldCount).sum

/-- The points for all messages satisfying their predicates. -/
def bonus : ℕ :=
  if satisfiedCount oracle predicates messages = (effective messages).length then 10000 else 0

/-- The points that do not depend on how many messages satisfy their predicates. -/
def extras : ℕ :=
  100 * equalHits predicates messages + 50 * wantedFields predicates

/-- The points of predicates, but for the similarity of the messages. -/
def points : ℕ :=
  10 * (effective messages).length + 1000 * satisfiedCount oracle predicates messages
    + bonus oracle predicates messages + extras predicates messages

/-- The lead of predicates of which more are satisfied than of others. -/
def lead : ℕ :=
  1000 * (satisfiedCount oracle predicates messages - satisfiedCount oracle others messages)
    + bonus oracle predicates messages

end Points

/-! ## Ranks -/

section Ranks

variable {oracle : Oracle} {predicates others : List Predicate} {messages : List Fields}

/-- The similarity of a message is a quarter of a point at most. -/
theorem partial_reaches {predicate : Predicate} {message : Fields} (h : predicate.Fits)
    (hmessage : (Json.obj message).Fits) :
    Reaches 0 1 (((Rank.fields (predicate.containing.getD []) message).evalBy oracle +
      (Rank.fields (predicate.matching.getD []) message).evalBy oracle) * partialWeight) := by
  have hcontained := Rank.fields_between oracle (h.map predicate.containing (by simp)) hmessage
  have hmatched := Rank.fields_between oracle (h.map predicate.matching (by simp)) hmessage
  have hsum := Between.add_natCast (m := 1) (n := 1) (by exact_mod_cast hcontained)
    (by exact_mod_cast hmatched) (by norm_num)
  have hweight : Between 0 (1 / 8) partialWeight := by
    have htenth : partialWeight = ofNat 1 / ofNat 10 := by decide +kernel
    have hone := @hasValue_ofNat_of_le 1 (by norm_num)
    have hten := @hasValue_ofNat_of_le 10 (by norm_num)
    have heighth : Representable (1 / 8) := by
      convert representable_two_zpow (e := -3) (by decide) using 1
      norm_num
    rw [htenth]
    refine ⟨_, hone.div hten (by norm_num) (le_ample (by norm_num)), ?_, ?_⟩
    · exact le_rounded representable_zero (by norm_num)
    · exact rounded_le heighth (by norm_num)
  refine (hsum.mul hweight (le_ample (by norm_num))).mono (by simp) ?_
  refine rounded_le ?_ (by norm_num)
  simpa using @representable_quarters 1 (by norm_num)

/-- What messages add to a sum: points for wanted equal fields, and the similarity. -/
theorem tally_reaches {pairs : List (Predicate × Fields)} {sum : Float} {satisfied m i : ℕ}
    (h : ∀ pair ∈ pairs, pair.1.Fits ∧ (Json.obj pair.2).Fits) (hsum : Reaches m i sum)
    (hpoints : 4 * (m + 100 * pairs.countP fun pair => equalHit pair.1 pair.2) +
      (i + pairs.length) ≤ 2 ^ 53) :
    Reaches (m + 100 * pairs.countP fun pair => equalHit pair.1 pair.2) (i + pairs.length)
      ((tally sum satisfied pairs).evalBy oracle).1 := by
  -- the sum grows with each pair, and the bound is for the sum and all that is still to come
  induction pairs generalizing sum satisfied m i with
  | nil => exact hsum
  | cons pair rest ih =>
    obtain ⟨predicate, message⟩ := pair
    obtain ⟨⟨hpredicate, hmessage⟩, hrest⟩ := List.forall_mem_cons.mp h
    have hpartial := @partial_reaches oracle _ _ hpredicate hmessage
    have hequal : Reaches 100 0 equalWeight :=
      HasValue.reaches (hasValue_ofNat_of_le (n := 100) (by norm_num))
    simp only [List.countP_cons, List.length_cons] at hpoints ⊢
    simp only [tally, Consult.evalBy_bind]
    split at hpoints
    · next hhit =>
      rw [if_pos hhit, if_pos hhit]
      have hsum' := (hsum.add hequal (by omega)).add hpartial (by omega)
      exact (ih hrest hsum' (by omega)).cast (by omega) (by omega)
    · next hmiss =>
      rw [if_neg hmiss, if_neg hmiss]
      have hsum' := hsum.add hpartial (by omega)
      exact (ih hrest hsum' (by omega)).cast (by omega) (by omega)

theorem tally_snd (sum : Float) (satisfied : ℕ) (pairs : List (Predicate × Fields)) :
    ((tally sum satisfied pairs).evalBy oracle).2 =
      satisfied + pairs.countP fun pair => (satisfies pair.1 pair.2).evalBy oracle := by
  induction pairs generalizing sum satisfied with
  | nil => rfl
  | cons pair rest ih =>
    obtain ⟨predicate, message⟩ := pair
    simp only [tally, Consult.evalBy_bind, ih, List.countP_cons]
    split <;> omega

/-- **A rank** is made of points and of the similarity of the messages. -/
theorem rank_reaches (hlength : predicates.length = (effective messages).length)
    (hsome : effective messages ≠ []) (hpredicates : ∀ predicate ∈ predicates, predicate.Fits)
    (hmessages : ∀ message ∈ messages, (Json.obj message).Fits)
    (hpoints : 4 * points oracle predicates messages + (effective messages).length ≤ 2 ^ 53) :
    Reaches (points oracle predicates messages) (effective messages).length
      ((rank predicates messages).evalBy oracle) := by
  have hguard : ((effective messages).length != predicates.length ||
      (effective messages).isEmpty) = false := by
    simp [hlength, hsome]
  have hpairs : ∀ pair ∈ predicates.zip (effective messages),
      pair.1.Fits ∧ (Json.obj pair.2).Fits := by
    have hcounting := effective_prefix messages
    rintro ⟨predicate, message⟩ hmem
    obtain ⟨hpredicate, hmessage⟩ := List.of_mem_zip hmem
    exact ⟨hpredicates predicate hpredicate, hmessages message (hcounting.subset hmessage)⟩
  have hzip : (predicates.zip (effective messages)).length = (effective messages).length := by
    simp [hlength]
  have htally : Reaches (100 * equalHits predicates messages) (effective messages).length
      ((tally 0 0 (predicates.zip (effective messages))).evalBy oracle).1 := by
    have hbound : 4 * (0 + 100 * equalHits predicates messages) +
        (0 + (predicates.zip (effective messages)).length) ≤ 2 ^ 53 := by
      rw [hzip]
      unfold points extras at hpoints
      omega
    have hsum := @tally_reaches oracle _ 0 0 0 0 hpairs reaches_zero hbound
    rwa [hzip, Nat.zero_add, Nat.zero_add] at hsum
  have hcount := @tally_snd oracle 0 0 (predicates.zip (effective messages))
  have hcomplete : Reaches (bonus oracle predicates messages) 0
      (if satisfiedCount oracle predicates messages = (effective messages).length
        then completeBonus else 0) := by
    unfold bonus
    split
    · exact HasValue.reaches (hasValue_ofNat_of_le (n := 10000) (by norm_num))
    · exact reaches_zero
  rw [rank, hguard]
  simp only [Bool.false_eq_true, if_false, Consult.evalBy_bind, Consult.evalBy_pure,
    ← List.sum_eq_foldl]
  generalize (tally 0 0 (predicates.zip (effective messages))).evalBy oracle = result
    at htally hcount ⊢
  obtain ⟨sum, satisfied⟩ := result
  obtain rfl : satisfied = satisfiedCount oracle predicates messages := by
    simpa [satisfiedCount] using hcount
  -- the terms are added in the order in which they are written
  unfold points extras at hpoints ⊢
  have hlengths := htally.add (@reaches_weighted (effective messages).length 10 (by norm_num)
    (by omega)) (by omega)
  have hsatisfied := hlengths.add (@reaches_weighted (satisfiedCount oracle predicates messages) 1000
    (by norm_num) (by omega)) (by omega)
  have hfields := (hsatisfied.add hcomplete (by omega)).add
    (@reaches_weighted (wantedFields predicates) 50 (by norm_num) (by omega)) (by omega)
  exact hfields.cast (by omega) rfl

/-- A rank is less than another one if its points are, with the similarity counted on its side. -/
theorem lt_of_reaches {a b : Float} {m n i j : ℕ} (ha : Reaches m i a) (hb : Reaches n j b)
    (h : 4 * m + i < 4 * n) : a < b := by
  obtain ⟨x, hx, -, hhigh⟩ := ha
  obtain ⟨y, hy, hlow, -⟩ := hb
  have hcast : (4 : ℚ) * m + i < 4 * n := by exact_mod_cast h
  exact (hx.lt_iff hy).mpr (by linarith)

/-- **More satisfied predicates outrank fewer, unless the lead is made up.** Let two lists of
predicates have as many as there are messages, and let more of one list be satisfied. It has a
greater rank if the lead and what else it has points for exceed what the other one has points for,
by more than a quarter for each message; and a smaller one if they fall short by as much. -/
theorem satisfied_outrank (oracle : Oracle)
    (hlength : predicates.length = (effective messages).length)
    (hlength' : others.length = (effective messages).length) (hsome : effective messages ≠ [])
    (hpredicates : ∀ predicate ∈ predicates, predicate.Fits)
    (hothers : ∀ predicate ∈ others, predicate.Fits)
    (hmessages : ∀ message ∈ messages, (Json.obj message).Fits)
    (hpoints : 4 * points oracle predicates messages + (effective messages).length ≤ 2 ^ 53)
    (hpoints' : 4 * points oracle others messages + (effective messages).length ≤ 2 ^ 53)
    (hmore : satisfiedCount oracle others messages < satisfiedCount oracle predicates messages) :
    (4 * extras others messages + (effective messages).length <
        4 * (extras predicates messages + lead oracle predicates others messages) →
      (rank others messages).evalBy oracle < (rank predicates messages).evalBy oracle) ∧
    (4 * (extras predicates messages + lead oracle predicates others messages) +
        (effective messages).length < 4 * extras others messages →
      (rank predicates messages).evalBy oracle < (rank others messages).evalBy oracle) := by
  have hreaches := rank_reaches hlength hsome hpredicates hmessages hpoints
  have hreaches' := rank_reaches hlength' hsome hothers hmessages hpoints'
  -- the others do not get the bonus, as fewer of them are satisfied
  have hbonus : bonus oracle others messages = 0 := by
    have hle : satisfiedCount oracle predicates messages ≤ (effective messages).length := by
      refine List.countP_le_length.trans ?_
      simp [hlength]
    exact if_neg (hmore.trans_le hle).ne
  constructor
  · intro hlead
    refine lt_of_reaches hreaches' hreaches ?_
    unfold points lead at *
    omega
  · intro hshort
    refine lt_of_reaches hreaches hreaches' ?_
    unfold points lead at *
    omega

end Ranks

end Sequence

/-! ## Lists of wishes -/

namespace Wishes

def item (text : String) : Fields := [("item", .str text)]

/-- A predicate that wants some text in an item. -/
def wanting (text : String) : Predicate where
  containing := some (item text)

/-- A predicate that wants an item, and some text in it. -/
def both (equal contained : String) : Predicate where
  equalTo := some (item equal)
  containing := some (item contained)

/-- A predicate that wants a dozen fields which no item has. -/
def greedy : Predicate where
  containing := some ("abcdefghijkl".toList.map fun letter => (String.singleton letter, .null))

/-- Two items. -/
def messages : List Fields := [item "pen", item "ink"]

/-- Wishes of which none, one or both are granted. -/
def unmet : List Predicate := [greedy, greedy]

@[inherit_doc unmet]
def half : List Predicate := [wanting "pen", wanting "cup"]

@[inherit_doc unmet]
def granted : List Predicate := [wanting "pen", wanting "ink"]

/-- A dozen pens. -/
def pens : List Fields := List.replicate 12 (item "pen")

/-- Wishes for a dozen items, one of which is granted; no other item is the one that is wanted. -/
def onePen : List Predicate := both "pen" "pen" :: List.replicate 11 (both "ink" "ink")

/-- Wishes for a dozen items, none of which is granted, but each item is the one that is wanted. -/
def noPen : List Predicate := List.replicate 12 (both "pen" "ink")

theorem fits_wanting {text : String} (h : text.utf8ByteSize < 2 ^ 64) : (wanting text).Fits := by
  refine Predicate.fits_of_maps ?_ nofun
  exact List.forall_mem_singleton.mpr (Json.fits_text _ h)

end Wishes

namespace Sequence

/-- Of two predicates and two messages, one more is satisfied, and nothing else is different. -/
theorem satisfied_outrank_wishes :
    Wishes.granted.length = (effective Wishes.messages).length ∧
    Wishes.half.length = (effective Wishes.messages).length ∧
    satisfiedCount .standard Wishes.half Wishes.messages <
      satisfiedCount .standard Wishes.granted Wishes.messages ∧
    (rank Wishes.half Wishes.messages).evalBy .standard <
      (rank Wishes.granted Wishes.messages).evalBy .standard := by
  have hmore : satisfiedCount .standard Wishes.half Wishes.messages <
      satisfiedCount .standard Wishes.granted Wishes.messages := by
    decide +kernel
  have hgranted : ∀ predicate ∈ Wishes.granted, predicate.Fits := by
    refine List.forall_mem_cons.mpr ⟨Wishes.fits_wanting (by decide), ?_⟩
    exact List.forall_mem_singleton.mpr (Wishes.fits_wanting (by decide))
  have hhalf : ∀ predicate ∈ Wishes.half, predicate.Fits := by
    refine List.forall_mem_cons.mpr ⟨Wishes.fits_wanting (by decide), ?_⟩
    exact List.forall_mem_singleton.mpr (Wishes.fits_wanting (by decide))
  have hmessages : ∀ message ∈ Wishes.messages, (Json.obj message).Fits := by
    refine List.forall_mem_cons.mpr ⟨Json.fits_text _ (by decide), ?_⟩
    exact List.forall_mem_singleton.mpr (Json.fits_text _ (by decide))
  refine ⟨rfl, rfl, hmore, ?_⟩
  exact (satisfied_outrank .standard rfl rfl (by decide) hgranted hhalf hmessages
    (by decide +kernel) (by decide +kernel) hmore).1 (by decide +kernel)

/-- The lead is made up: by wanted fields, two dozen of which are enough against one message, and by
equal fields alone, where as many are wanted. -/
theorem lead_made_up :
    (Wishes.half.length = (effective Wishes.messages).length ∧
      Wishes.unmet.length = (effective Wishes.messages).length ∧
      satisfiedCount .standard Wishes.unmet Wishes.messages <
        satisfiedCount .standard Wishes.half Wishes.messages ∧
      (rank Wishes.half Wishes.messages).evalBy .standard <
        (rank Wishes.unmet Wishes.messages).evalBy .standard) ∧
    Wishes.onePen.length = (effective Wishes.pens).length ∧
      Wishes.noPen.length = (effective Wishes.pens).length ∧
      wantedFields Wishes.noPen = wantedFields Wishes.onePen ∧
      satisfiedCount .standard Wishes.noPen Wishes.pens <
        satisfiedCount .standard Wishes.onePen Wishes.pens ∧
      (rank Wishes.onePen Wishes.pens).evalBy .standard <
        (rank Wishes.noPen Wishes.pens).evalBy .standard := by
  decide +kernel

end Sequence

end Understudy
