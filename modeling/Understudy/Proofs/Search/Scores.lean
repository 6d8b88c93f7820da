import Understudy.Proofs.Predicate.RankBounds
import Understudy.Proofs.Predicate.Satisfaction
import Understudy.Proofs.Search.Selection

/-!
# How high scores are

The closeness of a stub is limited by what it expects, and the rest of its score is its priority. A
stub with one predicate comes no closer than three for each level of its alternatives, and three
more for its headers. With ordered predicates the weights are far greater, but what they add up to is
far from the greatest number, so every score is a number.

## Main definitions

* `Stub.Fits`, `Query.Fits`: sizes fit a word
* `Stub.ceiling`: how close a stub with one predicate comes at most

## Main results

* `Stub.closeness_between_ceiling`: a stub with one predicate comes no closer than its ceiling
* `numeric_of_fits`: scores are numbers
-/

namespace Understudy

open Decimal

/-! ## Powers of two as bounds -/

namespace Decimal.Between

variable {a b : Float} {m n k : ℕ}

theorem zero_power : Between 0 (2 ^ n) 0 :=
  hasValue_zero.between.mono le_rfl (pow_nonneg (by norm_num) n)

theorem power_mono (ha : Between 0 (2 ^ m) a) (h : m ≤ n) : Between 0 (2 ^ n) a :=
  ha.mono le_rfl (pow_le_pow_right₀ (by norm_num) h)

/-- A sum has one more binary digit than the longer summand, and is as great as any whole numbers
that are not greater than the summands. -/
theorem add_natCast_power {i j : ℕ} (ha : Between i (2 ^ m) a) (hb : Between j (2 ^ n) b)
    (hlow : i + j ≤ 2 ^ 53) (h : m < k ∧ n < k ∧ k ≤ 100) :
    Between (i + j : ℕ) (2 ^ k) (a + b) := by
  obtain ⟨hm, hn, hk⟩ := h
  have hle : ∀ {l : ℕ}, l < k → (2 : ℚ) ^ l ≤ 2 ^ (k - 1) := fun hl =>
    pow_le_pow_right₀ (by norm_num) (by omega)
  have hsum : (2 : ℚ) ^ m + 2 ^ n ≤ 2 ^ k := by
    have hhalf : (2 : ℚ) ^ k = 2 ^ (k - 1) * 2 := by
      rw [← pow_succ, Nat.sub_add_cancel (by omega)]
    linarith [hle hm, hle hn]
  have hample : (2 : ℚ) ^ k ≤ 2 ^ 100 := pow_le_pow_right₀ (by norm_num) hk
  have hnonneg : (0 : ℚ) ≤ (i : ℚ) + j := by positivity
  have hadd := ha.add hb (hnonneg.trans' (neg_nonpos.mpr (two_zpow_pos _).le))
    (le_ample (hsum.trans hample))
  refine hadd.mono ?_ (rounded_le (representable_two_pow k) hsum)
  rw [← Nat.cast_add]
  exact (rounded_eq_self (representable_natCast hlow)).ge

theorem add_power (ha : Between 0 (2 ^ m) a) (hb : Between 0 (2 ^ n) b)
    (h : m < k ∧ n < k ∧ k ≤ 100) : Between 0 (2 ^ k) (a + b) := by
  rw [← Nat.cast_zero] at ha hb ⊢
  exact ha.add_natCast_power hb (by norm_num) h

/-- What is small makes no difference to a bound that is large. -/
theorem add_small (ha : Between 0 (2 ^ n) a) (hb : Between 0 (2 ^ k) b)
    (h : k + 53 ≤ n ∧ n < 100) : Between 0 (2 ^ n) (a + b) := by
  obtain ⟨hk, hn⟩ := h
  have hsum : (2 : ℚ) ^ n + 2 ^ k ≤ 2 ^ (n + 1) := by
    have hle : (2 : ℚ) ^ k ≤ 2 ^ n := pow_le_pow_right₀ (by norm_num) (by omega)
    rw [pow_succ]
    linarith
  have hample : (2 : ℚ) ^ (n + 1) ≤ 2 ^ 100 := pow_le_pow_right₀ (by norm_num) hn
  exact (ha.add_of_nonneg hb (le_ample (hsum.trans hample))).mono le_rfl
    (rounded_le_two_pow hk le_rfl)

/-- A product has as many binary digits as both factors. -/
theorem mul_power (ha : Between 0 (2 ^ m) a) (hb : Between 0 (2 ^ n) b) (h : m + n ≤ 100) :
    Between 0 (2 ^ (m + n)) (a * b) := by
  have hample : (2 : ℚ) ^ (m + n) ≤ 2 ^ 100 := pow_le_pow_right₀ (by norm_num) h
  have hproduct := ha.mul hb (by rw [← pow_add]; exact le_ample hample)
  rwa [← pow_add, rounded_eq_self (representable_two_pow _)] at hproduct

end Decimal.Between

theorem Decimal.ofNat_between (n : ℕ) : Between 0 (2 ^ 64) (ofNat n) := by
  have hlt : ((n % 2 ^ 64 : ℕ) : ℚ) ≤ 2 ^ 64 := by
    exact_mod_cast (Nat.mod_lt n (Nat.two_pow_pos 64)).le
  exact ⟨_, hasValue_ofNat n, le_rounded representable_zero (Nat.cast_nonneg _),
    rounded_le (representable_two_pow 64) hlt⟩

theorem Decimal.ofNat_between_power {n k : ℕ} (h : n ≤ 2 ^ k ∧ k ≤ 53) :
    Between 0 (2 ^ k) (ofNat n) := by
  have hle : n ≤ 2 ^ 53 := h.1.trans (Nat.pow_le_pow_right (by norm_num) h.2)
  refine (hasValue_ofNat_of_le hle).between.mono (Nat.cast_nonneg n) ?_
  exact_mod_cast h.1

/-! ## Sizes -/

/-- The sizes in what the stub expects fit a word. -/
structure Stub.Fits (stub : Stub) : Prop where
  headers : stub.headers.Fits
  single : ∀ predicate, stub.single? = some predicate → predicate.Fits
  sequence : ∀ predicate ∈ stub.sequence, predicate.Fits

/-- The sizes in the headers and messages fit a word. -/
structure Query.Fits (query : Query) : Prop where
  headers : (Json.obj query.headers).Fits
  messages : ∀ message ∈ query.messages, (Json.obj message).Fits

/-! ## One predicate -/

section Closeness

variable {oracle : Oracle}

namespace Predicate

variable {predicate : Predicate} {message : Fields}

theorem one_le_highest (predicate : Predicate) : 1 ≤ highest predicate.levels := by
  rw [levels_eq, highest]
  refine le_rounded ?_ (by linarith [highest_nonneg (levelsOf predicate.anyOf)])
  exact_mod_cast @representable_natCast 1 (by norm_num)

/-- **How close a message comes** is limited by the levels of alternatives. -/
theorem closeness_between (h : predicate.Fits) (hmessage : (Json.obj message).Fits) :
    Between 0 (highest predicate.levels) ((predicate.closeness message).evalBy oracle) := by
  rw [closeness, Consult.evalBy_ite, Consult.evalBy_ite]
  split
  · rw [Consult.evalBy_pure]
    exact (Rank.between_hit predicate.isEmpty).mono le_rfl (one_le_highest predicate)
  · split
    · rw [Consult.evalBy_bind, Consult.evalBy_pure]
      exact (Rank.between_hit _).mono le_rfl (one_le_highest predicate)
    · exact rank_between h hmessage

end Predicate

/-! ## Ordered predicates -/

namespace Sequence

variable {predicate : Predicate} {message : Fields} {predicates : List Predicate}
  {messages : List Fields}

/-- What the ranks of two maps add for a message. -/
theorem partial_between (h : predicate.Fits) (hmessage : (Json.obj message).Fits) :
    Between 0 (2 ^ 1) (((Rank.fields (predicate.containing.getD []) message).evalBy oracle +
      (Rank.fields (predicate.matching.getD []) message).evalBy oracle) * partialWeight) := by
  have hcontained := Rank.fields_between oracle (h.map predicate.containing (by simp)) hmessage
  have hmatched := Rank.fields_between oracle (h.map predicate.matching (by simp)) hmessage
  have hweight : Between 0 1 partialWeight := Rank.between_unconditional
  rw [← pow_zero (2 : ℚ)] at hcontained hmatched hweight
  exact (hcontained.add_power hmatched (k := 1) (by norm_num)).mul_power hweight (by norm_num)

/-- What messages add to a sum is little by comparison. -/
theorem tally_between {pairs : List (Predicate × Fields)} {sum : Float} {satisfied : ℕ}
    (h : ∀ pair ∈ pairs, pair.1.Fits ∧ (Json.obj pair.2).Fits) (hsum : Between 0 (2 ^ 60) sum) :
    Between 0 (2 ^ 60) ((tally sum satisfied pairs).evalBy oracle).1 := by
  induction pairs generalizing sum satisfied with
  | nil => exact hsum
  | cons pair rest ih =>
    obtain ⟨predicate, message⟩ := pair
    obtain ⟨⟨hpredicate, hmessage⟩, hrest⟩ := List.forall_mem_cons.mp h
    have hpartial := @partial_between oracle _ _ hpredicate hmessage
    have hequal : Between 0 (2 ^ 7) equalWeight :=
      ofNat_between_power (n := 100) (by norm_num)
    simp only [tally, Consult.evalBy_bind]
    split
    · exact ih hrest ((hsum.add_small hequal (by norm_num)).add_small hpartial (by norm_num))
    · exact ih hrest (hsum.add_small hpartial (by norm_num))

/-- A number with a weight of one of the sizes that there are. -/
theorem weighted_between (n : ℕ) {weight : ℕ} (h : weight ≤ 2 ^ 10) :
    Between 0 (2 ^ 74) (ofNat n * ofNat weight) :=
  (ofNat_between n).mul_power (ofNat_between_power ⟨h, by norm_num⟩) (by norm_num)

theorem bonus_between (complete : Prop) [Decidable complete] :
    Between 0 (2 ^ 14) (if complete then completeBonus else 0) := by
  split
  · exact ofNat_between_power (n := 10000) (by norm_num)
  · exact Between.zero_power

theorem rank_between (hpredicates : ∀ predicate ∈ predicates, predicate.Fits)
    (hmessages : ∀ message ∈ messages, (Json.obj message).Fits) :
    Between 0 (2 ^ 80) ((rank predicates messages).evalBy oracle) := by
  rw [rank, Consult.evalBy_ite]
  split
  · exact Between.zero_power
  · have hstart := effective_prefix messages
    have hpairs : ∀ pair ∈ predicates.zip (effective messages),
        pair.1.Fits ∧ (Json.obj pair.2).Fits := by
      rintro ⟨predicate, message⟩ hmem
      obtain ⟨hpredicate, hmessage⟩ := List.of_mem_zip hmem
      exact ⟨hpredicates predicate hpredicate, hmessages message (hstart.subset hmessage)⟩
    have htally := @tally_between oracle _ 0 0 hpairs Between.zero_power
    rw [Consult.evalBy_bind, Consult.evalBy_pure]
    generalize (tally 0 0 (predicates.zip (effective messages))).evalBy oracle = result
      at htally ⊢
    obtain ⟨sum, satisfied⟩ := result
    -- the terms are added in the order in which they are written, each with room for one digit
    have hlength := htally.add_power
      (weighted_between (effective messages).length (by norm_num : 10 ≤ 2 ^ 10)) (k := 76)
      (by norm_num)
    have hsatisfied := hlength.add_power
      (weighted_between satisfied (by norm_num : 1000 ≤ 2 ^ 10)) (k := 77) (by norm_num)
    have hcomplete := hsatisfied.add_power
      (bonus_between (satisfied = (effective messages).length)) (k := 78) (by norm_num)
    have hfields := weighted_between ((predicates.map Predicate.fieldCount).foldl (· + ·) 0)
      (by norm_num : 50 ≤ 2 ^ 10)
    exact hcomplete.add_power hfields (by norm_num)

theorem closeness_between (hpredicates : ∀ predicate ∈ predicates, predicate.Fits)
    (hmessages : ∀ message ∈ messages, (Json.obj message).Fits) :
    Between 0 (2 ^ 80) ((closeness predicates messages).evalBy oracle) := by
  unfold closeness
  rw [Consult.evalBy_ite]
  split
  · rw [Consult.evalBy_pure]
    exact (Rank.between_hit _).mono le_rfl (by norm_num)
  · split
    · next predicate message heq =>
      have hstart := effective_prefix messages
      rw [heq] at hstart
      have hmem : message ∈ messages := hstart.subset List.mem_cons_self
      refine (Predicate.closeness_between (hpredicates predicate List.mem_cons_self)
        (hmessages message hmem)).mono le_rfl ((Predicate.highest_le _).trans ?_)
      norm_num
    · exact rank_between hpredicates hmessages

end Sequence

/-! ## Stubs -/

namespace Stub

variable {stub : Stub} {query : Query}

/-- How close a stub with one predicate comes at most: three for each level of alternatives, and
three for headers that are wanted. -/
def ceiling (stub : Stub) : ℕ :=
  stub.headers.ceiling + 3 * Predicate.levelsOf stub.single?.toList

theorem headers_between (h : stub.Fits) (hquery : query.Fits) :
    Between 0 (2 ^ 2) ((stub.headers.rank query.headers).evalBy oracle) := by
  refine (HeaderPredicate.rank_between h.headers hquery.headers).mono le_rfl ?_
  unfold HeaderPredicate.ceiling
  split_ifs <;> norm_num

/-- **A stub with one predicate comes no closer than its ceiling.** -/
theorem closeness_between_ceiling (oracle : Oracle) (h : stub.Fits) (hquery : query.Fits)
    {predicate : Predicate} (hsingle : stub.single? = some predicate)
    (hceiling : stub.ceiling ≤ 2 ^ 53) :
    Between 0 stub.ceiling ((stub.closeness query).evalBy oracle) := by
  have hlevels : stub.ceiling = stub.headers.ceiling + 3 * predicate.levels := by
    simp [ceiling, hsingle, Predicate.levelsOf]
  have hheaders := @HeaderPredicate.rank_between oracle _ _ h.headers hquery.headers
  have hpredicate : ∀ message, (Json.obj message).Fits → Between 0 (3 * predicate.levels : ℕ)
      ((predicate.closeness message).evalBy oracle) := by
    intro message hmessage
    rw [← Predicate.highest_eq (by omega)]
    exact Predicate.closeness_between (h.single predicate hsingle) hmessage
  have hexpectation : stub.expectation = .single predicate := by
    unfold single? at hsingle
    split at hsingle
    · next heq => rw [heq, Option.some.inj hsingle]
    · cases hsingle
  rw [closeness, Consult.evalBy_bind, Consult.evalBy_ite]
  split
  · exact hasValue_zero.between.mono le_rfl (Nat.cast_nonneg _)
  · rw [Consult.evalBy_bind, messageCloseness, hexpectation, hlevels]
    rw [hlevels] at hceiling
    cases hmessages : query.messages with
    | nil =>
      simp only [Consult.evalBy_bind, Consult.evalBy_pure]
      exact hheaders.add_natCast (hpredicate [] Json.fits_nil) hceiling
    | cons message rest =>
      cases rest with
      | nil =>
        simp only [Consult.evalBy_bind, Consult.evalBy_pure]
        refine hheaders.add_natCast (hpredicate message ?_) hceiling
        exact hquery.messages message (by rw [hmessages]; exact List.mem_cons_self)
      | cons second rest =>
        exact hheaders.mono le_rfl (by exact_mod_cast Nat.le_add_right _ _)

/-- How close any stub comes is far from the greatest number. -/
theorem closeness_between (oracle : Oracle) (h : stub.Fits) (hquery : query.Fits) :
    Between 0 (2 ^ 82) ((stub.closeness query).evalBy oracle) := by
  have hheaders := @headers_between oracle _ _ h hquery
  have hsingle : ∀ predicate, stub.expectation = .single predicate → ∀ message,
      (Json.obj message).Fits →
        Between 0 (2 ^ 60) ((predicate.closeness message).evalBy oracle) := by
    intro predicate hexpectation message hmessage
    refine (Predicate.closeness_between (h.single predicate ?_) hmessage).mono le_rfl
      (Predicate.highest_le _)
    rw [single?, hexpectation]
  rw [closeness, Consult.evalBy_bind, Consult.evalBy_ite]
  split
  · exact Between.zero_power
  · rw [Consult.evalBy_bind]
    unfold messageCloseness
    cases hexpectation : stub.expectation with
    | ordered predicates =>
      have hfits : ∀ predicate ∈ predicates, predicate.Fits := by
        intro predicate hmem
        refine h.sequence predicate ?_
        rwa [sequence, hexpectation]
      dsimp only
      split_ifs
      · exact hheaders.power_mono (by norm_num)
      · simp only [Consult.evalBy_bind, Consult.evalBy_pure]
        have hsum := hheaders.add_power
          (@Sequence.closeness_between oracle _ _ hfits hquery.messages) (k := 81) (by norm_num)
        have hbonus : Between 0 (2 ^ 10) orderedBonus :=
          ofNat_between_power (n := 1000) (by norm_num)
        exact hsum.add_power hbonus (by norm_num)
    | single predicate =>
      dsimp only
      split
      · simp only [Consult.evalBy_bind, Consult.evalBy_pure]
        exact hheaders.add_power (hsingle predicate hexpectation [] Json.fits_nil) (by norm_num)
      · next message hmessages =>
        simp only [Consult.evalBy_bind, Consult.evalBy_pure]
        have hmem : message ∈ query.messages := by
          rw [hmessages]
          exact List.mem_cons_self
        exact hheaders.add_power
          (hsingle predicate hexpectation message (hquery.messages message hmem)) (by norm_num)
      · exact hheaders.power_mono (by norm_num)

/-! ### Priorities -/

/-- What the priority adds to the score: ten times the priority, rounded as it is computed. -/
def priorityValue (stub : Stub) : ℚ :=
  rounded (rounded stub.priority.toInt * 10)

theorem abs_rounded_priority_le (stub : Stub) : |rounded stub.priority.toInt| ≤ 2 ^ 63 := by
  have hrep := representable_two_pow 63
  refine abs_le.mpr ⟨le_rounded hrep.neg ?_, rounded_le hrep ?_⟩
  · exact_mod_cast stub.priority.le_toInt
  · exact_mod_cast stub.priority.toInt_lt.le

theorem abs_priorityValue_le (stub : Stub) : |stub.priorityValue| ≤ 2 ^ 67 := by
  have hrep := representable_two_pow 67
  obtain ⟨hlow, hhigh⟩ := abs_le.mp stub.abs_rounded_priority_le
  exact abs_le.mpr ⟨le_rounded hrep.neg (by linarith), rounded_le hrep (by linarith)⟩

theorem hasValue_priorityScore (stub : Stub) :
    HasValue stub.priorityScore stub.priorityValue := by
  have hpriority : HasValue (ofInt stub.priority.toInt) (rounded stub.priority.toInt) := by
    have hlow := stub.priority.le_toInt
    have hhigh := stub.priority.toInt_lt
    exact hasValue_ofInt (by omega)
  have hten : HasValue priorityWeight 10 := by
    exact_mod_cast @hasValue_ofNat_of_le 10 (by norm_num)
  refine hpriority.mul hten (le_ample ?_)
  rw [abs_mul, abs_of_pos (by norm_num : (0 : ℚ) < 10)]
  refine (mul_le_mul_of_nonneg_right stub.abs_rounded_priority_le (by norm_num)).trans ?_
  norm_num

/-- The score of a stub lies between what its priority adds and that on top of how close it comes
at most. -/
theorem scoreBy_between {high : ℚ} (hclose : Between 0 high ((stub.closeness query).evalBy oracle))
    (hhigh : high ≤ 2 ^ 82) :
    Between stub.priorityValue (rounded (high + stub.priorityValue))
      (stub.scoreBy oracle query) := by
  obtain ⟨hlow, hle⟩ := abs_le.mp stub.abs_priorityValue_le
  have hrep : Representable stub.priorityValue := representable_rounded _
  have hbelow : -stub.priorityValue ≤ ample := le_ample (by linarith)
  have habove : high + stub.priorityValue ≤ ample := le_ample (by linarith)
  have hsum := hclose.add stub.hasValue_priorityScore.between (by linarith) habove
  rwa [zero_add, rounded_eq_self hrep] at hsum

end Stub

/-- **Scores are numbers** where sizes fit a word. -/
theorem numeric_of_fits {query : Query} {stubs : List Stub} (hquery : query.Fits)
    (h : ∀ stub ∈ stubs, stub.Fits) : Numeric oracle query stubs := fun stub hmem =>
  (Stub.scoreBy_between (Stub.closeness_between oracle (h stub hmem) hquery) le_rfl).isNaN_eq_false

end Closeness

end Understudy
