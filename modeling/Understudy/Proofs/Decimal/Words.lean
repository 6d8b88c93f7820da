import Understudy.Proofs.Decimal.Value

/-!
# Whole numbers and words

A whole number that is written in decimal is rounded to the nearest floating-point number, and a
floating-point number whose value is whole is taken to that value, or to the greatest word if the
value exceeds it. What is lost from the one to the other is what rounding loses: a whole number is
kept if it has 53 binary digits at most, zeros at the end not counted. Its divisors are kept then,
too.

## Main results

* `exists_rounded_natCast`: whole numbers are rounded to whole numbers
* `representable_of_mul`: divisors of numbers that are kept are kept
* `hasValue_nearest`: what is written in decimal is rounded
* `HasValue.toNat_toWord`: the word that a whole value is taken to
-/

namespace Understudy.Decimal

open Float.Model Float.Model.UnpackedFloat

/-! ## Whole numbers that are kept -/

/-- Whole numbers are rounded to whole numbers: those that are not kept have no digits after the
point to round. -/
theorem exists_rounded_natCast (n : ℕ) : ∃ k : ℕ, rounded n = k := by
  rcases Nat.lt_or_ge n (2 ^ 53) with hlt | hge
  · exact ⟨n, rounded_eq_self (representable_natCast hlt.le)⟩
  · have hlog : 53 ≤ Int.log 2 |(n : ℚ)| := by
      rw [abs_of_nonneg (Nat.cast_nonneg n),
        ← Int.zpow_le_iff_le_log (by norm_num) (by exact_mod_cast hge.trans_lt' (by norm_num))]
      exact_mod_cast hge
    have hquantum : quantum n = ((quantum n).toNat : ℤ) := by
      unfold quantum
      omega
    have hround : 0 ≤ roundEven (n / 2 ^ quantum n) := by
      exact_mod_cast le_roundEven (k := 0) (by rw [Int.cast_zero]; positivity)
    refine ⟨(roundEven (n / 2 ^ quantum n)).toNat * 2 ^ (quantum n).toNat, ?_⟩
    rw [rounded, Nat.cast_mul, Nat.cast_pow, ← zpow_natCast, ← hquantum, Nat.cast_ofNat]
    congr 1
    exact_mod_cast (Int.toNat_of_nonneg hround).symm

/-- A power of two on the one side or on the other makes whole numbers of both. -/
theorem exists_mul_pow_eq {n : ℕ} {a e : ℤ} (h : (n : ℚ) = a * 2 ^ e) :
    ∃ i j : ℕ, (n : ℤ) * 2 ^ i = a * 2 ^ j := by
  refine ⟨(-e).toNat, e.toNat, ?_⟩
  have hexponent : e + ((-e).toNat : ℤ) = e.toNat := by omega
  have hcast : (n : ℚ) * 2 ^ (-e).toNat = a * 2 ^ e.toNat := by
    rw [h, mul_assoc, ← zpow_natCast, ← zpow_natCast, ← two_zpow_add, hexponent]
  exact_mod_cast hcast

/-- An odd number that is kept has 53 binary digits at most. -/
theorem le_of_odd {k m : ℕ} (hodd : Odd k) (hm : 0 < m)
    (h : Representable ((k * m : ℕ) : ℚ)) : k ≤ 2 ^ 53 := by
  obtain ⟨a, e, ha, -, hvalue⟩ := h
  obtain ⟨i, j, heq⟩ := exists_mul_pow_eq hvalue
  -- the odd number has no part in the power of two, so it divides the mantissa
  have hcoprime : IsCoprime (k : ℤ) (2 ^ j) := by
    refine IsCoprime.pow_right ?_
    exact_mod_cast Nat.isCoprime_iff_coprime.mpr hodd.coprime_two_right
  have hdvd : (k : ℤ) ∣ a := by
    refine hcoprime.dvd_of_dvd_mul_right ?_
    rw [← heq, Nat.cast_mul, mul_assoc]
    exact Int.dvd_mul_right _ _
  have hne : a ≠ 0 := by
    rintro rfl
    have hpos : 0 < k * m := Nat.mul_pos hodd.pos hm
    have hleft : 0 < ((k * m : ℕ) : ℤ) * 2 ^ i := by positivity
    rw [heq, zero_mul] at hleft
    exact hleft.ne rfl
  have hle : (k : ℤ) ≤ |a| := Int.le_of_dvd (abs_pos.mpr hne) ((dvd_abs _ _).mpr hdvd)
  exact_mod_cast hle.trans ha

/-- **Divisors of numbers that are kept** are kept. -/
theorem representable_of_mul {k m : ℕ} (hm : 0 < m) (h : Representable ((k * m : ℕ) : ℚ)) :
    Representable k := by
  rcases Nat.eq_zero_or_pos k with rfl | hk
  · exact_mod_cast representable_zero
  · obtain ⟨e, odd, hodd, rfl⟩ := Nat.exists_eq_two_pow_mul_odd hk.ne'
    have hle : odd ≤ 2 ^ 53 := by
      refine le_of_odd hodd (m := 2 ^ e * m) (by positivity) ?_
      rwa [Nat.mul_left_comm, ← Nat.mul_assoc]
    refine ⟨odd, e, ?_, by unfold leastQuantum; omega, ?_⟩
    · rw [abs_of_nonneg (Int.natCast_nonneg odd)]
      exact_mod_cast hle
    · push_cast
      rw [zpow_natCast, mul_comm]

/-! ## Numbers that are written in decimal -/

/-- A number that is written in decimal is taken for a mantissa with as many digits as it has, and
rounded. -/
theorem ofScientific_spec {n : ℕ} (hn : 0 < n) :
    Canonical (UnpackedFloat.ofScientific Format.binary64 n 0) ∧
      valueOf? (UnpackedFloat.ofScientific Format.binary64 n 0) = some (rounded n) := by
  have hpos : (0 : ℚ) < (n <<< 53 : ℕ) := by
    rw [Nat.shiftLeft_eq]
    exact_mod_cast Nat.mul_pos hn (Nat.two_pow_pos 53)
  have hvalue : ((n <<< 53 : ℕ) : ℚ) * 2 ^ (-53 : ℤ) = n := by
    rw [Nat.shiftLeft_eq, Nat.cast_mul, Nat.cast_pow, Nat.cast_ofNat, mul_assoc, ← zpow_natCast,
      ← two_zpow_add]
    norm_num
  have htarget : (-53 : ℤ) ≤ Format.binary64.targetExponent (totalExponent (n <<< 53) (-53)) := by
    rw [targetExponent_eq, totalExponent, log2_shiftLeft hn]
    omega
  have hspec := roundWithAccuracy_spec .positive (.exact (n <<< 53)) hpos htarget
  rw [hvalue, factor, one_mul] at hspec
  have hpower : (0 : ℤ) ≤ 2 ^ Format.binary64.exponentBits := by positivity
  have hbits : Format.binary64.mantissaBits = 53 := rfl
  -- no power of ten is to be multiplied, and the shift keeps all digits until they are rounded
  rw [UnpackedFloat.ofScientific, dif_neg hn.ne', if_neg (by omega), if_neg (by omega),
    if_pos le_rfl]
  simp only [UnpackedFloat.mul, hbits, Int.toNat_zero, pow_zero, mul_one, add_zero,
    Nat.cast_ofNat]
  exact hspec

/-- **A whole number that is written in decimal** is rounded to the nearest number. -/
theorem hasValue_nearest {n : ℕ} (h : n < 2 ^ 64) : HasValue (nearest n 0) (rounded n) := by
  have hsmall : |(n : ℚ)| ≤ ample := by
    rw [abs_of_nonneg (Nat.cast_nonneg n)]
    have hle : (n : ℚ) ≤ 2 ^ 64 := by exact_mod_cast h.le
    exact le_ample (hle.trans (by norm_num))
  show HasValue (Float.ofScientific n false 0) _
  unfold Float.ofScientific
  by_cases hshort : n < 2 ^ 53
  · -- digits that fit are taken as they are, and multiplied by one
    have hsmall' : |(n : ℚ) * 1| ≤ ample := (congrArg (|·|) (mul_one (n : ℚ))).trans_le hsmall
    have hproduct := (hasValue_ofNat_of_le hshort.le).mul hasValue_one hsmall'
    rw [mul_one] at hproduct
    rw [dif_pos ⟨hshort, by norm_num⟩]
    exact hproduct
  · have hspec := ofScientific_spec (n := n) (by omega)
    rw [dif_neg fun hfast => hshort hfast.1]
    exact hasValue_pack hspec.1 hspec.2 (abs_rounded_le_ample hsmall)

/-! ## Words -/

/-- The exponent is lowered, if it is too great, and the value stays. -/
theorem decreaseExponent_spec (m : ℕ) (e target : ℤ) :
    (decreaseExponent m e target).2 ≤ target ∧
      ((decreaseExponent m e target).1 : ℚ) * 2 ^ (decreaseExponent m e target).2 =
        m * 2 ^ e := by
  refine ⟨by simp only [decreaseExponent]; omega, ?_⟩
  have hsplit : e = ((e - target).toNat : ℤ) + (e - (e - target).toNat) := by omega
  conv_rhs => rw [hsplit, two_zpow_add]
  rw [decreaseExponent, Nat.shiftLeft_eq, Nat.cast_mul, Nat.cast_pow, Nat.cast_ofNat, zpow_natCast,
    mul_assoc]

/-- **What is cut off** are the digits after the point. -/
theorem roundToInt_eq (sign : Sign) (m : ℕ) (e : ℤ) :
    roundToInt sign m e = sign.apply ⌊(m : ℚ) * 2 ^ e⌋ := by
  obtain ⟨hle, hvalue⟩ := decreaseExponent_spec m e 0
  unfold roundToInt
  generalize decreaseExponent m e 0 = lowered at hle hvalue ⊢
  obtain ⟨m', e'⟩ := lowered
  have hshift := (Represents.exact m').shiftRight (0 - e').toNat
  have hpower : (m' : ℚ) / 2 ^ (0 - e').toNat = m * 2 ^ e := by
    have hexp : (2 : ℚ) ^ (0 - e').toNat = 2 ^ (-e') := by
      rw [← zpow_natCast, Int.toNat_of_nonneg (by omega), zero_sub]
    rw [hexp, zpow_neg, div_inv_eq_mul]
    exact hvalue
  rw [hpower] at hshift
  rw [hshift.floor_eq]
  rfl

/-- **A word is taken** from a number that is not negative by cutting digits off. -/
theorem HasValue.toNat_toUInt64 {a : Float} {n : ℕ} (ha : HasValue a n) :
    a.toUInt64.toNat = min n (2 ^ 64 - 1) := by
  have hint : (a.toModel.unpack.toInt 0 (UInt64.size - 1)).toNat = n := by
    unfold HasValue at ha
    generalize a.toModel.unpack = number at ha
    cases number with
    | infinity | notANumber => cases ha
    | zero sign =>
      have hn : (0 : ℚ) = n := Option.some.inj ha
      exact_mod_cast hn
    | finite sign m e hm =>
      have hn : factor sign * (m * 2 ^ e) = n := Option.some.inj ha
      have hpos : (0 : ℚ) < m * 2 ^ e := mul_pos (by exact_mod_cast hm) (two_zpow_pos e)
      cases sign with
      | negative =>
        have hnonneg : (0 : ℚ) ≤ n := Nat.cast_nonneg n
        rw [factor] at hn
        linarith
      | positive =>
        rw [factor, one_mul] at hn
        rw [UnpackedFloat.toInt, roundToInt_eq, hn, Int.floor_natCast]
        rfl
  show (UInt64.ofNatClamp (a.toModel.unpack.toInt 0 (UInt64.size - 1)).toNat).toNat = _
  rw [hint, UInt64.ofNatClamp]
  split_ifs with hlt
  · have hlt' : n < 2 ^ 64 := hlt
    rw [UInt64.toNat_ofNatLT]
    omega
  · have hge : ¬ n < 2 ^ 64 := hlt
    rw [UInt64.toNat_ofNatLT]
    show 2 ^ 64 - 1 = _
    omega

/-- **The word that a whole value is taken to** is the value, or the greatest word. -/
theorem HasValue.toNat_toWord {a : Float} {n : ℕ} (ha : HasValue a n) :
    (toWord a).toNat = min n (2 ^ 64 - 1) := by
  have hwhole := ha.toNat_toUInt64
  rw [toWord, if_neg, hwhole]
  rintro ⟨hhalf, hlt⟩
  have hlt' : a.toUInt64.toNat + 1 < 2 ^ 64 := hlt
  rw [hwhole] at hlt'
  -- no digits have been cut off
  have hback : HasValue a.toUInt64.toFloat n := by
    have hvalue := hasValue_ofNat_of_lt (n := n) (by omega)
    rw [rounded_eq_self ha.representable] at hvalue
    have hword : n.toUInt64 = a.toUInt64 := by
      refine UInt64.toNat_inj.mp ?_
      rw [hwhole, Nat.toUInt64_eq, UInt64.toNat_ofNat']
      omega
    rw [← hword]
    exact hvalue
  have hrest := ha.sub hback (by rw [sub_self, abs_zero]; exact (two_zpow_pos _).le)
  rw [sub_self, rounded_zero] at hrest
  have hdigit : HasValue 0.5 (1 / 2) := by
    have heq : (0.5 : Float) = ofNat 1 / ofNat 2 := by decide +kernel
    have hquotient := (@hasValue_ofNat_of_le 1 (by norm_num)).div
      (@hasValue_ofNat_of_le 2 (by norm_num)) (by norm_num) (le_ample (by norm_num))
    have hrep : Representable (1 / 2) := by
      convert representable_two_zpow (e := -1) (by decide) using 1
      norm_num
    rw [Nat.cast_one, Nat.cast_ofNat, rounded_eq_self hrep] at hquotient
    rw [heq]
    exact hquotient
  have hle := (hdigit.le_iff hrest).mp hhalf
  norm_num at hle

end Understudy.Decimal
