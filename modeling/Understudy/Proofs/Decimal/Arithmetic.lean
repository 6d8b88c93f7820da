import Mathlib
import Understudy.Proofs.Decimal.Rounding

/-!
# Floating-point arithmetic is rounded arithmetic

The operations on floating-point numbers work on mantissas and exponents: they compute a mantissa
with two more bits, which tell how the digits that are cut off compare with a half, shift it and
round it. Each of them yields the exact result, rounded.

## Main definitions

* `Represents`: a mantissa with two more bits stands for a number
* `Canonical`, `valueOf?`: numbers as they are kept, and their values

## Main results

* `roundWithAccuracy_spec`, `round_spec`: mantissas are rounded to the nearest number
* `add_spec`, `sub_spec`, `mul_spec`, `div_spec`: operations round exact results
* `unpack_pack`: what is kept and not too large survives packing
-/

namespace Understudy.Decimal

open Float.Model Float.Model.UnpackedFloat

/-! ## Mantissas -/

/-- A mantissa with two more bits stands for a number: the bits tell how the rest compares with a
half. -/
def Represents (em : ExtendedMantissa) (x : ℚ) : Prop :=
  match em.roundBit, em.stickyBit with
  | false, false => x = em.mantissa
  | false, true => em.mantissa < x ∧ x < em.mantissa + 1 / 2
  | true, false => x = em.mantissa + 1 / 2
  | true, true => em.mantissa + 1 / 2 < x ∧ x < em.mantissa + 1

namespace Represents

variable {em : ExtendedMantissa} {x : ℚ}

theorem floor_eq (h : Represents em x) : ⌊x⌋ = em.mantissa := by
  obtain ⟨m, roundBit, stickyBit⟩ := em
  refine Int.floor_eq_iff.mpr ?_
  cases roundBit <;> cases stickyBit <;> simp only [Represents] at h <;> push_cast
  · exact ⟨h.ge, by linarith⟩
  · exact ⟨h.1.le, by linarith⟩
  · exact ⟨by linarith, by linarith⟩
  · exact ⟨by linarith, h.2⟩

/-- **The rounded mantissa** is the nearest whole number. -/
theorem roundedMantissa_eq (h : Represents em x) : (em.roundedMantissa : ℤ) = roundEven x := by
  have hfloor := h.floor_eq
  obtain ⟨m, roundBit, stickyBit⟩ := em
  have hcast : ((m : ℤ) : ℚ) = m := Int.cast_natCast m
  rw [roundEven, hfloor, hcast]
  cases roundBit <;> cases stickyBit <;> simp only [Represents] at h
  · rw [if_pos (by linarith)]
    rfl
  · rw [if_pos (by linarith)]
    rfl
  · rw [if_neg (by linarith), if_neg (by linarith)]
    simp [ExtendedMantissa.roundedMantissa, ExtendedMantissa.accuracy,
      Accuracy.roundToNearestEven]
  · rw [if_neg (by linarith), if_pos (by linarith)]
    simp [ExtendedMantissa.roundedMantissa, ExtendedMantissa.accuracy,
      Accuracy.roundToNearestEven]

/-- The bits keep telling how the rest compares with a half when one more digit is cut off. -/
theorem shiftRightOne (h : Represents em x) : Represents em.shiftRightOne (x / 2) := by
  obtain ⟨m, roundBit, stickyBit⟩ := em
  have hsplit : (m : ℚ) = 2 * (m / 2 : ℕ) + (m % 2 : ℕ) := by
    exact_mod_cast (Nat.div_add_mod m 2).symm
  rcases Nat.mod_two_eq_zero_or_one m with hmod | hmod
  · have hbit : (m % 2 != 0) = false := by rw [hmod]; rfl
    rw [hmod, Nat.cast_zero, add_zero] at hsplit
    cases roundBit <;> cases stickyBit <;>
      simp only [Represents, ExtendedMantissa.shiftRightOne, hbit, Bool.or_false, Bool.or_true]
        at h ⊢
    · linarith
    · exact ⟨by linarith, by linarith⟩
    · exact ⟨by linarith, by linarith⟩
    · exact ⟨by linarith, by linarith⟩
  · have hbit : (m % 2 != 0) = true := by rw [hmod]; rfl
    rw [hmod, Nat.cast_one] at hsplit
    cases roundBit <;> cases stickyBit <;>
      simp only [Represents, ExtendedMantissa.shiftRightOne, hbit, Bool.or_false, Bool.or_true]
        at h ⊢
    · linarith
    · exact ⟨by linarith, by linarith⟩
    · exact ⟨by linarith, by linarith⟩
    · exact ⟨by linarith, by linarith⟩

theorem shiftRight (h : Represents em x) (n : ℕ) : Represents (em >>> n) (x / 2 ^ n) := by
  change Represents (n.repeat ExtendedMantissa.shiftRightOne em) _
  induction n with
  | zero => simpa [Nat.repeat] using h
  | succ n ih =>
    rw [Nat.repeat, pow_succ, ← div_div]
    exact ih.shiftRightOne

theorem exact (m : ℕ) : Represents (.ofMantissaAndAccuracy m .exact) m :=
  rfl

/-- The mantissa that an extended one is made from is the whole part. -/
theorem floor_eq_of_accuracy {m : ℕ} {accuracy : Accuracy}
    (h : Represents (.ofMantissaAndAccuracy m accuracy) x) : ⌊x⌋ = (m : ℤ) := by
  have hmantissa : (ExtendedMantissa.ofMantissaAndAccuracy m accuracy).mantissa = m := by
    cases accuracy with
    | exact => rfl
    | inexact order => cases order <;> rfl
  rw [h.floor_eq, hmantissa]

/-- A quotient and how its remainder compares with half the divisor. -/
theorem fraction (m num : ℕ) {den : ℕ} (hlt : num < den) :
    Represents (.ofMantissaAndAccuracy m (accuracyOfFraction num den)) (m + num / den) := by
  have hden : (0 : ℚ) < den := by exact_mod_cast (Nat.zero_le num).trans_lt hlt
  rcases Nat.eq_zero_or_pos num with rfl | hnum
  · rw [accuracyOfFraction, if_pos rfl, Nat.cast_zero, zero_div, add_zero]
    exact exact m
  · have hnumQ : (0 : ℚ) < num := by exact_mod_cast hnum
    have hltQ : (num : ℚ) < den := by exact_mod_cast hlt
    have hpos : (0 : ℚ) < num / den := div_pos hnumQ hden
    rw [accuracyOfFraction, if_neg hnum.ne']
    rcases lt_trichotomy (2 * num) den with hcmp | hcmp | hcmp
    · rw [Nat.compare_eq_lt.mpr hcmp]
      have hcmpQ : (2 : ℚ) * num < den := by exact_mod_cast hcmp
      have hhalf : (num : ℚ) / den < 1 / 2 := by
        rw [div_lt_iff₀ hden]
        linarith
      change (m : ℚ) < m + num / den ∧ (m : ℚ) + num / den < m + 1 / 2
      exact ⟨by linarith, by linarith⟩
    · rw [Nat.compare_eq_eq.mpr hcmp]
      have hcmpQ : (2 : ℚ) * num = den := by exact_mod_cast hcmp
      have hhalf : (num : ℚ) / den = 1 / 2 := by
        rw [div_eq_iff hden.ne']
        linarith
      change (m : ℚ) + num / den = m + 1 / 2
      rw [hhalf]
    · rw [Nat.compare_eq_gt.mpr hcmp]
      have hcmpQ : (den : ℚ) < 2 * num := by exact_mod_cast hcmp
      have hhalf : 1 / 2 < (num : ℚ) / den := by
        rw [lt_div_iff₀ hden]
        linarith
      have hone : (num : ℚ) / den < 1 := (div_lt_one hden).mpr hltQ
      change (m : ℚ) + 1 / 2 < m + num / den ∧ (m : ℚ) + num / den < m + 1
      exact ⟨by linarith, by linarith⟩

end Represents

/-! ## Values -/

/-- A sign as a factor. -/
def factor : Sign → ℚ
  | .negative => -1
  | .positive => 1

/-- The value of a number that is taken apart, if it is finite. -/
def valueOf? : UnpackedFloat → Option ℚ
  | .zero _ => some 0
  | .finite sign mantissa exponent _ => some (factor sign * (mantissa * 2 ^ exponent))
  | _ => none

/-- A finite number as it is kept: its mantissa has 53 binary digits, or fewer if the exponent is the
least. -/
def Canonical : UnpackedFloat → Prop
  | .zero _ => True
  | .finite _ mantissa exponent _ => mantissa < 2 ^ 53 ∧ leastQuantum ≤ exponent ∧
    (2 ^ 52 ≤ mantissa ∨ exponent = leastQuantum)
  | _ => False

/-! ## Rounding -/

section Rounding

variable {m : ℕ} {e : ℤ} {x y : ℚ} {accuracy : Accuracy}

theorem targetExponent_eq (total : ℤ) :
    Format.binary64.targetExponent total = max (total - 53) leastQuantum := by
  simp [Format.targetExponent, Format.mantissaBits, Format.minExponent, leastQuantum]

theorem log_mul_two_zpow (hy : 0 < y) (e : ℤ) : Int.log 2 (y * 2 ^ e) = Int.log 2 y + e := by
  have hpos : 0 < y * 2 ^ e := mul_pos hy (two_zpow_pos e)
  refine le_antisymm ?_ ?_
  · rw [← Int.lt_add_one_iff, ← Int.lt_zpow_iff_log_lt (by norm_num) hpos]
    have hlt := Int.lt_zpow_succ_log_self (b := 2) (by decide) y
    push_cast at hlt ⊢
    rw [add_right_comm, two_zpow_add]
    exact mul_lt_mul_of_pos_right hlt (two_zpow_pos e)
  · rw [← Int.zpow_le_iff_le_log (by norm_num) hpos]
    have hle := Int.zpow_log_le_self (b := 2) (by decide) hy
    push_cast at hle ⊢
    rw [two_zpow_add]
    exact mul_le_mul_of_nonneg_right hle (two_zpow_pos e).le

/-- **The exponent that is aimed at** is that of the quantum, if the given one is not greater. -/
theorem targetExponent_eq_quantum (hfloor : ⌊y⌋ = (m : ℤ)) (hy : 0 < y)
    (he : e ≤ Format.binary64.targetExponent (totalExponent m e)) :
    Format.binary64.targetExponent (totalExponent m e) = quantum (y * 2 ^ e) := by
  rw [targetExponent_eq, totalExponent] at he ⊢
  rw [quantum, abs_of_pos (mul_pos hy (two_zpow_pos e)), log_mul_two_zpow hy]
  rcases Nat.eq_zero_or_pos m with rfl | hm
  · -- all digits lie below the given exponent, which is the least one then
    have hlt : y < 1 := by
      have hfloor_lt := Int.lt_floor_add_one y
      rw [hfloor] at hfloor_lt
      simpa using hfloor_lt
    have hlog : Int.log 2 y < 0 := by
      rw [← Int.lt_zpow_iff_log_lt (by norm_num) hy]
      simpa using hlt
    simp only [Nat.log2_zero, leastQuantum] at he ⊢
    omega
  · have hone : 1 ≤ y := by
      refine le_trans ?_ (Int.floor_le y)
      rw [hfloor]
      exact_mod_cast hm
    have hfloor' : ⌊y⌋₊ = m := by
      rw [← Int.floor_toNat, hfloor, Int.toNat_natCast]
    rw [Int.log_of_one_le_right 2 hone, hfloor', Nat.log2_eq_log_two]
    congr 1
    ring

/-- The first shift goes to the quantum, and the bits tell what has been cut off. -/
theorem shiftToTargetExponent_spec (h : Represents (.ofMantissaAndAccuracy m accuracy) y)
    (hy : 0 < y)
    (he : e ≤ Format.binary64.targetExponent (totalExponent m e)) :
    (shiftToTargetExponent Format.binary64 m e accuracy).2 = quantum (y * 2 ^ e) ∧
      Represents (shiftToTargetExponent Format.binary64 m e accuracy).1
        (y * 2 ^ e / 2 ^ quantum (y * 2 ^ e)) := by
  have htarget := targetExponent_eq_quantum h.floor_eq_of_accuracy hy he
  rw [htarget] at he
  rw [shiftToTargetExponent, htarget]
  refine ⟨by simp only [shiftToExponent]; omega, ?_⟩
  have hshift := h.shiftRight (quantum (y * 2 ^ e) - e).toNat
  have hsplit : quantum (y * 2 ^ e) = ((quantum (y * 2 ^ e) - e).toNat : ℤ) + e := by omega
  have hquot : y * 2 ^ e / 2 ^ quantum (y * 2 ^ e) = y / 2 ^ (quantum (y * 2 ^ e) - e).toNat := by
    conv_lhs => rw [hsplit, two_zpow_add, zpow_natCast]
    exact mul_div_mul_right _ _ (two_zpow_pos e).ne'
  rw [hquot]
  exact hshift

/-- A mantissa with 53 binary digits is not shifted. -/
theorem shiftToTargetExponent_of_lt (hm : m < 2 ^ 53) (he : leastQuantum ≤ e) :
    shiftToTargetExponent Format.binary64 m e .exact = (⟨m, false, false⟩, e) := by
  have hlog : m.log2 < 53 := by
    rcases Nat.eq_zero_or_pos m with rfl | hpos
    · decide
    · exact (Nat.log2_lt hpos.ne').mpr hm
  have hshift : (Format.binary64.targetExponent (totalExponent m e) - e).toNat = 0 := by
    rw [targetExponent_eq, totalExponent]
    omega
  rw [shiftToTargetExponent, shiftToExponent, hshift]
  simp [HShiftRight.hShiftRight, Nat.repeat, ExtendedMantissa.ofMantissaAndAccuracy]

/-- A mantissa that rounding has made one digit longer loses a zero. -/
theorem shiftToTargetExponent_of_eq (he : leastQuantum ≤ e) :
    shiftToTargetExponent Format.binary64 (2 ^ 53) e .exact = (⟨2 ^ 52, false, false⟩, e + 1) := by
  have hshift : (Format.binary64.targetExponent (totalExponent (2 ^ 53) e) - e).toNat = 1 := by
    rw [targetExponent_eq, totalExponent, Nat.log2_two_pow]
    omega
  rw [shiftToTargetExponent, shiftToExponent, hshift]
  simp [HShiftRight.hShiftRight, Nat.repeat, ExtendedMantissa.ofMantissaAndAccuracy,
    ExtendedMantissa.shiftRightOne]

/-- A number whose quantum is not the least one fills the mantissa. -/
theorem le_roundEven_of_quantum (hx : 0 < x) (h : quantum x ≠ leastQuantum) :
    2 ^ 52 ≤ roundEven (x / 2 ^ quantum x) := by
  have hlow := le_abs_of_quantum hx.ne' (lt_of_le_of_ne (leastQuantum_le_quantum x) h.symm)
  rw [abs_of_pos hx, add_comm, two_zpow_add] at hlow
  refine le_roundEven ((le_div_iff₀ (two_zpow_pos _)).mpr ?_)
  push_cast
  exact_mod_cast hlow

/-- **Rounding a mantissa** yields the nearest number. -/
theorem roundWithAccuracy_spec (sign : Sign)
    (h : Represents (.ofMantissaAndAccuracy m accuracy) y) (hy : 0 < y)
    (he : e ≤ Format.binary64.targetExponent (totalExponent m e)) :
    Canonical (roundWithAccuracy Format.binary64 sign m e accuracy) ∧
      valueOf? (roundWithAccuracy Format.binary64 sign m e accuracy) =
        some (factor sign * rounded (y * 2 ^ e)) := by
  obtain ⟨hexponent, hrep⟩ := shiftToTargetExponent_spec h hy he
  have hpos : 0 < y * 2 ^ e := mul_pos hy (two_zpow_pos e)
  have hround := hrep.roundedMantissa_eq
  have hbound := abs_roundEven_le (y * 2 ^ e)
  have hfull := @le_roundEven_of_quantum (y * 2 ^ e) hpos
  have hleast := leastQuantum_le_quantum (y * 2 ^ e)
  rw [roundWithAccuracy, rounded]
  generalize hfirst : shiftToTargetExponent Format.binary64 m e accuracy = first at *
  obtain ⟨em, first⟩ := first
  dsimp only at hexponent hrep hround ⊢
  subst hexponent
  generalize hq : quantum (y * 2 ^ e) = q at *
  rw [← hround] at hbound hfull ⊢
  generalize em.roundedMantissa = r at *
  rw [Int.cast_natCast]
  have hr : r ≤ 2 ^ 53 := by
    rw [abs_of_nonneg (Int.natCast_nonneg r)] at hbound
    exact_mod_cast hbound
  rcases hr.lt_or_eq with hlt | rfl
  · rw [shiftToTargetExponent_of_lt hlt hleast]
    dsimp only
    split_ifs with hzero
    · subst hzero
      exact ⟨trivial, by simp [valueOf?]⟩
    · refine ⟨⟨hlt, hleast, ?_⟩, rfl⟩
      rcases eq_or_ne q leastQuantum with heq | hne
      · exact .inr heq
      · exact .inl (by exact_mod_cast hfull hne)
  · rw [shiftToTargetExponent_of_eq hleast]
    dsimp only
    rw [dif_neg (by norm_num)]
    refine ⟨⟨by norm_num, by omega, .inl le_rfl⟩, ?_⟩
    rw [valueOf?, two_zpow_add]
    push_cast
    congr 1
    ring

theorem log2_shiftLeft (hm : 0 < m) (shift : ℕ) : (m <<< shift).log2 = m.log2 + shift := by
  rw [Nat.shiftLeft_eq]
  refine (Nat.log2_eq_iff (by positivity)).mpr ⟨?_, ?_⟩
  · rw [pow_add]
    exact Nat.mul_le_mul_right _ (Nat.log2_self_le hm.ne')
  · rw [add_right_comm, pow_add]
    exact Nat.mul_lt_mul_of_pos_right Nat.lt_log2_self (by positivity)

/-- A mantissa is extended to the digits that it is to have. -/
theorem round_spec (sign : Sign) (hm : 0 < m) :
    Canonical (round Format.binary64 sign m e) ∧
      valueOf? (round Format.binary64 sign m e) = some (factor sign * rounded (m * 2 ^ e)) := by
  rw [UnpackedFloat.round]
  generalize htarget : Format.binary64.targetExponent (totalExponent m e) = target
  simp only [decreaseExponent]
  set shift := (e - target).toNat
  have hpos : 0 < m <<< shift := by
    rw [Nat.shiftLeft_eq]
    positivity
  have htotal : totalExponent (m <<< shift) (e - shift) = totalExponent m e := by
    rw [totalExponent, totalExponent, log2_shiftLeft hm]
    push_cast
    ring
  have hvalue : ((m <<< shift : ℕ) : ℚ) * 2 ^ (e - (shift : ℤ)) = m * 2 ^ e := by
    rw [Nat.shiftLeft_eq, Nat.cast_mul, Nat.cast_pow, Nat.cast_ofNat, mul_assoc, ← zpow_natCast,
      ← two_zpow_add]
    congr 2
    ring
  have hspec := roundWithAccuracy_spec (e := e - shift) sign (.exact (m <<< shift))
    (by exact_mod_cast hpos) (by rw [htotal, htarget]; omega)
  rwa [hvalue] at hspec

theorem normalize_spec {m : ℤ} (zeroSign : Sign) :
    Canonical (UnpackedFloat.normalize Format.binary64 m e zeroSign) ∧
      valueOf? (UnpackedFloat.normalize Format.binary64 m e zeroSign) =
        some (rounded (m * 2 ^ e)) := by
  unfold UnpackedFloat.normalize
  rcases lt_trichotomy m 0 with hneg | rfl | hpos
  · rw [Int.compare_eq_lt.mpr hneg]
    have hspec := round_spec (m := (-m).toNat) (e := e) .negative (by omega)
    have hcast : (((-m).toNat : ℕ) : ℚ) = -m := by
      exact_mod_cast congrArg (Int.cast : ℤ → ℚ) (Int.toNat_of_nonneg (by omega : 0 ≤ -m))
    rw [hcast, neg_mul, rounded_neg, factor, neg_mul_neg, one_mul] at hspec
    exact hspec
  · rw [Int.compare_eq_eq.mpr rfl]
    exact ⟨trivial, by simp [valueOf?]⟩
  · rw [Int.compare_eq_gt.mpr hpos]
    have hspec := round_spec (m := m.toNat) (e := e) .positive (by omega)
    have hcast : ((m.toNat : ℕ) : ℚ) = m := by
      exact_mod_cast congrArg (Int.cast : ℤ → ℚ) (Int.toNat_of_nonneg hpos.le)
    rw [hcast, factor, one_mul] at hspec
    exact hspec

end Rounding

/-! ## Operations -/

section Operations

variable {a b : UnpackedFloat} {x y : ℚ}

theorem factor_mul (s t : Sign) : factor (s * t) = factor s * factor t := by
  cases s <;> cases t
  · exact (by norm_num : (1 : ℚ) = -1 * -1)
  · exact (by norm_num : (-1 : ℚ) = -1 * 1)
  · exact (by norm_num : (-1 : ℚ) = 1 * -1)
  · exact (by norm_num : (1 : ℚ) = 1 * 1)

theorem factor_div (s t : Sign) : factor (s / t) = factor s / factor t := by
  cases s <;> cases t
  · exact (by norm_num : (1 : ℚ) = -1 / -1)
  · exact (by norm_num : (-1 : ℚ) = -1 / 1)
  · exact (by norm_num : (-1 : ℚ) = 1 / -1)
  · exact (by norm_num : (1 : ℚ) = 1 / 1)

theorem factor_mul_rounded (s : Sign) (x : ℚ) : factor s * rounded x = rounded (factor s * x) := by
  cases s with
  | negative => simp [factor]
  | positive => simp [factor]

theorem apply_eq (s : Sign) (m : ℕ) : ((s.apply m : ℤ) : ℚ) = factor s * m := by
  cases s with
  | negative => simp [Sign.apply, factor]
  | positive => simp [Sign.apply, factor]

theorem representable_of_canonical (ha : Canonical a) (hx : valueOf? a = some x) :
    Representable x := by
  cases a with
  | zero =>
    obtain rfl := Option.some.inj hx
    exact representable_zero
  | finite sign m e =>
    obtain rfl := Option.some.inj hx
    refine ⟨sign.apply m, e, ?_, ha.2.1, ?_⟩
    · have hm : (m : ℤ) ≤ 2 ^ 53 := by exact_mod_cast ha.1.le
      cases sign with
      | negative => simpa [Sign.apply] using hm
      | positive => simpa [Sign.apply] using hm
    · rw [apply_eq, mul_assoc]
  | infinity | notANumber => cases hx

/-- The exponent is lowered to one that is not greater. -/
theorem decreaseExponent_value {m : ℕ} {e target : ℤ} (h : target ≤ e) :
    ((decreaseExponent m e target).1 : ℚ) * 2 ^ target = m * 2 ^ e := by
  have hsplit : e = ((e - target).toNat : ℤ) + target := by omega
  conv_rhs => rw [hsplit, two_zpow_add]
  rw [decreaseExponent, Nat.shiftLeft_eq, Nat.cast_mul, Nat.cast_pow, Nat.cast_ofNat, zpow_natCast,
    mul_assoc]

/-- **Addition** rounds the exact sum. -/
theorem add_spec (ha : Canonical a) (hb : Canonical b) (hx : valueOf? a = some x)
    (hy : valueOf? b = some y) :
    Canonical (a.add Format.binary64 b) ∧
      valueOf? (a.add Format.binary64 b) = some (rounded (x + y)) := by
  cases a with
  | infinity | notANumber => cases hx
  | zero sign =>
    obtain rfl := Option.some.inj hx
    cases b with
    | infinity | notANumber => cases hy
    | zero sign' =>
      obtain rfl := Option.some.inj hy
      rw [UnpackedFloat.add]
      split_ifs <;> exact ⟨trivial, by simp [valueOf?]⟩
    | finite sign' m' e' =>
      refine ⟨hb, hy.trans ?_⟩
      rw [zero_add, rounded_eq_self (representable_of_canonical hb hy)]
  | finite sign m e =>
    cases b with
    | infinity | notANumber => cases hy
    | zero sign' =>
      obtain rfl := Option.some.inj hy
      refine ⟨ha, hx.trans ?_⟩
      rw [add_zero, rounded_eq_self (representable_of_canonical ha hx)]
    | finite sign' m' e' =>
      obtain rfl := Option.some.inj hx
      obtain rfl := Option.some.inj hy
      have hspec := @normalize_spec (min e e')
        (sign.apply (decreaseExponent m e (min e e')).1 +
          sign'.apply (decreaseExponent m' e' (min e e')).1) .positive
      rw [Int.cast_add, apply_eq, apply_eq, add_mul, mul_assoc, mul_assoc,
        decreaseExponent_value (min_le_left e e'), decreaseExponent_value (min_le_right e e')]
        at hspec
      exact hspec

/-- The opposite of a number is kept as it is. -/
theorem neg_spec (ha : Canonical a) (hx : valueOf? a = some x) :
    Canonical a.neg ∧ valueOf? a.neg = some (-x) := by
  cases a with
  | infinity | notANumber => cases hx
  | zero sign =>
    obtain rfl := Option.some.inj hx
    exact ⟨trivial, by simp [UnpackedFloat.neg, valueOf?]⟩
  | finite sign m e hm =>
    obtain rfl := Option.some.inj hx
    refine ⟨ha, congrArg some ?_⟩
    cases sign with
    | negative => exact (by ring : (1 : ℚ) * (m * 2 ^ e) = -(-1 * (m * 2 ^ e)))
    | positive => exact (by ring : (-1 : ℚ) * (m * 2 ^ e) = -(1 * (m * 2 ^ e)))

/-- A difference is a sum with the opposite number. -/
theorem sub_eq_add_opposite (spec : Format) (a b : UnpackedFloat) :
    a.sub spec b = a.add spec b.neg := by
  cases a with
  | notANumber | infinity | zero => cases b <;> rfl
  | finite sign m e =>
    cases b with
    | notANumber | infinity | zero => rfl
    | finite sign' m' e' =>
      cases sign' with
      | positive => rfl
      | negative =>
        simp only [UnpackedFloat.sub, UnpackedFloat.add, UnpackedFloat.neg, Sign.apply,
          sub_neg_eq_add]

/-- **Subtraction** rounds the exact difference. -/
theorem sub_spec (ha : Canonical a) (hb : Canonical b) (hx : valueOf? a = some x)
    (hy : valueOf? b = some y) :
    Canonical (a.sub Format.binary64 b) ∧
      valueOf? (a.sub Format.binary64 b) = some (rounded (x - y)) := by
  obtain ⟨hcanonical, hvalue⟩ := neg_spec hb hy
  rw [sub_eq_add_opposite, sub_eq_add_neg]
  exact add_spec ha hcanonical hx hvalue

/-- **Multiplication** rounds the exact product. -/
theorem mul_spec (ha : Canonical a) (hb : Canonical b) (hx : valueOf? a = some x)
    (hy : valueOf? b = some y) :
    Canonical (a.mul Format.binary64 b) ∧
      valueOf? (a.mul Format.binary64 b) = some (rounded (x * y)) := by
  cases a with
  | infinity | notANumber => cases hx
  | zero sign =>
    obtain rfl := Option.some.inj hx
    cases b with
    | infinity | notANumber => cases hy
    | zero | finite => exact ⟨trivial, by simp [UnpackedFloat.mul, valueOf?]⟩
  | finite sign m e hm =>
    cases b with
    | infinity | notANumber => cases hy
    | zero sign' =>
      obtain rfl := Option.some.inj hy
      exact ⟨trivial, by simp [UnpackedFloat.mul, valueOf?]⟩
    | finite sign' m' e' hm' =>
      obtain rfl := Option.some.inj hx
      obtain rfl := Option.some.inj hy
      have hpos : 0 < m * m' := Nat.mul_pos hm hm'
      -- the product of mantissas is long enough, or the exponents are the least ones
      have hexponent :
          e + e' ≤ Format.binary64.targetExponent (totalExponent (m * m') (e + e')) := by
        rw [targetExponent_eq, totalExponent]
        by_cases hlong : 2 ^ 52 ≤ m * m'
        · have hlog := (Nat.le_log2 hpos.ne').mpr hlong
          omega
        · have hshort : m < 2 ^ 52 :=
            (Nat.le_mul_of_pos_right m hm').trans_lt (not_le.mp hlong)
          have hshort' : m' < 2 ^ 52 :=
            (Nat.le_mul_of_pos_left m' hm).trans_lt (not_le.mp hlong)
          have hleast := ha.2.2.resolve_left hshort.not_ge
          have hleast' := hb.2.2.resolve_left hshort'.not_ge
          unfold leastQuantum at *
          omega
      have hspec := roundWithAccuracy_spec (sign * sign') (.exact (m * m'))
        (by exact_mod_cast hpos) hexponent
      rw [factor_mul_rounded, factor_mul] at hspec
      refine ⟨hspec.1, hspec.2.trans ?_⟩
      rw [two_zpow_add]
      push_cast
      congr 2
      ring

/-- The quotient of mantissas has enough digits. -/
theorem le_targetExponent_divCore {m m' : ℕ} {e e' : ℤ} (hm : 0 < m) (hm' : 0 < m') :
    (divCore Format.binary64 m e m' e').2.1 ≤ Format.binary64.targetExponent
      (totalExponent (divCore Format.binary64 m e m' e').1
        (divCore Format.binary64 m e m' e').2.1) := by
  simp only [divCore]
  generalize htarget : min (e - e')
    (Format.binary64.targetExponent (totalExponent m e - totalExponent m' e')) = target
  rw [targetExponent_eq, totalExponent, totalExponent] at htarget
  rw [targetExponent_eq, totalExponent]
  rcases le_or_gt target leastQuantum with hle | hgt
  · exact hle.trans (le_max_right _ _)
  · set shift := (e - e' - target).toNat with hshift
    have hlong : 2 ^ 52 ≤ (m <<< shift) / m' := by
      rw [Nat.le_div_iff_mul_le hm', Nat.shiftLeft_eq]
      calc 2 ^ 52 * m' ≤ 2 ^ 52 * 2 ^ (m'.log2 + 1) :=
            Nat.mul_le_mul_left _ Nat.lt_log2_self.le
        _ = 2 ^ (52 + (m'.log2 + 1)) := (pow_add ..).symm
        _ ≤ 2 ^ (m.log2 + shift) := Nat.pow_le_pow_right (by norm_num) (by omega)
        _ = 2 ^ m.log2 * 2 ^ shift := pow_add ..
        _ ≤ m * 2 ^ shift := Nat.mul_le_mul_right _ (Nat.log2_self_le hm.ne')
    have hlog := (Nat.le_log2 ((Nat.two_pow_pos 52).trans_le hlong).ne').mpr hlong
    omega

/-- **Division** rounds the exact quotient. -/
theorem div_spec (ha : Canonical a) (hb : Canonical b) (hx : valueOf? a = some x)
    (hy : valueOf? b = some y) (hne : y ≠ 0) :
    Canonical (a.div Format.binary64 b) ∧
      valueOf? (a.div Format.binary64 b) = some (rounded (x / y)) := by
  cases b with
  | infinity | notANumber => cases hy
  | zero => exact absurd (Option.some.inj hy).symm hne
  | finite sign' m' e' hm' =>
    obtain rfl := Option.some.inj hy
    cases a with
    | infinity | notANumber => cases hx
    | zero sign =>
      obtain rfl := Option.some.inj hx
      exact ⟨trivial, by simp [UnpackedFloat.div, valueOf?]⟩
    | finite sign m e hm =>
      obtain rfl := Option.some.inj hx
      have hexponent := @le_targetExponent_divCore m m' e e' hm hm'
      simp only [divCore] at hexponent
      simp only [UnpackedFloat.div, divCore]
      generalize htarget : min (e - e')
        (Format.binary64.targetExponent (totalExponent m e - totalExponent m' e')) = target at *
      have htarget_le : target ≤ e - e' := htarget ▸ min_le_left _ _
      set shift := (e - e' - target).toNat with hshift
      have hm'Q : (0 : ℚ) < m' := by exact_mod_cast hm'
      have hsplit : (((m <<< shift) / m' : ℕ) : ℚ) + ((m <<< shift) % m' : ℕ) / m' =
          (m <<< shift : ℕ) / m' := by
        rw [eq_div_iff hm'Q.ne', add_mul, div_mul_cancel₀ _ hm'Q.ne']
        exact_mod_cast Nat.div_add_mod' (m <<< shift) m'
      have hrep := Represents.fraction ((m <<< shift) / m') _ (Nat.mod_lt (m <<< shift) hm')
      rw [hsplit] at hrep
      have hpos : (0 : ℚ) < (m <<< shift : ℕ) / m' := by
        rw [Nat.shiftLeft_eq]
        positivity
      have hvalue : ((m <<< shift : ℕ) : ℚ) * 2 ^ target = m * (2 ^ e / 2 ^ e') := by
        have hdecrease := @decreaseExponent_value m (e - e') target htarget_le
        rw [two_zpow_sub] at hdecrease
        exact hdecrease
      have hspec := roundWithAccuracy_spec (sign / sign') hrep hpos hexponent
      rw [factor_mul_rounded, factor_div, div_mul_eq_mul_div ((m <<< shift : ℕ) : ℚ), hvalue]
        at hspec
      refine ⟨hspec.1, hspec.2.trans ?_⟩
      congr 2
      ring

end Operations

/-! ## Packing -/

section Packing

variable {a : UnpackedFloat} {x : ℚ}

theorem append_one (mantissa : BitVec 52) : (1#1 ++ mantissa).toNat = 2 ^ 52 + mantissa.toNat := by
  rw [BitVec.toNat_append, ← Nat.shiftLeft_add_eq_or_of_lt mantissa.isLt]
  simp [Nat.shiftLeft_eq]

/-- The unpacked number of a biased exponent that is not the least, and a mantissa. -/
theorem unpack_packComponents_normal (sign : Sign) {exponent mantissa : ℕ} (hpos : 0 < exponent)
    (hexponent : exponent < 2047) (hlow : 2 ^ 52 ≤ mantissa) (hhigh : mantissa < 2 ^ 53) :
    unpack Format.binary64 (packComponents Format.binary64 sign (BitVec.ofNat 11 exponent)
      (BitVec.ofNat 52 mantissa)) =
        .finite sign mantissa (exponent - 1075) ((Nat.two_pow_pos 52).trans_le hlow) := by
  have hexp : (BitVec.ofNat 11 exponent).toNat = exponent := by
    rw [BitVec.toNat_ofNat, Nat.mod_eq_of_lt (by omega)]
  have hnegOne : BitVec.ofNat 11 exponent ≠ -1#11 := by
    intro heq
    have hnat := congrArg BitVec.toNat heq
    rw [hexp] at hnat
    exact absurd hnat hexponent.ne
  have hzero : BitVec.ofNat 11 exponent ≠ 0#11 := by
    intro heq
    have hnat := congrArg BitVec.toNat heq
    rw [hexp] at hnat
    exact absurd hnat hpos.ne'
  have hmantissa : (1#1 ++ BitVec.ofNat 52 mantissa).toNat = mantissa := by
    rw [append_one, BitVec.toNat_ofNat]
    omega
  unfold UnpackedFloat.unpack
  simp only [unpackMantissa_packComponents, unpackExponent_packComponents,
    unpackSign_packComponents, Sign.ofBitVec_toBitVec, if_neg hnegOne, if_neg hzero, hmantissa,
    hexp]
  congr 1

/-- The unpacked number of the least biased exponent. -/
theorem unpack_packComponents_subnormal (sign : Sign) {mantissa : ℕ} (hpos : 0 < mantissa)
    (hhigh : mantissa < 2 ^ 52) :
    unpack Format.binary64 (packComponents Format.binary64 sign 0#11
      (BitVec.ofNat 52 mantissa)) = .finite sign mantissa leastQuantum hpos := by
  have hmantissa : (BitVec.ofNat 52 mantissa).toNat = mantissa := by
    rw [BitVec.toNat_ofNat, Nat.mod_eq_of_lt hhigh]
  have hzero : BitVec.ofNat 52 mantissa ≠ 0#52 := by
    intro heq
    have hnat := congrArg BitVec.toNat heq
    rw [hmantissa] at hnat
    exact absurd hnat hpos.ne'
  unfold UnpackedFloat.unpack
  simp only [unpackMantissa_packComponents, unpackExponent_packComponents,
    unpackSign_packComponents, Sign.ofBitVec_toBitVec, dif_neg hzero, hmantissa]
  rfl

/-- A mantissa with a full exponent has a value of that size. -/
theorem exponent_le_of_abs_lt {sign : Sign} {m : ℕ} {e : ℤ} (hm : 0 < m)
    (hfull : 2 ^ 52 ≤ m ∨ e = leastQuantum)
    (hlt : |factor sign * (m * 2 ^ e)| < 2 ^ (1024 : ℤ)) : e ≤ 971 := by
  rcases hfull with hfull | hleast
  · have hvalue : |factor sign * (m * 2 ^ e)| = m * 2 ^ e := by
      have hpos : (0 : ℚ) < m * 2 ^ e := mul_pos (by exact_mod_cast hm) (two_zpow_pos e)
      cases sign with
      | negative => rw [factor, neg_one_mul, abs_neg, abs_of_pos hpos]
      | positive => rw [factor, one_mul, abs_of_pos hpos]
    rw [hvalue] at hlt
    have hlow : (2 : ℚ) ^ (52 + e) ≤ m * 2 ^ e := by
      rw [two_zpow_add]
      refine mul_le_mul_of_nonneg_right ?_ (two_zpow_pos e).le
      exact_mod_cast hfull
    have hexponents := (zpow_lt_zpow_iff_right₀ (by norm_num : (1 : ℚ) < 2)).mp (hlow.trans_lt hlt)
    omega
  · rw [hleast]
    decide

/-- **What is kept survives packing** if it is not too large. -/
theorem unpack_pack (ha : Canonical a) (hx : valueOf? a = some x) (hlt : |x| < 2 ^ (1024 : ℤ)) :
    unpack Format.binary64 (UnpackedFloat.pack Format.binary64 a) = a := by
  cases a with
  | infinity | notANumber => cases hx
  | zero sign => exact unpack_packedZero
  | finite sign m e hm =>
    obtain rfl := Option.some.inj hx
    obtain ⟨hhigh, hleast, hfull⟩ := ha
    have hexponent := exponent_le_of_abs_lt hm hfull hlt
    unfold leastQuantum at hleast hfull
    have hbiased : (e + (Format.binary64.exponentBias : ℤ) +
        (Format.binary64.mantissaBitsWithoutImplicit : ℤ)).toNat = (e + 1075).toNat := by
      change (e + 1023 + 52).toNat = _
      congr 1
      ring
    unfold UnpackedFloat.pack
    simp only [hbiased]
    rw [if_neg (by change ¬ 2048 ≤ _; omega)]
    by_cases hlong : 2 ^ 52 ≤ m
    · have hlog : m.log2 = 52 := (Nat.log2_eq_iff hm.ne').mpr ⟨hlong, hhigh⟩
      rw [if_pos (by rw [hlog]; rfl)]
      refine (unpack_packComponents_normal sign (by omega) (by omega) hlong hhigh).trans ?_
      congr 1
      omega
    · have hlog : m.log2 < 52 := (Nat.log2_lt hm.ne').mpr (not_le.mp hlong)
      rw [if_neg (by change ¬ m.log2 + 1 = 53; omega)]
      refine (unpack_packComponents_subnormal sign hm (not_le.mp hlong)).trans ?_
      rw [UnpackedFloat.finite.injEq]
      exact ⟨rfl, rfl, (hfull.resolve_left hlong).symm⟩

/-- A finite number is kept as it should be. -/
theorem canonical_unpack {bits : BitVec Format.binary64.numBits}
    (hx : valueOf? (unpack Format.binary64 bits) = some x) :
    Canonical (unpack Format.binary64 bits) := by
  unfold UnpackedFloat.unpack at hx ⊢
  have hmantissa : (unpackMantissa bits).toNat < 2 ^ 52 := (unpackMantissa bits).isLt
  simp only at hx ⊢
  split_ifs at hx ⊢ with hspecial hinfinity hzero
  · cases hx
  · cases hx
  · trivial
  · exact ⟨by omega, le_of_eq (by rw [hzero]; rfl), .inr (by rw [hzero]; rfl)⟩
  · have hexponent : 0 < (unpackExponent bits).toNat := by
      refine Nat.pos_of_ne_zero fun heq => ?_
      exact absurd (BitVec.eq_of_toNat_eq heq) ‹_›
    have happend := append_one (unpackMantissa bits)
    refine ⟨?_, ?_, .inl ?_⟩
    · exact happend.trans_lt (by omega)
    · change leastQuantum ≤ ((unpackExponent bits).toNat : ℤ) - 1075
      unfold leastQuantum
      omega
    · exact happend.ge.trans' (Nat.le_add_right _ _)

end Packing

end Understudy.Decimal
