import Mathlib

/-!
# Rounding to the nearest binary64 number

A number is rounded to a multiple of its *quantum*, the power of two that leaves 53 binary digits and
does not go below the smallest one there is. A half goes to the even multiple. The exponent is not
bounded above here: what is rounded to something too large is dealt with where numbers are packed.

## Main definitions

* `roundEven`: the nearest whole number, a half going to the even one
* `quantum`, `rounded`: the exponent of the quantum of a number, and the number rounded
* `Representable`: at most 53 binary digits, none below the smallest quantum

## Main results

* `rounded_le`, `le_rounded`: rounding goes past no representable number
* `rounded_mono`, `rounded_eq_self`: rounding is monotone, and leaves representable numbers alone
* `rounded_le_two_zpow`: what exceeds a power of two by half a quantum at most is rounded to it
-/

namespace Understudy.Decimal

/-! ## Whole numbers -/

/-- The nearest whole number, a half going to the even one. -/
def roundEven (x : ℚ) : ℤ :=
  if x - ⌊x⌋ < 1 / 2 then ⌊x⌋
  else if 1 / 2 < x - ⌊x⌋ then ⌊x⌋ + 1
  else ⌊x⌋ + ⌊x⌋ % 2

section RoundEven

variable {x y : ℚ} {k : ℤ}

theorem floor_le_roundEven (x : ℚ) : ⌊x⌋ ≤ roundEven x := by
  have hmod := Int.emod_nonneg ⌊x⌋ (by decide : (2 : ℤ) ≠ 0)
  unfold roundEven
  split_ifs <;> omega

theorem roundEven_le_floor_add_one (x : ℚ) : roundEven x ≤ ⌊x⌋ + 1 := by
  have hmod := Int.emod_lt_of_pos ⌊x⌋ (by decide : (0 : ℤ) < 2)
  unfold roundEven
  split_ifs <;> omega

@[simp] theorem roundEven_intCast (k : ℤ) : roundEven k = k := by
  simp [roundEven]

theorem roundEven_le (h : x ≤ k) : roundEven x ≤ k := by
  rcases (Int.floor_le_floor h).lt_or_eq with hlt | heq
  · rw [Int.floor_intCast] at hlt
    exact (roundEven_le_floor_add_one x).trans hlt
  · -- a number between a whole number and itself is that number
    rw [Int.floor_intCast] at heq
    have hx : x = k := le_antisymm h (heq ▸ Int.floor_le x)
    rw [hx, roundEven_intCast]

theorem le_roundEven (h : k ≤ x) : k ≤ roundEven x :=
  (Int.le_floor.mpr h).trans (floor_le_roundEven x)

theorem roundEven_mono (h : x ≤ y) : roundEven x ≤ roundEven y := by
  rcases (Int.floor_le_floor h).lt_or_eq with hlt | heq
  · exact (roundEven_le_floor_add_one x).trans
      ((Int.add_one_le_of_lt hlt).trans (floor_le_roundEven y))
  · have hmod := Int.emod_two_eq ⌊y⌋
    unfold roundEven
    rw [heq]
    split_ifs <;> first | omega | (exfalso; linarith)

/-- A half above an even number goes down to it. -/
theorem roundEven_le_of_even (heven : k % 2 = 0) (h : x ≤ k + 1 / 2) : roundEven x ≤ k := by
  rcases le_or_gt x k with hle | hgt
  · exact roundEven_le hle
  · have hfloor : ⌊x⌋ = k := Int.floor_eq_iff.mpr ⟨hgt.le, by linarith⟩
    unfold roundEven
    rw [hfloor]
    split_ifs with hlow hhigh
    · exact le_rfl
    · exfalso
      linarith
    · omega

theorem roundEven_neg (x : ℚ) : roundEven (-x) = -roundEven x := by
  rcases eq_or_ne x ⌊x⌋ with hx | hx
  · rw [hx, ← Int.cast_neg, roundEven_intCast, roundEven_intCast]
  · have hlo := lt_of_le_of_ne (Int.floor_le x) hx.symm
    have hhi := Int.lt_floor_add_one x
    have hfloor : ⌊-x⌋ = -⌊x⌋ - 1 := by
      refine Int.floor_eq_iff.mpr ⟨?_, ?_⟩ <;> push_cast <;> linarith
    have hmod := Int.emod_two_eq ⌊x⌋
    unfold roundEven
    rw [hfloor]
    push_cast
    split_ifs <;> first | omega | (exfalso; linarith)

end RoundEven

/-! ## Quanta -/

/-- The exponent of the smallest quantum. -/
def leastQuantum : ℤ := -1074

/-- The exponent of the quantum of a number. -/
def quantum (x : ℚ) : ℤ :=
  max (Int.log 2 |x| - 52) leastQuantum

/-- The nearest number with 53 binary digits, none of them below the smallest quantum. -/
def rounded (x : ℚ) : ℚ :=
  roundEven (x / 2 ^ quantum x) * 2 ^ quantum x

/-- A number with 53 binary digits at most, none of them below the smallest quantum. -/
def Representable (x : ℚ) : Prop :=
  ∃ m e : ℤ, |m| ≤ 2 ^ 53 ∧ leastQuantum ≤ e ∧ x = m * 2 ^ e

section Nearest

variable {x y g : ℚ}

theorem two_zpow_pos (e : ℤ) : (0 : ℚ) < 2 ^ e :=
  zpow_pos (by norm_num) e

theorem two_zpow_le {e e' : ℤ} (h : e ≤ e') : (2 : ℚ) ^ e ≤ 2 ^ e' :=
  zpow_le_zpow_right₀ (by norm_num) h

theorem two_zpow_add (e e' : ℤ) : (2 : ℚ) ^ (e + e') = 2 ^ e * 2 ^ e' :=
  zpow_add₀ (by norm_num) e e'

theorem two_zpow_sub (e e' : ℤ) : (2 : ℚ) ^ (e - e') = 2 ^ e / 2 ^ e' :=
  zpow_sub₀ (by norm_num) e e'

theorem leastQuantum_le_quantum (x : ℚ) : leastQuantum ≤ quantum x :=
  le_max_right _ _

@[simp] theorem quantum_neg (x : ℚ) : quantum (-x) = quantum x := by
  rw [quantum, abs_neg, quantum]

@[simp] theorem rounded_neg (x : ℚ) : rounded (-x) = -rounded x := by
  rw [rounded, quantum_neg, neg_div, roundEven_neg, Int.cast_neg, neg_mul, rounded]

/-- A number is less than the power of two with one more digit than its quantum leaves. -/
theorem abs_lt_of_quantum (x : ℚ) : |x| < 2 ^ (quantum x + 53) := by
  have hlt := Int.lt_zpow_succ_log_self (b := 2) (by decide) |x|
  have hle : Int.log 2 |x| - 52 ≤ quantum x := le_max_left _ _
  push_cast at hlt
  exact hlt.trans_le (two_zpow_le (by omega))

/-- A number whose quantum is not the smallest one has 53 binary digits before it. -/
theorem le_abs_of_quantum (hx : x ≠ 0) (h : leastQuantum < quantum x) :
    2 ^ (quantum x + 52) ≤ |x| := by
  have hquantum : quantum x + 52 = Int.log 2 |x| := by
    unfold quantum at h ⊢
    omega
  rw [hquantum]
  exact_mod_cast Int.zpow_log_le_self (by norm_num) (abs_pos.mpr hx)

theorem rounded_le_of_grid {k : ℤ} (h : x ≤ k * 2 ^ quantum x) :
    rounded x ≤ k * 2 ^ quantum x := by
  refine mul_le_mul_of_nonneg_right ?_ (two_zpow_pos _).le
  exact_mod_cast roundEven_le ((div_le_iff₀ (two_zpow_pos _)).mpr h)

/-- A multiple of one power of two is one of each smaller power. -/
theorem exists_mul_zpow (m : ℤ) {e e' : ℤ} (h : e' ≤ e) :
    ∃ k : ℤ, (m : ℚ) * 2 ^ e = k * 2 ^ e' := by
  refine ⟨m * 2 ^ (e - e').toNat, ?_⟩
  have hexp : e = ((e - e').toNat : ℤ) + e' := by omega
  conv_lhs => rw [hexp, two_zpow_add]
  push_cast
  rw [zpow_natCast, mul_assoc]

/-- **Rounding goes up past no representable number.** -/
theorem rounded_le (hg : Representable g) (h : x ≤ g) : rounded x ≤ g := by
  obtain ⟨m, e, hm, he, rfl⟩ := hg
  rcases le_or_gt (quantum x) e with hle | hlt
  · obtain ⟨k, hk⟩ := exists_mul_zpow m hle
    rw [hk] at h ⊢
    exact rounded_le_of_grid h
  · -- on a finer grid there are only numbers of a smaller size than this one
    rcases eq_or_ne x 0 with rfl | hx
    · simpa [rounded, roundEven] using h
    have hlow := le_abs_of_quantum hx (he.trans_lt hlt)
    have hsmall : |(m : ℚ) * 2 ^ e| ≤ 2 ^ (quantum x + 52) := by
      rw [abs_mul, abs_of_pos (two_zpow_pos e)]
      calc |(m : ℚ)| * 2 ^ e ≤ 2 ^ 53 * 2 ^ e := by
            refine mul_le_mul_of_nonneg_right ?_ (two_zpow_pos e).le
            exact_mod_cast hm
        _ = 2 ^ (53 + e) := by rw [two_zpow_add]; norm_num
        _ ≤ 2 ^ (quantum x + 52) := two_zpow_le (by omega)
    have hgrid : ∀ sign : ℤ, (sign : ℚ) * 2 ^ (quantum x + 52) =
        (sign * 2 ^ 52 : ℤ) * 2 ^ quantum x := by
      intro sign
      rw [two_zpow_add]
      push_cast
      ring
    rcases lt_or_gt_of_ne hx with hneg | hpos
    · -- the power of two that is reached stands between
      rw [abs_of_neg hneg] at hlow
      have hpower : x ≤ ((-1 : ℤ) : ℚ) * 2 ^ (quantum x + 52) := by
        push_cast
        linarith
      rw [hgrid] at hpower
      refine (rounded_le_of_grid hpower).trans ?_
      rw [← hgrid]
      push_cast
      linarith [neg_abs_le ((m : ℚ) * 2 ^ e)]
    · rw [abs_of_pos hpos] at hlow
      have hpower : x = ((1 : ℤ) : ℚ) * 2 ^ (quantum x + 52) := by
        push_cast
        linarith [le_abs_self ((m : ℚ) * 2 ^ e)]
      refine le_trans ?_ h
      have hself := rounded_le_of_grid (hpower.trans (hgrid 1)).le
      rwa [← hgrid, ← hpower] at hself

theorem Representable.neg (hg : Representable g) : Representable (-g) := by
  obtain ⟨m, e, hm, he, rfl⟩ := hg
  exact ⟨-m, e, by rwa [abs_neg], he, by push_cast; ring⟩

/-- **Rounding goes down past no representable number.** -/
theorem le_rounded (hg : Representable g) (h : g ≤ x) : g ≤ rounded x := by
  have hneg := rounded_le hg.neg (neg_le_neg h)
  rw [rounded_neg] at hneg
  exact neg_le_neg_iff.mp hneg

/-- Representable numbers are left alone. -/
theorem rounded_eq_self (hg : Representable g) : rounded g = g :=
  le_antisymm (rounded_le hg le_rfl) (le_rounded hg le_rfl)

@[simp] theorem rounded_zero : rounded 0 = 0 := by
  simp [rounded, roundEven]

theorem abs_roundEven_le (x : ℚ) : |roundEven (x / 2 ^ quantum x)| ≤ 2 ^ 53 := by
  have hlt := abs_lt_of_quantum x
  rw [two_zpow_add, mul_comm] at hlt
  have habs : |x / 2 ^ quantum x| ≤ ((2 ^ 53 : ℤ) : ℚ) := by
    rw [abs_div, abs_of_pos (two_zpow_pos (quantum x)), div_le_iff₀ (two_zpow_pos _)]
    push_cast
    exact_mod_cast hlt.le
  obtain ⟨hlow, hhigh⟩ := abs_le.mp habs
  rw [← Int.cast_neg] at hlow
  exact abs_le.mpr ⟨le_roundEven hlow, roundEven_le hhigh⟩

theorem representable_rounded (x : ℚ) : Representable (rounded x) :=
  ⟨_, _, abs_roundEven_le x, leastQuantum_le_quantum x, rfl⟩

theorem representable_intCast {n : ℤ} (h : |n| ≤ 2 ^ 53) : Representable n :=
  ⟨n, 0, h, by decide, by simp⟩

theorem representable_natCast {n : ℕ} (h : n ≤ 2 ^ 53) : Representable n := by
  have hint := @representable_intCast n (by rw [abs_of_nonneg (by positivity)]; exact_mod_cast h)
  exact_mod_cast hint

theorem representable_two_zpow {e : ℤ} (h : leastQuantum ≤ e) : Representable (2 ^ e) :=
  ⟨1, e, by norm_num, h, by simp⟩

theorem representable_zero : Representable 0 := by
  exact_mod_cast @representable_natCast 0 (by norm_num)

theorem quantum_mono (hx : 0 < x) (h : x ≤ y) : quantum x ≤ quantum y := by
  have hlog : Int.log 2 |x| ≤ Int.log 2 |y| := by
    rw [abs_of_pos hx, abs_of_pos (hx.trans_le h)]
    exact Int.log_mono_right hx h
  unfold quantum
  omega

/-- Rounding is monotone among positive numbers. -/
theorem rounded_mono_of_pos (hx : 0 < x) (h : x ≤ y) : rounded x ≤ rounded y := by
  rcases (quantum_mono hx h).lt_or_eq with hlt | heq
  · -- a power of two stands between numbers with different quanta
    have hy : y ≠ 0 := (hx.trans_le h).ne'
    have hleast := (leastQuantum_le_quantum x).trans_lt hlt
    have hpower : Representable (2 ^ (quantum y + 52)) :=
      representable_two_zpow (by unfold leastQuantum at hleast ⊢; omega)
    have hlow := le_abs_of_quantum hy hleast
    rw [abs_of_pos (hx.trans_le h)] at hlow
    have hhigh := abs_lt_of_quantum x
    rw [abs_of_pos hx] at hhigh
    refine (rounded_le hpower ?_).trans (le_rounded hpower hlow)
    exact hhigh.le.trans (two_zpow_le (by omega))
  · rw [rounded, rounded, heq]
    refine mul_le_mul_of_nonneg_right ?_ (two_zpow_pos _).le
    exact_mod_cast roundEven_mono (div_le_div_of_nonneg_right h (two_zpow_pos _).le)

/-- **Rounding is monotone.** -/
theorem rounded_mono (h : x ≤ y) : rounded x ≤ rounded y := by
  rcases lt_or_ge 0 x with hx | hx
  · exact rounded_mono_of_pos hx h
  · rcases lt_or_ge y 0 with hy | hy
    · have hneg := rounded_mono_of_pos (neg_pos.mpr hy) (neg_le_neg h)
      rw [rounded_neg, rounded_neg] at hneg
      exact neg_le_neg_iff.mp hneg
    · exact (rounded_le representable_zero hx).trans (le_rounded representable_zero hy)

/-- What exceeds a power of two by half its quantum at most is rounded to no more than it. -/
theorem rounded_le_two_zpow {n : ℤ} (hn : leastQuantum + 52 ≤ n)
    (h : x ≤ 2 ^ n + 2 ^ (n - 53)) : rounded x ≤ 2 ^ n := by
  rcases le_or_gt x (2 ^ n) with hle | hgt
  · exact rounded_le (representable_two_zpow (by unfold leastQuantum at hn ⊢; omega)) hle
  · have hpos := (two_zpow_pos n).trans hgt
    have hlog : Int.log 2 |x| = n := by
      rw [abs_of_pos hpos]
      refine le_antisymm ?_ ?_
      · rw [← Int.lt_add_one_iff, ← Int.lt_zpow_iff_log_lt (by norm_num) hpos]
        refine h.trans_lt ?_
        have hless : (2 : ℚ) ^ (n - 53) < 2 ^ n := zpow_lt_zpow_right₀ (by norm_num) (by omega)
        push_cast
        rw [two_zpow_add, zpow_one]
        linarith
      · rw [← Int.zpow_le_iff_le_log (by norm_num) hpos]
        exact_mod_cast hgt.le
    have hquantum : quantum x = n - 52 := by
      rw [quantum, hlog]
      unfold leastQuantum at hn ⊢
      omega
    have hpower : (2 : ℚ) ^ n = ((2 ^ 52 : ℤ) : ℚ) * 2 ^ (n - 52) := by
      push_cast
      rw [show n = 52 + (n - 52) by ring, two_zpow_add]
      norm_num
    have hhalf : (2 : ℚ) ^ (n - 53) = 1 / 2 * 2 ^ (n - 52) := by
      rw [show n - 53 = -1 + (n - 52) by ring, two_zpow_add]
      norm_num
    rw [hpower, hhalf, ← add_mul] at h
    rw [rounded, hquantum, hpower]
    refine mul_le_mul_of_nonneg_right ?_ (two_zpow_pos _).le
    exact_mod_cast roundEven_le_of_even (by norm_num) ((div_le_iff₀ (two_zpow_pos _)).mpr h)

/-- A sum with a summand that is small enough to make no difference. -/
theorem rounded_le_two_pow {n k : ℕ} (hk : k + 53 ≤ n) (h : x ≤ 2 ^ n + 2 ^ k) :
    rounded x ≤ 2 ^ n := by
  have hsmall : (2 : ℚ) ^ k ≤ 2 ^ ((n : ℤ) - 53) := by
    rw [← zpow_natCast]
    exact two_zpow_le (by omega)
  rw [← zpow_natCast] at h ⊢
  exact rounded_le_two_zpow (by unfold leastQuantum; omega) (by linarith)

theorem representable_two_pow (n : ℕ) : Representable (2 ^ n) := by
  rw [← zpow_natCast]
  exact representable_two_zpow (by unfold leastQuantum; omega)

end Nearest

end Understudy.Decimal
