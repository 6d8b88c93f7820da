import Understudy.Proofs.Decimal.Words
import Understudy.Proofs.Text.Spelling
import Understudy.Proofs.Wire.Stub

/-!
# Delays that are read from their texts

The text of a delay is a number and a unit, with nothing to trim and no point, so reading it
multiplies the two. Both are floating-point numbers, and so is their product: the delay that is read
is the one that was written, rounded. A delay survives if its nanoseconds have 53 binary digits at
most, zeros at the end not counted. There is one more that does, the greatest: it is rounded up, and
what exceeds the greatest word is taken to it.

## Main definitions

* `Delay.Exact`: the nanoseconds are kept, or the greatest ones

## Main results

* `Delay.exists_text`: the text of a delay is a number and its unit
* `Delay.ofText?_numeral`: what is read from a number and a unit
* `Delay.reread`: a delay is read from its text, and is the same if it is exact
-/

namespace Understudy

open Decimal

/-! ## Texts without blanks -/

/-- A text without blanks is left as it is. -/
theorem Text.trim_eq_self {text : String} (h : ∀ c ∈ text.toList, isBlank c = false) :
    trim text = text := by
  have hdrop : ∀ {chars : List Char}, (∀ c ∈ chars, isBlank c = false) →
      chars.dropWhile isBlank = chars := by
    intro chars hchars
    cases chars with
    | nil => rfl
    | cons c rest => exact List.dropWhile_cons_of_neg (by simp [hchars c List.mem_cons_self])
  rw [trim, hdrop h, hdrop fun c hmem => h c (List.mem_reverse.mp hmem), List.reverse_reverse,
    String.ofList_toList]

namespace Delay

/-! ## Numbers and units -/

/-- The units in which delays are written, with their nanoseconds. -/
def units : List (List Char × ℕ) :=
  [(['s'], 1000000000), (['m', 's'], 1000000), (['u', 's'], 1000), (['n', 's'], 1)]

theorem segments_of_unit {unit : List Char} (hsome : unit ≠ [])
    (hunit : ∀ c ∈ unit, isNumeral c = false) : segments unit = [([], unit)] := by
  induction unit with
  | nil => exact absurd rfl hsome
  | cons c rest ih =>
    obtain ⟨hc, hrest⟩ := List.forall_mem_cons.mp hunit
    rcases eq_or_ne rest [] with rfl | hne
    · simp [segments, hc]
    · simp [segments, hc, ih hne hrest]

/-- A number and its unit are taken apart. -/
theorem segments_of_numeral {digits unit : List Char} (hdigits : ∀ c ∈ digits, isNumeral c = true)
    (hsome : unit ≠ []) (hunit : ∀ c ∈ unit, isNumeral c = false) :
    segments (digits ++ unit) = [(digits, unit)] := by
  induction digits with
  | nil => exact segments_of_unit hsome hunit
  | cons c rest ih =>
    obtain ⟨hc, hrest⟩ := List.forall_mem_cons.mp hdigits
    simp [segments, hc, ih hrest]

/-- The digits of a whole number write it. -/
theorem number?_toDigits (n : ℕ) : number? (Nat.toDigits 10 n) = some (nearest n 0) := by
  have hwhole : (Nat.toDigits 10 n).takeWhile Char.isDigit = Nat.toDigits 10 n :=
    List.takeWhile_eq_self_iff.mpr fun c hmem =>
      Nat.isDigit_of_mem_toDigits (by norm_num) (by norm_num) hmem
  have hvalue : (Nat.toDigits 10 n).foldl (fun n d => 10 * n + (d.toNat - 48)) 0 = n :=
    Nat.ofDigitChars_eq_foldl.symm.trans Nat.ofDigitChars_ten_toDigits
  simp [number?, hwhole, hvalue, Nat.toDigits_ne_nil]

/-- A unit is no number and no blank, and its nanoseconds are kept. -/
theorem unit_spec {unit : List Char} {scale : ℕ} (h : (unit, scale) ∈ units) :
    (∃ x, unit? unit = some x ∧ HasValue x scale) ∧ unit ≠ [] ∧
      (∀ c ∈ unit, isNumeral c = false ∧ Text.isBlank c = false) ∧
      0 < scale ∧ scale ≤ 2 ^ 36 := by
  have hvalue : ∀ n : ℕ, n ≤ 2 ^ 53 → HasValue (nearest n 0) n := by
    intro n hn
    have hnearest := hasValue_nearest (n := n) (by omega)
    rwa [rounded_eq_self (representable_natCast hn)] at hnearest
  have hread : ∃ x, unit? unit = some x ∧ HasValue x scale := by
    simp only [units, List.mem_cons, List.not_mem_nil, or_false, Prod.mk.injEq] at h
    rcases h with ⟨rfl, rfl⟩ | ⟨rfl, rfl⟩ | ⟨rfl, rfl⟩ | ⟨rfl, rfl⟩
    · exact ⟨_, rfl, hvalue 1000000000 (by norm_num)⟩
    · exact ⟨_, rfl, hvalue 1000000 (by norm_num)⟩
    · exact ⟨_, rfl, hvalue 1000 (by norm_num)⟩
    · exact ⟨_, rfl, hvalue 1 (by norm_num)⟩
  have hall : units.all (fun entry => !entry.1.isEmpty &&
      decide (0 < entry.2 ∧ entry.2 ≤ 2 ^ 36) &&
      entry.1.all fun c => !isNumeral c && !Text.isBlank c) = true := by
    decide
  have hunit := List.all_eq_true.mp hall _ h
  simp only [Bool.and_eq_true, Bool.not_eq_true', decide_eq_true_eq, List.all_eq_true,
    List.isEmpty_eq_false_iff] at hunit
  exact ⟨hread, hunit.1.1, hunit.2, hunit.1.2⟩

/-- A digit is part of a number, no sign and no blank. -/
theorem isDigit_spec {c : Char} (h : c.isDigit = true) :
    isNumeral c = true ∧ c ≠ '+' ∧ c ≠ '-' ∧ Text.isBlank c = false := by
  obtain ⟨code, hcode, rfl⟩ := Text.exists_of_isSmall (c := c) (by simp [Text.isSmall, h])
  revert code
  decide

/-- A number and its unit are read as their product. -/
theorem ofText?_numeral {k : ℕ} {unit : List Char} {x : Float} (hx : unit? unit = some x)
    (hsome : unit ≠ []) (hunit : ∀ c ∈ unit, isNumeral c = false ∧ Text.isBlank c = false) :
    ofText? (toString k ++ String.ofList unit) = .ok ⟨toWord (0 + nearest k 0 * x)⟩ := by
  have hdigits : ∀ c ∈ Nat.toDigits 10 k, c.isDigit = true := fun c hmem =>
    Nat.isDigit_of_mem_toDigits (by norm_num) (by norm_num) hmem
  generalize htext : toString k ++ String.ofList unit = text
  have hchars : text.toList = Nat.toDigits 10 k ++ unit := by
    rw [← htext, String.toList_append, Nat.toString_eq_repr, Nat.toList_repr, String.toList_ofList]
  have htrim : Text.trim text = text := by
    refine Text.trim_eq_self fun c hmem => ?_
    rw [hchars] at hmem
    rcases List.mem_append.mp hmem with hmem | hmem
    · exact (isDigit_spec (hdigits c hmem)).2.2.2
    · exact (hunit c hmem).2
  have hsegments : segments text.toList = [(Nat.toDigits 10 k, unit)] := by
    rw [hchars]
    exact segments_of_numeral (fun c hmem => (isDigit_spec (hdigits c hmem)).1) hsome
      fun c hmem => (hunit c hmem).1
  have hsum : (segments text.toList).foldlM (addSegment text) 0 =
      .ok (0 + nearest k 0 * x) := by
    simp only [hsegments, List.foldlM_cons, List.foldlM_nil, addSegment, number?_toDigits, hx]
    rfl
  -- the first character is a digit, and there is another one
  obtain ⟨first, rest, hfirst⟩ :=
    List.exists_cons_of_ne_nil (Nat.toDigits_ne_nil (n := k) (b := 10))
  obtain ⟨second, others, hsecond⟩ :=
    List.exists_cons_of_ne_nil (List.append_ne_nil_of_right_ne_nil rest hsome)
  have hlist : text.toList = first :: second :: others := by
    rw [hchars, hfirst, List.cons_append, hsecond]
  obtain ⟨-, hplus, hminus, -⟩ := isDigit_spec (hdigits first (by simp [hfirst]))
  rw [hlist] at hsum
  rw [ofText?, htrim, hlist]
  simp only [List.head?_cons, Option.some.injEq, hplus, hminus, if_false, hsum]
  rfl

/-- **The text of a delay** is a number and its unit. -/
theorem exists_text (delay : Delay) : ∃ k unit scale, (unit, scale) ∈ units ∧
    delay.text = toString k ++ String.ofList unit ∧ k * scale = delay.nanoseconds.toNat := by
  unfold text
  dsimp only
  split_ifs with hzero hs hms hus
  · exact ⟨0, ['s'], 1000000000, by simp [units], rfl, (Nat.zero_mul _).trans hzero.symm⟩
  · exact ⟨_, ['s'], 1000000000, by simp [units], rfl, by omega⟩
  · exact ⟨_, ['m', 's'], 1000000, by simp [units], rfl, by omega⟩
  · exact ⟨_, ['u', 's'], 1000, by simp [units], rfl, by omega⟩
  · exact ⟨_, ['n', 's'], 1, by simp [units], rfl, by omega⟩

/-! ## Delays that are read -/

/-- **What is read from the text of a delay** is the delay, rounded, or the greatest one if that is
beyond it. -/
theorem exists_read (delay : Delay) : ∃ (read : Delay) (n : ℕ), ofText? delay.text = .ok read ∧
    read.nanoseconds.toNat = min n (2 ^ 64 - 1) ∧ Representable n ∧
    (Representable delay.nanoseconds.toNat → n = delay.nanoseconds.toNat) := by
  obtain ⟨k, unit, scale, hmem, htext, hk⟩ := exists_text delay
  obtain ⟨⟨x, hx, hscale⟩, hsome, hunit, hpos, hle⟩ := unit_spec hmem
  have hword : delay.nanoseconds.toNat < 2 ^ 64 := delay.nanoseconds.toNat_lt
  have hklt : k < 2 ^ 64 := (Nat.le_mul_of_pos_right k hpos).trans_lt (hk.trans_lt hword)
  -- the number, the product and the sum are rounded, the last without effect
  obtain ⟨k', hk'⟩ := exists_rounded_natCast k
  obtain ⟨n, hn⟩ := exists_rounded_natCast (k' * scale)
  have hnumber : HasValue (nearest k 0) k' := hk' ▸ hasValue_nearest hklt
  have hsmall : |(k' : ℚ) * scale| ≤ 2 ^ 100 := by
    have hnumber : (k' : ℚ) ≤ 2 ^ 64 := by
      rw [← hk']
      exact rounded_le (representable_two_pow 64) (by exact_mod_cast hklt.le)
    have hunit : (scale : ℚ) ≤ 2 ^ 36 := by exact_mod_cast hle
    rw [abs_of_nonneg (by positivity)]
    calc (k' : ℚ) * scale ≤ 2 ^ 64 * 2 ^ 36 := by gcongr
      _ = 2 ^ 100 := by norm_num
  have hproduct : HasValue (nearest k 0 * x) n := by
    have hmul := hnumber.mul hscale (le_ample hsmall)
    rwa [← Nat.cast_mul, hn] at hmul
  have hsum : HasValue (0 + nearest k 0 * x) n := by
    have hample : |(0 : ℚ) + n| ≤ ample := by
      rw [zero_add, ← hn, Nat.cast_mul]
      exact abs_rounded_le_ample (le_ample hsmall)
    have hadd := hasValue_zero.add hproduct hample
    rwa [zero_add, rounded_eq_self hproduct.representable] at hadd
  refine ⟨_, n, htext ▸ ofText?_numeral hx hsome hunit, hsum.toNat_toWord,
    hproduct.representable, fun hkept => ?_⟩
  -- if the product is kept, so is the number
  rw [← hk] at hkept ⊢
  have hkeptNumber : Representable (k : ℚ) := representable_of_mul hpos hkept
  rw [rounded_eq_self hkeptNumber, Nat.cast_inj] at hk'
  rw [← hk', rounded_eq_self hkept, Nat.cast_inj] at hn
  exact hn.symm

/-- The nanoseconds of a delay have 53 binary digits at most, zeros at the end not counted, or are
the greatest that there are. -/
def Exact (delay : Delay) : Prop :=
  Representable delay.nanoseconds.toNat ∨ delay.nanoseconds.toNat = 2 ^ 64 - 1

theorem exact_of_le {delay : Delay} (h : delay.nanoseconds.toNat ≤ 2 ^ 53) : delay.Exact :=
  .inl (representable_natCast h)

/-- The greatest delay is rounded up, and taken back to itself. -/
theorem ofText?_greatest : ofText? (text ⟨18446744073709551615⟩) = .ok ⟨18446744073709551615⟩ := by
  decide +kernel

/-- A delay is read from its text, and is the same if and only if it is exact. -/
theorem exists_read_iff_exact (delay : Delay) :
    ∃ read, ofText? delay.text = .ok read ∧ (read = delay ↔ delay.Exact) := by
  obtain ⟨read, n, hread, hvalue, hkept, hexact⟩ := exists_read delay
  refine ⟨read, hread, ?_, ?_⟩
  · rintro rfl
    unfold Exact
    rw [hvalue]
    rcases le_total n (2 ^ 64 - 1) with hle | hge
    · rw [min_eq_left hle]
      exact .inl hkept
    · exact .inr (min_eq_right hge)
  · rintro (hrep | hgreatest)
    · have hword : delay.nanoseconds.toNat < 2 ^ 64 := delay.nanoseconds.toNat_lt
      have hsame : read.nanoseconds.toNat = delay.nanoseconds.toNat := by
        rw [hvalue, hexact hrep]
        omega
      exact congrArg Delay.mk (UInt64.toNat_inj.mp hsame)
    · have hdelay : delay = ⟨18446744073709551615⟩ :=
        congrArg Delay.mk (UInt64.toNat_inj.mp hgreatest)
      rw [hdelay, ofText?_greatest] at hread
      rw [hdelay]
      exact (Except.ok.inj hread).symm

/-- What is written for a stub is read as the stub, with what is read for its delay. -/
theorem ofJson_toJson_of_read {stub : Stub} (h : stub.expectation ≠ .ordered [])
    {delay read : Delay} (hdelay : stub.reply.delay = some delay)
    (hread : ofText? delay.text = .ok read) :
    Stub.ofJson stub.toJson =
      .ok { stub with reply := { stub.reply with delay := some read } } := by
  refine Stub.ofJson_toJson_replied h (Reply.ofJson_toJson_redelayed ?_)
  rw [hdelay, Option.map_some]
  exact .always (Wire.Survives.optional_of_ok (by rw [Wire.delay, hread]; rfl) nofun)

/-- **A delay survives if it is exact.** Whatever a delay is, something is read from its text, and
it is the same delay if and only if its nanoseconds have 53 binary digits at most, zeros at the end
not counted, or are the greatest that there are. So a delay that is given as a number is read as it
is, and a stub that has been read with it is written and read again, as the same stub if and only if
the delay is exact. -/
theorem survives_iff_exact (delay : Delay) :
    (∃ read, ofText? delay.text = .ok read ∧ (read = delay ↔ delay.Exact)) ∧
    Wire.delay (.nat delay.nanoseconds.toNat) = .ok delay ∧
    ∀ (json : Json) (stub : Stub), Stub.ofJson json = .ok stub → stub.reply.delay = some delay →
      ∃ again, Stub.ofJson stub.toJson = .ok again ∧ (again = stub ↔ delay.Exact) := by
  obtain ⟨read, hread, hexact⟩ := exists_read_iff_exact delay
  refine ⟨⟨read, hread, hexact⟩, Wire.delay_nat delay, fun json stub hjson hdelay => ?_⟩
  have hagain := ofJson_toJson_of_read (Stub.expectation_ne_of_ofJson hjson) hdelay hread
  refine ⟨_, hagain, ?_⟩
  rw [← hexact]
  constructor
  · intro hsame
    have hreply := congrArg (fun stub : Stub => stub.reply.delay) hsame
    exact Option.some.inj (hreply.trans hdelay)
  · rintro rfl
    rw [← hdelay]

end Delay

/-! ## An answer that waits -/

namespace Pause

/-- A value with a delay that is given as a number. -/
def json (nanoseconds : ℕ) : Json :=
  .obj [("method", .str "Add"),
    ("output", .obj [("data", .obj [("ok", .bool true)]), ("delay", .nat nanoseconds)]),
    ("service", .str "Cart")]

/-- The stub that the value describes. -/
def stub (nanoseconds : UInt64) : Stub where
  service := "Cart"
  method := "Add"
  reply := { data := some [("ok", .bool true)], delay := some ⟨nanoseconds⟩ }

theorem ofJson_json (nanoseconds : UInt64) :
    Stub.ofJson (json nanoseconds.toNat) = .ok (stub nanoseconds) := by
  have hreply : Reply.ofJson (.obj [("data", .obj [("ok", .bool true)]),
      ("delay", .nat nanoseconds.toNat)]) = .ok (stub nanoseconds).reply := by
    have hdelay : Wire.optional Wire.delay (.nat nanoseconds.toNat) = .ok (some ⟨nanoseconds⟩) :=
      Wire.Survives.optional_of_ok (Wire.delay_nat ⟨nanoseconds⟩) nofun
    simp only [Reply.ofJson, Wire.record, List.foldlM_cons, List.foldlM_nil, Reply.setField,
      hdelay]
    rfl
  simp only [Stub.ofJson, json, Wire.record, List.foldlM_cons, List.foldlM_nil,
    Stub.Draft.setField, hreply]
  rfl

end Pause

namespace Delay

/-- A stub that waits for a second and a half survives. -/
theorem survives_iff_exact_pause :
    Stub.ofJson (Pause.json 1500000000) = .ok (Pause.stub 1500000000) ∧
    (Pause.stub 1500000000).reply.delay = some ⟨1500000000⟩ ∧
    (⟨1500000000⟩ : Delay).Exact ∧
    ∃ again, Stub.ofJson (Pause.stub 1500000000).toJson = .ok again ∧
      again = Pause.stub 1500000000 := by
  have hexact : (⟨1500000000⟩ : Delay).Exact := exact_of_le (by decide)
  have hjson := Pause.ofJson_json 1500000000
  obtain ⟨again, hagain, hsame⟩ := (survives_iff_exact ⟨1500000000⟩).2.2 _ _ hjson rfl
  exact ⟨hjson, rfl, hexact, again, hagain, hsame.mpr hexact⟩

/-- The least delay that does not survive: it is given as a number, and has lost a nanosecond once
it has been written and read again. -/
theorem nanosecond_lost :
    ofText? (text ⟨9007199254740993⟩) = .ok ⟨9007199254740992⟩ ∧
    Stub.ofJson (Pause.json 9007199254740993) = .ok (Pause.stub 9007199254740993) ∧
    Stub.ofJson (Pause.stub 9007199254740993).toJson = .ok (Pause.stub 9007199254740992) := by
  have hread : ofText? (text ⟨9007199254740993⟩) = .ok ⟨9007199254740992⟩ := by decide +kernel
  have hagain := @ofJson_toJson_of_read (Pause.stub 9007199254740993) nofun _ _ rfl hread
  exact ⟨hread, Pause.ofJson_json 9007199254740993, hagain⟩

end Delay

end Understudy
