import Understudy.Proofs.Stub.Delay

/-!
# Texts that write delays

A delay is written as a nought, or as one or more segments after an optional sign, each a number and
a unit right after it. Reading goes through a text from the left: every round takes off a number and
what stands before the next one, and leaves a shorter text. What it takes off are the segments that
the grammar asks for, so the texts that are read are those that the grammar knows, and one more: a
sign with nothing after it, of which no round finds fault.

## Main definitions

* `IsNumber`, `unitNames`: the numbers and the units
* `Segmented`: one or more segments
* `Written`: the texts that write delays

## Main results

* `segments_eq`: what a round takes off, and what it leaves
* `number?_isSome_iff`, `unit?_isSome_iff`: the numbers and the units that are read
* `Segmented.forall_sound`, `segmented_of_forall_sound`: a text is taken apart into numbers and units
  that are read if it is made of segments
* `reads_iff_written`: the texts that are read
-/

namespace Understudy.Delay

/-! ## The grammar -/

/-- A number: digits, at least one, with at most one point among them. -/
structure IsNumber (numerals : List Char) : Prop where
  all : ∀ c ∈ numerals, c.isDigit = true ∨ c = '.'
  point : numerals.count '.' ≤ 1
  digit : ∃ c ∈ numerals, c.isDigit = true

/-- The units as they are written; the sign for a millionth is one of two characters, or a letter. -/
def unitNames : List (List Char) :=
  [['n', 's'], ['u', 's'], ['\u00b5', 's'], ['\u03bc', 's'], ['m', 's'], ['s'], ['m'], ['h']]

/-- One or more numbers, each with a unit right after it. -/
inductive Segmented : List Char → Prop
  | last {number unit : List Char} : IsNumber number → unit ∈ unitNames →
    Segmented (number ++ unit)
  | more {number unit rest : List Char} : IsNumber number → unit ∈ unitNames →
    Segmented rest → Segmented (number ++ (unit ++ rest))

/-- The characters of a text that writes a delay: a nought, or segments after an optional sign. -/
inductive Written : List Char → Prop
  | nought : Written ['0']
  | plain {chars : List Char} : Segmented chars → Written chars
  | signed {chars : List Char} : Segmented chars → Written ('+' :: chars)

/-! ## Numbers and units -/

variable {number unit rest chars : List Char}

theorem isNumeral_iff {c : Char} : isNumeral c = true ↔ c.isDigit = true ∨ c = '.' := by
  simp [isNumeral]

theorem IsNumber.ne_nil (h : IsNumber number) : number ≠ [] := by
  rintro rfl
  obtain ⟨c, hmem, -⟩ := h.digit
  cases hmem

theorem IsNumber.isNumeral (h : IsNumber number) : ∀ c ∈ number, Delay.isNumeral c = true :=
  fun c hmem => isNumeral_iff.mpr (h.all c hmem)

/-- Digits after which there is something else are read up to it. -/
theorem number?_append {whole tail : List Char} (hwhole : ∀ c ∈ whole, c.isDigit = true)
    (htail : ∀ c ∈ tail.head?, c.isDigit = false) :
    (number? (whole ++ tail)).isSome = true ↔
      whole ++ tail.tail ≠ [] ∧ ∀ c ∈ tail.tail, c.isDigit = true := by
  have htake : (whole ++ tail).takeWhile Char.isDigit = whole := by
    rw [List.takeWhile_append_of_pos hwhole]
    cases tail with
    | nil => simp
    | cons c tail => simp [htail c rfl]
  have hread : (number? (whole ++ tail)).isSome =
      !((whole ++ tail.tail).isEmpty || !tail.tail.all Char.isDigit) := by
    simp only [number?, htake, List.drop_left, List.drop_one]
    split
    · next h => rw [h]; rfl
    · next h => rw [Bool.eq_false_iff.mpr h]; rfl
  rw [hread, Bool.not_or, Bool.not_not, Bool.and_eq_true, Bool.not_eq_true',
    List.isEmpty_eq_false_iff, List.all_eq_true]

theorem count_point {digits : List Char} (h : ∀ c ∈ digits, c.isDigit = true) :
    digits.count '.' = 0 := by
  rw [List.count_eq_zero]
  intro hmem
  exact absurd (h '.' hmem) (by decide)

/-- Digits without a point are a number unless there are none. -/
theorem isNumber_digits_iff {digits : List Char} (h : ∀ c ∈ digits, c.isDigit = true) :
    IsNumber digits ↔ digits ≠ [] := by
  constructor
  · exact IsNumber.ne_nil
  · intro hne
    obtain ⟨c, hmem⟩ := List.exists_mem_of_ne_nil digits hne
    refine ⟨fun c hmem => .inl (h c hmem), ?_, c, hmem, h c hmem⟩
    rw [count_point h]
    exact Nat.zero_le 1

/-- Digits with a point after them are a number if digits follow, and there are some on one side. -/
theorem isNumber_point_iff {whole fraction : List Char} (hwhole : ∀ c ∈ whole, c.isDigit = true) :
    IsNumber (whole ++ '.' :: fraction) ↔
      whole ++ fraction ≠ [] ∧ ∀ c ∈ fraction, c.isDigit = true := by
  constructor
  · intro hnumber
    have hpoint := hnumber.point
    rw [List.count_append, count_point hwhole, List.count_cons_self] at hpoint
    constructor
    · intro hnil
      obtain ⟨rfl, rfl⟩ := List.append_eq_nil_iff.mp hnil
      obtain ⟨c, hmem, hc⟩ := hnumber.digit
      obtain rfl : c = '.' := by simpa using hmem
      exact absurd hc (by decide)
    · intro c hmem
      rcases hnumber.all c (by simp [hmem]) with hc | rfl
      · exact hc
      · -- there is a point already
        have hcount := List.count_pos_iff.mpr hmem
        omega
  · rintro ⟨hne, hfraction⟩
    obtain ⟨c, hmem⟩ := List.exists_mem_of_ne_nil _ hne
    have hdigits : ∀ c ∈ whole ++ fraction, c.isDigit = true := by
      simpa [or_imp, forall_and] using ⟨hwhole, hfraction⟩
    refine ⟨?_, ?_, c, ?_, hdigits c hmem⟩
    · intro c hmem
      rcases List.mem_append.mp hmem with hmem | hmem
      · exact .inl (hwhole c hmem)
      · exact (List.mem_cons.mp hmem).symm.imp_left (hfraction c)
    · simp [count_point hwhole, count_point hfraction]
    · rw [List.mem_append] at hmem ⊢
      exact hmem.imp_right (List.mem_cons_of_mem _)

/-- **The numbers that are read** among digits and points. -/
theorem number?_isSome_iff (h : ∀ c ∈ number, isNumeral c = true) :
    (number? number).isSome = true ↔ IsNumber number := by
  obtain ⟨whole, tail, rfl, hwhole, htail⟩ : ∃ whole tail, number = whole ++ tail ∧
      (∀ c ∈ whole, c.isDigit = true) ∧ ∀ c ∈ tail.head?, c.isDigit = false := by
    refine ⟨_, _, List.takeWhile_append_dropWhile.symm, fun c => List.mem_takeWhile_imp, ?_⟩
    intro c hc
    have hnot := List.head?_dropWhile_not Char.isDigit number
    rw [Option.mem_def.mp hc] at hnot
    simpa using hnot
  rw [number?_append hwhole htail]
  cases tail with
  | nil =>
    rw [List.append_nil, isNumber_digits_iff hwhole]
    simp
  | cons point fraction =>
    -- what ends the digits is a point
    obtain rfl : point = '.' := by
      have hpoint := isNumeral_iff.mp (h point (by simp))
      simpa [htail point rfl] using hpoint
    exact (isNumber_point_iff hwhole).symm

/-- **The units that are read.** -/
theorem unit?_isSome_iff : (unit? unit).isSome = true ↔ unit ∈ unitNames := by
  constructor
  · intro hsome
    unfold unit? at hsome
    split at hsome
    case h_9 => cases hsome
    all_goals
      next hname =>
        have hchars := congrArg String.toList hname
        rw [String.toList_ofList] at hchars
        simp [hchars, unitNames]
  · intro hmem
    simp only [unitNames, List.mem_cons, List.not_mem_nil, or_false] at hmem
    rcases hmem with rfl | rfl | rfl | rfl | rfl | rfl | rfl | rfl <;> rfl

/-! ## Rounds -/

/-- The number that a round takes off, which may be missing. -/
def frontNumber (chars : List Char) : List Char :=
  chars.takeWhile isNumeral

/-- What a round takes off after the number. -/
def frontUnit (chars : List Char) : List Char :=
  (chars.dropWhile isNumeral).takeWhile fun c => !isNumeral c

/-- What a round leaves. -/
def afterRound (chars : List Char) : List Char :=
  (chars.dropWhile isNumeral).dropWhile fun c => !isNumeral c

theorem front_append (chars : List Char) :
    frontNumber chars ++ (frontUnit chars ++ afterRound chars) = chars := by
  rw [frontNumber, frontUnit, afterRound, List.takeWhile_append_dropWhile,
    List.takeWhile_append_dropWhile]

/-- **A round** takes off a number and what stands before the next one. -/
theorem segments_eq (h : chars ≠ []) :
    segments chars = (frontNumber chars, frontUnit chars) :: segments (afterRound chars) := by
  unfold frontNumber frontUnit afterRound
  induction chars with
  | nil => exact absurd rfl h
  | cons c rest ih =>
    rw [segments]
    cases rest with
    | nil => cases hc : isNumeral c <;> simp [hc, segments]
    | cons d rest =>
      rw [ih (List.cons_ne_nil d rest)]
      cases hc : isNumeral c with
      | true => simp [hc]
      | false =>
        -- a number that follows begins another round
        cases hd : isNumeral d with
        | true => simp [hc, hd, ih]
        | false => simp [hc, hd]

/-- Every round leaves a shorter text. -/
theorem length_afterRound_lt (h : chars ≠ []) : (afterRound chars).length < chars.length := by
  obtain ⟨c, rest, rfl⟩ := List.exists_cons_of_ne_nil h
  rw [afterRound, List.length_cons, Nat.lt_succ_iff]
  cases hc : isNumeral c with
  | true =>
    rw [List.dropWhile_cons_of_pos hc]
    exact ((List.dropWhile_suffix _).trans (List.dropWhile_suffix _)).length_le
  | false =>
    rw [List.dropWhile_cons_of_neg (by simp [hc]), List.dropWhile_cons_of_pos (by simp [hc])]
    exact (List.dropWhile_suffix _).length_le

/-- What holds at the end of a text, and before a round if it holds after it, holds of all texts. -/
@[elab_as_elim]
theorem roundInduction {motive : List Char → Prop} (nil : motive [])
    (round : ∀ chars, chars ≠ [] → motive (afterRound chars) → motive chars)
    (chars : List Char) : motive chars := by
  induction hlength : chars.length using Nat.strong_induction_on generalizing chars with
  | h length ih =>
    by_cases hne : chars = []
    · exact hne ▸ nil
    · exact round chars hne (ih _ (hlength ▸ length_afterRound_lt hne) _ rfl)

/-- There are no more rounds than characters. -/
theorem length_segments_le (chars : List Char) : (segments chars).length ≤ chars.length := by
  induction chars using roundInduction with
  | nil => exact le_refl _
  | round chars hne ih =>
    have hlt := length_afterRound_lt hne
    rw [segments_eq hne, List.length_cons]
    omega

theorem isNumeral_of_mem_segments {segment : List Char × List Char}
    (h : segment ∈ segments chars) : ∀ c ∈ segment.1, isNumeral c = true := by
  induction chars using roundInduction with
  | nil => cases h
  | round chars hne ih =>
    rw [segments_eq hne] at h
    rcases List.mem_cons.mp h with rfl | hlater
    · exact fun c => List.mem_takeWhile_imp
    · exact ih hlater

/-- A number and a unit before nothing, or before another number, are taken off in one round. -/
theorem segments_append (hnumber : ∀ c ∈ number, isNumeral c = true) (hsome : unit ≠ [])
    (hunit : ∀ c ∈ unit, isNumeral c = false) (hrest : ∀ c ∈ rest.head?, isNumeral c = true) :
    segments (number ++ (unit ++ rest)) = (number, unit) :: segments rest := by
  have hunits : ∀ c ∈ unit, (!isNumeral c) = true := by simpa using hunit
  have hstart : (unit ++ rest).takeWhile isNumeral = [] ∧
      (unit ++ rest).dropWhile isNumeral = unit ++ rest := by
    obtain ⟨c, others, rfl⟩ := List.exists_cons_of_ne_nil hsome
    simp [hunit c List.mem_cons_self]
  have hstop : (rest.takeWhile fun c => !isNumeral c) = [] ∧
      (rest.dropWhile fun c => !isNumeral c) = rest := by
    cases rest with
    | nil => exact ⟨rfl, rfl⟩
    | cons c others => simp [hrest c rfl]
  rw [segments_eq (by simp [hsome]), frontNumber, frontUnit, afterRound,
    List.takeWhile_append_of_pos hnumber, List.dropWhile_append_of_pos hnumber, hstart.1, hstart.2,
    List.takeWhile_append_of_pos hunits, List.dropWhile_append_of_pos hunits, hstop.1, hstop.2,
    List.append_nil, List.append_nil]

/-! ## Rows of segments -/

theorem unit_of_mem (h : unit ∈ unitNames) :
    unit ≠ [] ∧ ∀ c ∈ unit, isNumeral c = false := by
  have hall : unitNames.all (fun name => !name.isEmpty && name.all fun c => !isNumeral c) := by
    decide
  simpa using List.all_eq_true.mp hall unit h

/-- Segments start with a digit or a point. -/
theorem Segmented.head (h : Segmented chars) : ∃ c ∈ chars.head?, isNumeral c = true := by
  have hstart : ∀ {number rest : List Char}, IsNumber number →
      ∃ c ∈ (number ++ rest).head?, isNumeral c = true := by
    intro number rest hnumber
    obtain ⟨c, others, rfl⟩ := List.exists_cons_of_ne_nil hnumber.ne_nil
    exact ⟨c, rfl, hnumber.isNumeral c List.mem_cons_self⟩
  cases h with
  | last hnumber => exact hstart hnumber
  | more hnumber => exact hstart hnumber

/-- A number and a unit that are read. -/
def Sound (segment : List Char × List Char) : Prop :=
  IsNumber segment.1 ∧ segment.2 ∈ unitNames

/-- Segments are taken apart into numbers and units. -/
theorem Segmented.forall_sound (h : Segmented chars) :
    ∀ segment ∈ segments chars, Sound segment := by
  induction h with
  | @last number unit hnumber hunit =>
    obtain ⟨hsome, hunits⟩ := unit_of_mem hunit
    have hround := @segments_append number unit [] hnumber.isNumeral hsome hunits (by simp)
    rw [List.append_nil] at hround
    rw [hround]
    exact List.forall_mem_cons.mpr ⟨⟨hnumber, hunit⟩, by simp [segments]⟩
  | more hnumber hunit hrest ih =>
    obtain ⟨hsome, hunits⟩ := unit_of_mem hunit
    obtain ⟨c, hc, hnumeral⟩ := hrest.head
    have hhead : ∀ d ∈ _, isNumeral d = true := fun d hd => by
      rwa [Option.mem_unique hd hc]
    rw [segments_append hnumber.isNumeral hsome hunits hhead]
    exact List.forall_mem_cons.mpr ⟨⟨hnumber, hunit⟩, ih⟩

/-- What is taken apart into numbers and units is made of segments. -/
theorem segmented_of_forall_sound (hne : chars ≠ [])
    (h : ∀ segment ∈ segments chars, Sound segment) : Segmented chars := by
  induction chars using roundInduction with
  | nil => exact absurd rfl hne
  | round chars _ ih =>
    rw [segments_eq hne] at h
    obtain ⟨⟨hnumber, hunit⟩, hlater⟩ := List.forall_mem_cons.mp h
    have happend := front_append chars
    by_cases hend : afterRound chars = []
    · rw [hend, List.append_nil] at happend
      exact happend ▸ .last hnumber hunit
    · exact happend ▸ .more hnumber hunit (ih hend hlater)

/-! ## Texts that are read -/

theorem exists_addSegment_iff (text : String) (sum : Float) (segment : List Char × List Char) :
    (∃ sum', addSegment text sum segment = .ok sum') ↔
      (number? segment.1).isSome = true ∧ (unit? segment.2).isSome = true := by
  unfold addSegment
  cases number? segment.1 <;> cases unit? segment.2 <;> simp

/-- Segments are added up if all of them have numbers and units that are read. -/
theorem exists_foldlM_iff (text : String) (sum : Float) (row : List (List Char × List Char)) :
    (∃ sum', row.foldlM (addSegment text) sum = .ok sum') ↔
      ∀ segment ∈ row, (number? segment.1).isSome = true ∧ (unit? segment.2).isSome = true := by
  induction row generalizing sum with
  | nil => simp [pure, Except.pure]
  | cons segment row ih =>
    rw [List.forall_mem_cons, ← exists_addSegment_iff text sum, List.foldlM_cons]
    cases hadd : addSegment text sum segment with
    | error failure => simp [bind, Except.bind]
    | ok sum' =>
      simp only [bind, Except.bind, ih, Except.ok.injEq, exists_eq', true_and]

/-- What is taken off in a round has a number and a unit that are read if it is a segment. -/
theorem sound_iff {segment : List Char × List Char} (h : segment ∈ segments chars) :
    (number? segment.1).isSome = true ∧ (unit? segment.2).isSome = true ↔ Sound segment :=
  and_congr (number?_isSome_iff (isNumeral_of_mem_segments h)) unit?_isSome_iff

/-- The characters after a sign. -/
def unsigned (chars : List Char) : List Char :=
  if chars.head? = some '+' then chars.tail else chars

/-- A minus stands where a number should. -/
theorem not_sound_of_minus (h : chars.head? = some '-') :
    ¬ ∀ segment ∈ segments chars, Sound segment := by
  intro hall
  cases chars with
  | nil => cases h
  | cons c rest =>
    obtain rfl := Option.some.inj h
    rw [segments_eq (List.cons_ne_nil _ _)] at hall
    have hnumber : IsNumber (frontNumber ('-' :: rest)) := (hall _ List.mem_cons_self).1
    exact hnumber.ne_nil (List.takeWhile_cons_of_neg (by decide))

/-- What stands after the sign is read if it has nothing but segments. -/
theorem exists_sum_iff (text : String) (chars : List Char) :
    (∃ delay : Delay, (if chars.head? = some '-' then Except.error (Error.negative text)
      else (fun sum => ⟨Decimal.toWord sum⟩) <$> (segments chars).foldlM (addSegment text) 0) =
        .ok delay) ↔ ∀ segment ∈ segments chars, Sound segment := by
  split
  · next hminus => simpa using not_sound_of_minus hminus
  · have hsum := exists_foldlM_iff text 0 (segments chars)
    have hsound : (∀ segment ∈ segments chars, (number? segment.1).isSome = true ∧
        (unit? segment.2).isSome = true) ↔ ∀ segment ∈ segments chars, Sound segment :=
      forall₂_congr fun segment hmem => sound_iff hmem
    rw [← hsound, ← hsum]
    cases (segments chars).foldlM (addSegment text) 0 with
    | error failure => simp [Functor.map, Except.map]
    | ok sum => simp [Functor.map, Except.map]

/-- A text is read if it is a nought, or has nothing but segments after the sign. -/
theorem exists_ofText?_iff (text : String) : (∃ delay, ofText? text = .ok delay) ↔
    (Text.trim text).toList = ['0'] ∨ (Text.trim text).toList ≠ [] ∧
      ∀ segment ∈ segments (unsigned (Text.trim text).toList), Sound segment := by
  unfold ofText?
  split
  · next hnil => simp [hnil]
  · next hnought => simp [hnought]
  · next hsome hnought =>
    rw [or_iff_right hnought, and_iff_right hsome]
    exact exists_sum_iff text (unsigned (Text.trim text).toList)

/-- Nothing but segments stands after the sign of a text that the grammar knows, or nothing at
all. -/
theorem written_or_sign_iff (chars : List Char) : Written chars ∨ chars = ['+'] ↔
    chars = ['0'] ∨ chars ≠ [] ∧ ∀ segment ∈ segments (unsigned chars), Sound segment := by
  constructor
  · rintro (h | rfl)
    · cases h with
      | nought => exact .inl rfl
      | plain h =>
        obtain ⟨c, hc, hnumeral⟩ := h.head
        have hplain : unsigned chars = chars := by
          rw [unsigned, if_neg]
          rintro hsign
          rw [hsign] at hc
          obtain rfl := Option.some.inj hc
          exact absurd hnumeral (by decide)
        rw [hplain]
        refine .inr ⟨?_, h.forall_sound⟩
        rintro rfl
        cases hc
      | signed h => exact .inr ⟨List.cons_ne_nil _ _, h.forall_sound⟩
    · exact .inr ⟨List.cons_ne_nil _ _, fun _ hmem => absurd hmem List.not_mem_nil⟩
  · rintro (rfl | ⟨hne, h⟩)
    · exact .inl .nought
    · obtain ⟨c, rest, rfl⟩ := List.exists_cons_of_ne_nil hne
      by_cases hsign : c = '+'
      · subst hsign
        by_cases hrest : rest = []
        · exact .inr (by rw [hrest])
        · exact .inl (.signed (segmented_of_forall_sound hrest h))
      · have hplain : unsigned (c :: rest) = c :: rest := if_neg (by simpa using hsign)
        rw [hplain] at h
        exact .inl (.plain (segmented_of_forall_sound hne h))

/-- **The texts that are read** are those that write delays once what is blank around them is left
out, and a sign alone. All others are refused. No text takes more rounds than it has characters. -/
theorem reads_iff_written (text : String) :
    ((∃ delay, ofText? text = .ok delay) ↔
      Written (Text.trim text).toList ∨ (Text.trim text).toList = ['+']) ∧
    ((∃ failure, ofText? text = .error failure) ↔
      ¬ (Written (Text.trim text).toList ∨ (Text.trim text).toList = ['+'])) ∧
    ∀ chars, (segments chars).length ≤ chars.length := by
  have hread := (exists_ofText?_iff text).trans (written_or_sign_iff _).symm
  refine ⟨hread, ?_, length_segments_le⟩
  rw [← hread]
  cases ofText? text with
  | error failure => simp
  | ok delay => simp

/-- **A sign alone is read**, as no delay, though it has no segment. -/
theorem sign_alone_read : ofText? "+" = .ok ⟨0⟩ ∧ ¬ Written (Text.trim "+").toList := by
  have hread : ofText? "+" = .ok ⟨0⟩ := by decide +kernel
  have hchars : (Text.trim "+").toList = ['+'] := by decide +kernel
  refine ⟨hread, ?_⟩
  rw [hchars]
  intro hwritten
  cases hwritten with
  | plain h =>
    obtain ⟨c, hc, hnumeral⟩ := h.head
    obtain rfl := Option.some.inj hc
    exact absurd hnumeral (by decide)
  | signed h =>
    obtain ⟨c, hc, -⟩ := h.head
    cases hc

end Understudy.Delay
