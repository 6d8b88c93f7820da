import Mathlib
import Understudy.Text.Spelling

/-!
# The spellings of a key

A key is made of words: small letters and digits, a letter first. It has two conventional spellings,
in which each word after the first is marked, by an underscore in front of it or by a capital. Each
of the two functions on spellings yields one of them from either, so the spellings of a key are the
two that the functions yield from any of them.

## Main definitions

* `Word`: a word of a key
* `inSnake`, `inCamel`: the spellings of a key of some words
* `Conventional`, `SameKey`: the spelling of some words, and two spellings of one key

## Main results

* `Spells.snakeCase_eq`, `Spells.camelCase_eq`: both functions take either spelling
* `sameKey_iff`: one key has one snake spelling
* `SameKey.eq_or`: the spellings of a key are the two that the functions yield
-/

namespace Understudy.Text

/-! ## Letters and digits -/

/-- Whether a character is a small letter or a digit of ASCII. -/
def isSmall (c : Char) : Bool :=
  c.isLower || c.isDigit

section Small

variable {c : Char}

/-- Letters and digits are characters of ASCII, so what is true of them can be decided. -/
theorem exists_of_isAlphanum (h : c.isAlphanum = true) : ∃ code < 128, c = Char.ofNat code := by
  refine ⟨c.toNat, ?_, (Char.ofNat_toNat c).symm⟩
  simp [Char.isAlphanum, Char.isAlpha, Char.isUpper, Char.isLower, Char.isDigit,
    UInt32.le_iff_toNat_le] at h
  omega

theorem isAlphanum_of_isSmall (h : isSmall c = true) : c.isAlphanum = true := by
  rw [isSmall, Bool.or_eq_true] at h
  rw [Char.isAlphanum, Char.isAlpha, Bool.or_eq_true, Bool.or_eq_true]
  exact h.imp_left .inr

theorem exists_of_isSmall (h : isSmall c = true) : ∃ code < 128, c = Char.ofNat code :=
  exists_of_isAlphanum (isAlphanum_of_isSmall h)

theorem isSmall_of_isLower (h : c.isLower = true) : isSmall c = true := by
  rw [isSmall, h, Bool.true_or]

/-- A small letter or a digit is no underscore, and a snake spelling keeps it. -/
theorem keeps_of_isSmall (h : isSmall c = true) :
    c ≠ '_' ∧ isUppercase c = false ∧ lower c = [c] := by
  obtain ⟨code, hcode, rfl⟩ := exists_of_isSmall h
  revert code
  decide

/-- The capital of a small letter is no underscore, and a snake spelling makes it small again. -/
theorem capital_of_isLower (h : c.isLower = true) :
    upper c = [c.toUpper] ∧ c.toUpper ≠ '_' ∧ isUppercase c.toUpper = true ∧
      lower c.toUpper = [c] := by
  obtain ⟨code, hcode, rfl⟩ := exists_of_isSmall (isSmall_of_isLower h)
  revert code
  decide

end Small

/-! ## Words -/

/-- A word of a key: a small letter, and small letters and digits after it. -/
structure Word where
  first : Char
  rest : List Char
  isLower_first : first.isLower = true
  all_rest : rest.all isSmall = true

namespace Word

/-- The characters of a word. -/
def chars (word : Word) : List Char :=
  word.first :: word.rest

/-- The word with a capital in front. -/
def titled (word : Word) : List Char :=
  word.first.toUpper :: word.rest

/-- The word with an underscore in front. -/
def underscored (word : Word) : List Char :=
  '_' :: word.chars

variable (word : Word)

theorem isSmall_rest : ∀ c ∈ word.rest, isSmall c = true :=
  List.all_eq_true.mp word.all_rest

theorem isSmall_chars : ∀ c ∈ word.chars, isSmall c = true :=
  List.forall_mem_cons.mpr ⟨isSmall_of_isLower word.isLower_first, word.isSmall_rest⟩

theorem underscore_notMem_chars : '_' ∉ word.chars := fun hmem =>
  (keeps_of_isSmall (word.isSmall_chars _ hmem)).1 rfl

theorem underscore_notMem_titled : '_' ∉ word.titled := by
  rw [titled, List.mem_cons, not_or]
  refine ⟨(capital_of_isLower word.isLower_first).2.1.symm, fun hmem => ?_⟩
  exact (keeps_of_isSmall (word.isSmall_rest _ hmem)).1 rfl

theorem capitalize_chars : capitalize word.chars = word.titled := by
  rw [chars, capitalize, (capital_of_isLower word.isLower_first).1]
  rfl

theorem snakeTail_of_isSmall {chars : List Char} (h : ∀ c ∈ chars, isSmall c = true) :
    snakeTail chars = chars := by
  induction chars with
  | nil => rfl
  | cons c rest ih =>
    obtain ⟨hc, hrest⟩ := List.forall_mem_cons.mp h
    obtain ⟨-, hupper, hlower⟩ := keeps_of_isSmall hc
    rw [snakeTail, List.flatMap_cons, hupper, hlower, ← snakeTail, ih hrest]
    rfl

theorem snakeTail_underscored : snakeTail word.underscored = word.underscored := by
  have hmark : snakeTail ['_'] = ['_'] := by decide
  have hchars := snakeTail_of_isSmall word.isSmall_chars
  rw [underscored, ← List.singleton_append, snakeTail, List.flatMap_append, ← snakeTail,
    ← snakeTail, hmark, hchars]

theorem snakeTail_titled : snakeTail word.titled = word.underscored := by
  obtain ⟨-, -, hupper, hlower⟩ := capital_of_isLower word.isLower_first
  have hrest := snakeTail_of_isSmall word.isSmall_rest
  rw [titled, snakeTail, List.flatMap_cons, ← snakeTail, hupper, hlower, hrest]
  rfl

end Word

/-! ## Keys of words -/

/-- The key of some words, those after the first one marked. -/
def marked (mark : Word → List Char) : List Word → String
  | [] => ""
  | word :: words => String.ofList (word.chars ++ words.flatMap mark)

/-- The key of some words with underscores between them. -/
def inSnake : List Word → String :=
  marked Word.underscored

/-- The key of some words with a capital in front of each but the first. -/
def inCamel : List Word → String :=
  marked Word.titled

/-- A key is one of the spellings of some words. -/
def Spells (words : List Word) (key : String) : Prop :=
  key = inSnake words ∨ key = inCamel words

/-! ### Snake spellings -/

theorem snakeTail_flatMap (mark : Word → List Char) (words : List Word) :
    snakeTail (words.flatMap mark) = words.flatMap fun word => snakeTail (mark word) :=
  List.flatMap_assoc

theorem snakeCase_marked (mark : Word → List Char) (words : List Word) :
    snakeCase (marked mark words) = marked (fun word => snakeTail (mark word)) words := by
  cases words with
  | nil => rfl
  | cons word words =>
    have hfirst : lower word.first = [word.first] :=
      (keeps_of_isSmall (isSmall_of_isLower word.isLower_first)).2.2
    have hrest := Word.snakeTail_of_isSmall word.isSmall_rest
    rw [marked, marked, snakeCase, String.toList_ofList, Word.chars, List.cons_append]
    simp only [hfirst]
    rw [snakeTail, List.flatMap_append, ← snakeTail, ← snakeTail, hrest, snakeTail_flatMap]
    rfl

/-- **The snake spelling** of either spelling. -/
theorem Spells.snakeCase_eq {words : List Word} {key : String} (h : Spells words key) :
    snakeCase key = inSnake words := by
  rcases h with rfl | rfl
  · rw [inSnake, snakeCase_marked, funext Word.snakeTail_underscored]
  · rw [inCamel, snakeCase_marked, funext Word.snakeTail_titled, inSnake]

/-! ### Camel spellings -/

theorem splitUnderscores_of_notMem {chars : List Char} (h : '_' ∉ chars) :
    splitUnderscores chars = [chars] := by
  induction chars with
  | nil => rfl
  | cons c rest ih =>
    rw [List.mem_cons, not_or] at h
    obtain ⟨hc, hrest⟩ := h
    rw [splitUnderscores, if_neg (Ne.symm hc), ih hrest]

theorem splitUnderscores_append {chars rest : List Char} (h : '_' ∉ chars) :
    splitUnderscores (chars ++ '_' :: rest) = chars :: splitUnderscores rest := by
  induction chars with
  | nil => rfl
  | cons c more ih =>
    rw [List.mem_cons, not_or] at h
    obtain ⟨hc, hmore⟩ := h
    rw [List.cons_append, splitUnderscores, if_neg (Ne.symm hc), ih hmore]

/-- The parts between underscores are the words. -/
theorem splitUnderscores_underscored {chars : List Char} (h : '_' ∉ chars) (words : List Word) :
    splitUnderscores (chars ++ words.flatMap Word.underscored) = chars :: words.map Word.chars := by
  induction words generalizing chars with
  | nil => rw [List.flatMap_nil, List.append_nil, splitUnderscores_of_notMem h, List.map_nil]
  | cons word rest ih =>
    rw [List.flatMap_cons, Word.underscored, List.cons_append, splitUnderscores_append h,
      ih word.underscore_notMem_chars, List.map_cons]

theorem camelCase_inSnake (words : List Word) : camelCase (inSnake words) = inCamel words := by
  cases words with
  | nil => rfl
  | cons word words =>
    have hsplit := splitUnderscores_underscored word.underscore_notMem_chars words
    rw [inSnake, marked, camelCase, String.toList_ofList, hsplit, inCamel, marked]
    simp only [List.flatMap_map, Word.capitalize_chars]

theorem camelCase_inCamel (words : List Word) : camelCase (inCamel words) = inCamel words := by
  cases words with
  | nil => rfl
  | cons word words =>
    have hmarks : '_' ∉ word.chars ++ words.flatMap Word.titled := by
      rw [List.mem_append, List.mem_flatMap, not_or]
      refine ⟨word.underscore_notMem_chars, ?_⟩
      rintro ⟨other, -, hmem⟩
      exact other.underscore_notMem_titled hmem
    rw [inCamel, marked, camelCase, String.toList_ofList, splitUnderscores_of_notMem hmarks]
    simp only [List.flatMap_nil, List.append_nil]

/-- **The camel spelling** of either spelling. -/
theorem Spells.camelCase_eq {words : List Word} {key : String} (h : Spells words key) :
    camelCase key = inCamel words := by
  rcases h with rfl | rfl
  · exact camelCase_inSnake words
  · exact camelCase_inCamel words

/-! ## One key -/

/-- A key is the spelling of some words. -/
def Conventional (key : String) : Prop :=
  ∃ words, Spells words key

/-- Two keys are spellings of the same words. -/
def SameKey (a b : String) : Prop :=
  ∃ words, Spells words a ∧ Spells words b

variable {a b c : String}

/-- Two spellings are of one key exactly if their snake spellings are the same. -/
theorem sameKey_iff (ha : Conventional a) (hb : Conventional b) :
    SameKey a b ↔ snakeCase a = snakeCase b := by
  constructor
  · rintro ⟨words, ha, hb⟩
    rw [ha.snakeCase_eq, hb.snakeCase_eq]
  · intro heq
    obtain ⟨words, ha⟩ := ha
    obtain ⟨words', hb⟩ := hb
    rw [ha.snakeCase_eq, hb.snakeCase_eq] at heq
    -- the words are spelled alike in camel case too
    refine ⟨words, ha, ?_⟩
    rw [Spells, heq, ← camelCase_inSnake words, heq, camelCase_inSnake]
    exact hb

namespace SameKey

theorem left (h : SameKey a b) : Conventional a :=
  h.imp fun _ => And.left

theorem right (h : SameKey a b) : Conventional b :=
  h.imp fun _ => And.right

theorem snakeCase_eq (h : SameKey a b) : snakeCase a = snakeCase b :=
  (sameKey_iff h.left h.right).mp h

theorem symm (h : SameKey a b) : SameKey b a :=
  h.imp fun _ => And.symm

theorem trans (h : SameKey a b) (h' : SameKey b c) : SameKey a c :=
  (sameKey_iff h.left h'.right).mpr (h.snakeCase_eq.trans h'.snakeCase_eq)

/-- **The spellings of a key** are the two that the functions yield. -/
theorem eq_or (h : SameKey a b) : b = camelCase a ∨ b = snakeCase a := by
  obtain ⟨words, ha, hb⟩ := h
  rw [ha.camelCase_eq, ha.snakeCase_eq]
  exact hb.symm

end SameKey

theorem Conventional.sameKey_self (h : Conventional a) : SameKey a a :=
  h.imp fun _ ha => ⟨ha, ha⟩

theorem Conventional.sameKey_camelCase (h : Conventional a) : SameKey a (camelCase a) := by
  obtain ⟨words, ha⟩ := h
  exact ⟨words, ha, .inr ha.camelCase_eq⟩

theorem Conventional.sameKey_snakeCase (h : Conventional a) : SameKey a (snakeCase a) := by
  obtain ⟨words, ha⟩ := h
  exact ⟨words, ha, .inl ha.snakeCase_eq⟩

end Understudy.Text
