import Mathlib
import Understudy.Proofs.Predicate.Respelling

/-!
# Keys in either spelling

A snake key is made of words with underscores between them, a camel key of letters and digits with a
small letter in front. Every capital of a camel key starts a word, also within a run of capitals, so
the camel keys are the camel spellings of one or more words, as the snake keys are their snake
spellings. The two functions on spellings lead from the one to the other and back again. In a
message that has one field of a key, the field is thus found under either spelling.

## Main definitions

* `SnakeKey`, `CamelKey`: the keys that are spelled in the one and in the other way
* `spellings`: the two spellings of a key

## Main results

* `camelKey_iff`: the camel keys are the camel spellings of words
* `tolerant?_eq_of_only`: the only field of a key is found under either spelling
* `spellings_inverse`: the functions undo each other, and the only field of a key is found
-/

namespace Understudy.Text

/-! ## Capitals -/

section Letters

variable {c : Char}

theorem isAlphanum_toUpper (h : c.isLower = true) : c.toUpper.isAlphanum = true := by
  obtain ⟨code, hcode, rfl⟩ := exists_of_isSmall (isSmall_of_isLower h)
  revert code
  decide

/-- A letter or a digit stands within a word or is the capital of a small letter. -/
theorem isSmall_or_exists_toUpper_eq (h : c.isAlphanum = true) :
    isSmall c = true ∨ ∃ small : Char, small.isLower = true ∧ small.toUpper = c := by
  have hcases : isSmall c = true ∨ c.toLower.isLower = true ∧ c.toLower.toUpper = c := by
    obtain ⟨code, hcode, rfl⟩ := exists_of_isAlphanum h
    revert code
    decide
  exact hcases.imp_right fun hcapital => ⟨c.toLower, hcapital⟩

end Letters

/-! ## Snake keys and camel keys -/

/-- A key of one or more words with underscores between them. -/
def SnakeKey (key : String) : Prop :=
  ∃ word words, key = inSnake (word :: words)

/-- A key of letters and digits of ASCII, a small letter in front. -/
structure CamelKey (key : String) : Prop where
  all_isAlphanum : key.toList.all Char.isAlphanum = true
  isLower_first : key.toList.head?.any Char.isLower = true

/-- Letters and digits are the end of a word and words with a capital in front. -/
theorem exists_eq_append_titled (chars : List Char) (h : ∀ c ∈ chars, c.isAlphanum = true) :
    ∃ (small : List Char) (words : List Word),
      small.all isSmall = true ∧ chars = small ++ words.flatMap Word.titled := by
  induction chars with
  | nil => exact ⟨[], [], rfl, rfl⟩
  | cons c rest ih =>
    obtain ⟨hc, hrest⟩ := List.forall_mem_cons.mp h
    obtain ⟨small, words, hsmall, rfl⟩ := ih hrest
    rcases isSmall_or_exists_toUpper_eq hc with hc | ⟨first, hfirst, rfl⟩
    · exact ⟨c :: small, words, by rw [List.all_cons, hc, hsmall, Bool.true_and], rfl⟩
    · -- the word that the capital starts takes up what was the end of a word
      exact ⟨[], ⟨first, small, hfirst, hsmall⟩ :: words, rfl, rfl⟩

theorem Word.isAlphanum_chars (word : Word) : ∀ c ∈ word.chars, c.isAlphanum = true :=
  fun c hmem => isAlphanum_of_isSmall (word.isSmall_chars c hmem)

theorem Word.isAlphanum_titled (word : Word) : ∀ c ∈ word.titled, c.isAlphanum = true :=
  List.forall_mem_cons.mpr ⟨isAlphanum_toUpper word.isLower_first,
    fun c hmem => isAlphanum_of_isSmall (word.isSmall_rest c hmem)⟩

variable {key spelling : String}

theorem CamelKey.exists_eq_inCamel (h : CamelKey key) :
    ∃ word words, key = inCamel (word :: words) := by
  obtain ⟨hall, hfirst⟩ := h
  cases hkey : key.toList with
  | nil =>
    rw [hkey] at hfirst
    cases hfirst
  | cons first rest =>
    rw [hkey, List.head?_cons, Option.any_some] at hfirst
    rw [hkey, List.all_eq_true] at hall
    -- the first word ends where the first capital stands
    obtain ⟨small, words, hsmall, rfl⟩ :=
      exists_eq_append_titled rest (List.forall_mem_cons.mp hall).2
    refine ⟨⟨first, small, hfirst, hsmall⟩, words, ?_⟩
    rw [← String.toList_inj, hkey, inCamel, marked, String.toList_ofList]
    rfl

theorem camelKey_inCamel (word : Word) (words : List Word) :
    CamelKey (inCamel (word :: words)) := by
  have hkey : (inCamel (word :: words)).toList = word.chars ++ words.flatMap Word.titled := by
    rw [inCamel, marked, String.toList_ofList]
  constructor
  · rw [hkey, List.all_eq_true]
    intro c hmem
    rcases List.mem_append.mp hmem with hmem | hmem
    · exact word.isAlphanum_chars c hmem
    · obtain ⟨other, -, hmem⟩ := List.mem_flatMap.mp hmem
      exact other.isAlphanum_titled c hmem
  · rw [hkey]
    exact word.isLower_first

/-- **The camel keys** are the camel spellings of one or more words. -/
theorem camelKey_iff : CamelKey key ↔ ∃ word words, key = inCamel (word :: words) := by
  constructor
  · exact CamelKey.exists_eq_inCamel
  · rintro ⟨word, words, rfl⟩
    exact camelKey_inCamel word words

theorem SnakeKey.conventional (h : SnakeKey key) : Conventional key := by
  obtain ⟨word, words, hkey⟩ := h
  exact ⟨word :: words, .inl hkey⟩

theorem CamelKey.conventional (h : CamelKey key) : Conventional key := by
  obtain ⟨word, words, hkey⟩ := camelKey_iff.mp h
  exact ⟨word :: words, .inr hkey⟩

/-! ### From one to the other -/

theorem SnakeKey.camelKey_camelCase (h : SnakeKey key) : CamelKey (camelCase key) := by
  obtain ⟨word, words, rfl⟩ := h
  exact camelKey_iff.mpr ⟨word, words, camelCase_inSnake _⟩

theorem SnakeKey.snakeCase_camelCase (h : SnakeKey key) : snakeCase (camelCase key) = key := by
  obtain ⟨word, words, rfl⟩ := h
  rw [camelCase_inSnake, Spells.snakeCase_eq (.inr rfl)]

theorem CamelKey.snakeKey_snakeCase (h : CamelKey key) : SnakeKey (snakeCase key) := by
  obtain ⟨word, words, rfl⟩ := camelKey_iff.mp h
  exact ⟨word, words, Spells.snakeCase_eq (.inr rfl)⟩

theorem CamelKey.camelCase_snakeCase (h : CamelKey key) : camelCase (snakeCase key) = key := by
  obtain ⟨word, words, rfl⟩ := camelKey_iff.mp h
  rw [Spells.snakeCase_eq (.inr rfl), camelCase_inSnake]

/-! ## The two spellings -/

/-- The spellings of a key. -/
def spellings (key : String) : List String :=
  [camelCase key, snakeCase key]

theorem mem_spellings_iff (h : Conventional key) :
    spelling ∈ spellings key ↔ SameKey key spelling := by
  rw [spellings, List.mem_pair]
  constructor
  · rintro (rfl | rfl)
    · exact h.sameKey_camelCase
    · exact h.sameKey_snakeCase
  · exact SameKey.eq_or

/-- **The only field of a key** is found in a message under either spelling. -/
theorem tolerant?_eq_of_only {message : Fields} {entry : String × Json} (h : Conventional key)
    (hmem : entry ∈ message) (hentry : entry.1 ∈ spellings key)
    (honly : ∀ other ∈ message, other.1 ∈ spellings key → other = entry)
    (hspelling : spelling ∈ spellings key) : tolerant? message spelling = some entry.2 := by
  rw [mem_spellings_iff h] at hentry hspelling
  have hsome := WellSpelled.isSome_tolerant? (hspelling.symm.trans hentry) hmem
  obtain ⟨value, hvalue⟩ := Option.isSome_iff_exists.mp hsome
  -- what is found is a field of the key, and there is only one
  obtain ⟨found, hfound, hmem'⟩ := WellSpelled.mem_of_tolerant? hspelling.right hvalue
  have heq := honly _ hmem' ((mem_spellings_iff h).mpr (hspelling.trans hfound))
  rw [hvalue, ← heq]

/-- **The two spellings determine each other.** The camel case of a snake key is a camel key, whose
snake case is the snake key again; the snake case of a camel key is a snake key, whose camel case is
the camel key again. If a message has one field of such a key, it is found under either spelling,
whichever it stands under. -/
theorem spellings_inverse (key : String) :
    (SnakeKey key → CamelKey (camelCase key) ∧ snakeCase (camelCase key) = key) ∧
    (CamelKey key → SnakeKey (snakeCase key) ∧ camelCase (snakeCase key) = key) ∧
    (SnakeKey key ∨ CamelKey key → key ∈ spellings key ∧
      ∀ message : Fields, ∀ entry ∈ message, entry.1 ∈ spellings key →
        (∀ other ∈ message, other.1 ∈ spellings key → other = entry) →
        ∀ wanted ∈ spellings key, tolerant? message wanted = some entry.2) := by
  refine ⟨fun h => ⟨h.camelKey_camelCase, h.snakeCase_camelCase⟩,
    fun h => ⟨h.snakeKey_snakeCase, h.camelCase_snakeCase⟩, fun h => ?_⟩
  have hkey : Conventional key := h.elim SnakeKey.conventional CamelKey.conventional
  refine ⟨(mem_spellings_iff hkey).mpr hkey.sameKey_self, ?_⟩
  intro message entry hmem hentry honly wanted hwanted
  exact tolerant?_eq_of_only hkey hmem hentry honly hwanted

/-- A message with one field of a key, under its snake spelling. -/
def account : Fields :=
  [("label", .str "ink"), ("user_i_d2", .int 7)]

/-- Each capital of a run is a word, the last one with a digit after it. -/
theorem spellings_inverse_account :
    SnakeKey "user_i_d2" ∧ snakeCase (camelCase "user_i_d2") = "user_i_d2" ∧
    CamelKey "userID2" ∧ camelCase (snakeCase "userID2") = "userID2" ∧
    ("user_i_d2", .int 7) ∈ account ∧
    (∀ other ∈ account, other.1 ∈ spellings "userID2" → other = ("user_i_d2", .int 7)) ∧
    tolerant? account "userID2" = some (.int 7) := by
  have hsnake : SnakeKey "user_i_d2" :=
    ⟨⟨'u', "ser".toList, by decide, by decide⟩,
      [⟨'i', [], by decide, by decide⟩, ⟨'d', ['2'], by decide, by decide⟩], by decide⟩
  have hcamel : CamelKey "userID2" := ⟨by decide, by decide⟩
  have hspellings : spellings "userID2" = ["userID2", "user_i_d2"] := by decide
  have honly : ∀ other ∈ account, other.1 ∈ spellings "userID2" →
      other = ("user_i_d2", .int 7) := by
    simp [account, hspellings]
  have hmem : ("user_i_d2", .int 7) ∈ account := by simp [account]
  have hfound := ((spellings_inverse "userID2").2.2 (.inr hcamel)).2 account _ hmem
    (by simp [hspellings]) honly "userID2" (by simp [hspellings])
  exact ⟨hsnake, ((spellings_inverse _).1 hsnake).2, hcamel, ((spellings_inverse _).2.1 hcamel).2,
    hmem, honly, hfound⟩

/-- A digit has no capital, so a part that starts with one is not a word: it is joined to the word
in front of it. -/
example : snakeCase (camelCase "line_2") = "line2" := by decide

end Understudy.Text
