import Understudy.Proofs.Predicate.Satisfaction

/-!
# The predicates of calls and those of queries

The same predicates are put to the messages of queries and to those of calls, by two walks of their
own. The one for calls looks a wanted field up under either spelling of its key, passes a predicate
that wants nothing at once, and takes a map that is not there for an empty one. Only the first of
these can make a difference: both walks satisfy a predicate by the same maps and alternatives, each
with its own way to find fields. So the walk for calls lets pass all that the one for queries does,
and where the lookups agree on the wanted keys, nothing more.

## Main results

* `tolerant?_eq_find?_iff`: when a key is looked up alike in queries and in calls
* `Predicate.tolerates_relaxes_accepts`: calls accept what queries accept, and the same where the
  wanted keys are looked up alike
-/

namespace Understudy

section Lookups

variable {message : Fields} {key : String}

/-- **A key is looked up alike** in queries and in calls if the message has it, or has it in no
spelling. -/
theorem tolerant?_eq_find?_iff :
    tolerant? message key = message.find? key ↔
      (message.find? key = none →
        message.find? (Text.camelCase key) = none ∧ message.find? (Text.snakeCase key) = none) := by
  rw [tolerant?]
  cases message.find? key with
  | none => simp
  | some value => simp

/-- A key that the message has is looked up alike. -/
theorem tolerant?_eq_find?_of_has (h : message.has key = true) :
    tolerant? message key = message.find? key := by
  refine tolerant?_eq_find?_iff.mpr fun hnone => ?_
  rw [Table.has, hnone] at h
  cases h

/-- A key that is its own spelling in either way is looked up alike in every message. -/
theorem tolerant?_eq_find?_of_spelled (hcamel : Text.camelCase key = key)
    (hsnake : Text.snakeCase key = key) : tolerant? message key = message.find? key := by
  refine tolerant?_eq_find?_iff.mpr fun hnone => ?_
  rw [hcamel, hsnake]
  exact ⟨hnone, hnone⟩

end Lookups

namespace Predicate

variable {oracle : Oracle} {predicate : Predicate} {find? find?' : String → Option Json}

/-- A predicate is satisfied under any two ways to find fields that agree on the wanted ones. -/
theorem satisfied_congr (h : ∀ key, predicate.Wants key → find? key = find?' key) :
    predicate.Satisfied oracle find? ↔ predicate.Satisfied oracle find?' := by
  constructor
  · intro hsatisfied
    exact hsatisfied.mono fun key hwants value hvalue => h key hwants ▸ hvalue
  · intro hsatisfied
    exact hsatisfied.mono fun key hwants value hvalue => (h key hwants).symm ▸ hvalue

/-- **Calls relax queries.** A message that satisfies a predicate for a query satisfies it in a
call. If every key that the predicate wants, be it in an alternative of whatever depth, is looked up
in the message alike under either spelling and as it is, the message satisfies the predicate in both
or in neither. -/
theorem tolerates_relaxes_accepts (oracle : Oracle) (predicate : Predicate) (message : Fields) :
    ((predicate.accepts message).evalBy oracle = true →
      (predicate.tolerates message).evalBy oracle = true) ∧
    ((∀ key, predicate.Wants key → tolerant? message key = message.find? key) →
      (predicate.tolerates message).evalBy oracle = (predicate.accepts message).evalBy oracle) := by
  constructor
  · exact evalBy_tolerates_of_accepts predicate
  · intro hlookup
    rw [Bool.eq_iff_iff, ← satisfied_iff_tolerates, ← satisfied_iff_accepts]
    exact satisfied_congr hlookup

/-- A predicate wants the keys of its maps and those that its alternatives want. -/
theorem wants_iff {key : String} :
    predicate.Wants key ↔ key ∈ predicate.maps.flatMap (fun want => want.map Prod.fst) ∨
      ∃ alternative ∈ predicate.anyOf, alternative.Wants key := by
  simp only [List.mem_flatMap, List.mem_map]
  constructor
  · rintro (⟨hwant, hmem⟩ | ⟨hmem, hwants⟩)
    · exact .inl ⟨_, hwant, _, hmem, rfl⟩
    · exact .inr ⟨_, hmem, hwants⟩
  · rintro (⟨want, hwant, entry, hmem, rfl⟩ | ⟨alternative, hmem, hwants⟩)
    · exact .field hwant hmem
    · exact .alternative hmem hwants

theorem wants_iff_of_anyOf_eq_nil {key : String} (hnone : predicate.anyOf = []) :
    predicate.Wants key ↔ key ∈ predicate.maps.flatMap (fun want => want.map Prod.fst) := by
  rw [wants_iff, hnone]
  simp

/-! ## A message that has one of two names -/

namespace Owned

/-- The name of an owner, as an alternative of its own. -/
def byOwner : Predicate where
  anyOf := [{ equalTo := some [("ownerName", .str "Ann")] }]

/-- An item, and the name of a shop or of an owner. -/
def item : Predicate where
  containing := some [("item", .str "pen")]
  anyOf := [{ equalTo := some [("shop_name", .str "Nib")] }, byOwner]

/-- A message that has the name of an owner as it is wanted, and no name of a shop. -/
def message : Fields := [("item", .str "red pen"), ("ownerName", .str "Ann")]

theorem lookup_eq {key : String} (h : item.Wants key) :
    tolerant? message key = message.find? key := by
  have hitem : tolerant? message "item" = message.find? "item" :=
    tolerant?_eq_find?_of_spelled (by decide +kernel) (by decide +kernel)
  have howner : tolerant? message "ownerName" = message.find? "ownerName" :=
    tolerant?_eq_find?_of_has rfl
  have hshop : tolerant? message "shop_name" = message.find? "shop_name" :=
    tolerant?_eq_find?_iff.mpr fun _ => by decide +kernel
  rcases wants_iff.mp h with hkey | ⟨alternative, hmem, h⟩
  · obtain rfl := List.mem_singleton.mp hkey
    exact hitem
  · rcases List.mem_pair.mp hmem with rfl | rfl
    · obtain rfl := List.mem_singleton.mp ((wants_iff_of_anyOf_eq_nil rfl).mp h)
      exact hshop
    · obtain hkey | ⟨owner, hmem, h⟩ := wants_iff.mp h
      · cases hkey
      · obtain rfl := List.mem_singleton.mp hmem
        obtain rfl := List.mem_singleton.mp ((wants_iff_of_anyOf_eq_nil rfl).mp h)
        exact howner

end Owned

/-- The alternative of an alternative holds, and each wanted key is looked up alike. -/
theorem tolerates_relaxes_accepts_owned :
    (Owned.item.tolerates Owned.message).evalBy .standard = true ∧
      (Owned.item.tolerates Owned.message).evalBy .standard =
        (Owned.item.accepts Owned.message).evalBy .standard := by
  obtain ⟨hrelaxed, halike⟩ := tolerates_relaxes_accepts .standard Owned.item Owned.message
  exact ⟨hrelaxed (by decide), halike fun _ => Owned.lookup_eq⟩

-- a message with the wanted key in the other spelling satisfies the predicate in a call only
example :
    (Owned.byOwner.tolerates [("owner_name", .str "Ann")]).eval = true ∧
      (Owned.byOwner.accepts [("owner_name", .str "Ann")]).eval = false := by decide +kernel

end Predicate

end Understudy
