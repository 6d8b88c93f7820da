import Mathlib
import Understudy.Proofs.Memo.Requests

/-!
# What the caches remember

Each of the two caches is asked for the values of keys. What it remembers is described by the keys
that it has been asked for alone: of those that have a value, the different ones that were asked for
last, as many as there is room for, the most recent one first. A request keeps this description,
whether it is answered from the cache, computed and remembered, or has no value; so it holds after
every row of requests, and after every computation.

## Main definitions

* `latest`: the different keys of a row that come last
* `Recency.ask`: a request for the value of a key
* `Recency.Remembers`: a cache remembers the latest keys with their values
* `Caches.after`: the caches after some requests to them
* `Caches.Remember`: both caches remember the latest texts

## Main results

* `latest_concat`: one more key comes to the front
* `Recency.Remembers.ask`: a request keeps what a cache remembers up to date
* `Caches.Remember.after`: a row of requests keeps both caches up to date
* `Caches.latest_remembered`: the caches remember the latest texts, and answer them
* `Consult.runBy_remember`: so they do after a computation
-/

namespace Understudy

/-! ## The latest keys -/

section Latest

variable {κ : Type} [DecidableEq κ]

/-- The different keys of a row that come last in it, the last one first, and no more than there is
room for. -/
def latest (room : ℕ) (keys : List κ) : List κ :=
  keys.dedup.reverse.take room

variable {room : ℕ} {keys : List κ} {key : κ}

theorem mem_of_mem_latest (h : key ∈ latest room keys) : key ∈ keys :=
  List.mem_dedup.mp (List.mem_reverse.mp (List.mem_of_mem_take h))

/-- Of a key that occurs again, the last place counts. -/
theorem dedup_concat (keys : List κ) (key : κ) :
    (keys ++ [key]).dedup = keys.dedup.filter (· ≠ key) ++ [key] := by
  induction keys with
  | nil => rfl
  | cons first rest ih =>
    rw [List.cons_append]
    by_cases hrest : first ∈ rest
    · rw [List.dedup_cons_of_mem hrest, List.dedup_cons_of_mem (List.mem_append_left _ hrest), ih]
    · rw [List.dedup_cons_of_notMem hrest]
      by_cases hkey : first = key
      · subst hkey
        rw [List.dedup_cons_of_mem (by simp), ih, List.filter_cons_of_neg (by simp)]
      · rw [List.dedup_cons_of_notMem (by simp [hrest, hkey]), ih,
          List.filter_cons_of_pos (by simpa using hkey), List.cons_append]

/-- A key that is taken out makes room for one more key only. -/
theorem take_filter_take (h : keys.Nodup) (key : κ) (room : ℕ) :
    ((keys.take (room + 1)).filter (· ≠ key)).take room = (keys.filter (· ≠ key)).take room := by
  induction keys generalizing room with
  | nil => simp
  | cons first rest ih =>
    obtain ⟨hfirst, hrest⟩ := List.nodup_cons.mp h
    rw [List.take_succ_cons]
    by_cases hkey : first = key
    · -- the key occurs here and nowhere later
      subst hkey
      have hkeep : ∀ some ∈ rest, decide (some ≠ first) = true := by
        intro some hmem
        exact decide_eq_true fun heq => hfirst (heq ▸ hmem)
      rw [List.filter_cons_of_neg (by simp), List.filter_cons_of_neg (by simp),
        List.filter_eq_self.mpr hkeep,
        List.filter_eq_self.mpr fun some hmem => hkeep some (List.mem_of_mem_take hmem),
        List.take_take, Nat.min_self]
    · rw [List.filter_cons_of_pos (by simpa using hkey),
        List.filter_cons_of_pos (by simpa using hkey)]
      cases room with
      | zero => rfl
      | succ room => rw [List.take_succ_cons, List.take_succ_cons, ih hrest]

/-- One more key comes to the front, and is taken from where it was. -/
theorem latest_concat (room : ℕ) (keys : List κ) (key : κ) :
    latest room (keys ++ [key]) = (key :: (latest room keys).filter (· ≠ key)).take room := by
  rw [latest, dedup_concat, List.reverse_append, List.reverse_singleton, List.singleton_append,
    ← List.filter_reverse]
  cases room with
  | zero => rfl
  | succ room =>
    have hnodup : keys.dedup.reverse.Nodup := List.nodup_reverse.mpr keys.nodup_dedup
    rw [List.take_succ_cons, List.take_succ_cons, latest, take_filter_take hnodup]

end Latest

/-! ## Requests to a cache -/

namespace Recency

variable {κ α : Type} [DecidableEq κ]

/-- Asks for the value of a key. One that is not remembered is computed, and remembered from then on
if there is one. -/
def ask (compute : κ → Option α) (cache : Recency κ α) (key : κ) : Option α × Recency κ α :=
  match cache.touch key with
  | some (value, cache) => (some value, cache)
  | none =>
    match compute key with
    | some value => (some value, cache.put key value)
    | none => (none, cache)

theorem keys_put (cache : Recency κ α) (key : κ) (value : α) :
    (cache.put key value).keys =
      (key :: cache.keys.filter (· ≠ key)).take cache.capacity := by
  simp only [keys, put, without, List.map_take, List.map_cons, List.filter_map]
  rfl

/-- A key is looked up successfully if it is among the keys. -/
theorem isSome_touch (cache : Recency κ α) (key : κ) :
    (cache.touch key).isSome = true ↔ key ∈ cache.keys := by
  simp [touch, find?, keys]

/-- A cache remembers the latest of the keys that it has been asked for and that have values, and
their values. -/
structure Remembers (compute : κ → Option α) (room : ℕ) (asked : List κ)
    (cache : Recency κ α) : Prop where
  capacity : cache.capacity = room
  keys : cache.keys = latest room (asked.filter fun key => (compute key).isSome)
  values : ∀ entry ∈ cache.entries, compute entry.1 = some entry.2

namespace Remembers

variable {compute : κ → Option α} {room : ℕ} {asked : List κ} {cache : Recency κ α} {key : κ}
  {value : α}

theorem ofCapacity (compute : κ → Option α) (capacity : ℕ) :
    (Recency.ofCapacity capacity).Remembers compute (max capacity 1) [] where
  capacity := rfl
  keys := by simp [Recency.keys, Recency.ofCapacity, latest]
  values := fun _ hmem => absurd hmem List.not_mem_nil

/-- A key that has no value is not remembered. -/
theorem touch_eq_none (h : cache.Remembers compute room asked) (hnone : compute key = none) :
    cache.touch key = none := by
  rw [← Option.not_isSome_iff_eq_none, isSome_touch, h.keys]
  intro hmem
  have hsome := (List.mem_filter.mp (mem_of_mem_latest hmem)).2
  simp [hnone] at hsome

/-- A request for a key that has no value changes nothing. -/
theorem ask_of_eq_none (h : cache.Remembers compute room asked) (hnone : compute key = none) :
    cache.ask compute key = (none, cache) := by
  rw [Recency.ask, h.touch_eq_none hnone, hnone]

/-- With its value put in front, a key is the latest one. -/
theorem put (h : cache.Remembers compute room asked) (hvalue : compute key = some value) :
    (cache.put key value).Remembers compute room (asked ++ [key]) where
  capacity := h.capacity
  keys := by
    have hasked : (asked ++ [key]).filter (fun key => (compute key).isSome) =
        asked.filter (fun key => (compute key).isSome) ++ [key] := by
      simp [hvalue]
    rw [hasked, latest_concat, keys_put, h.keys, h.capacity]
  values := by
    intro entry hmem
    rcases mem_put hmem with rfl | hmem
    · exact hvalue
    · exact h.values entry hmem

/-- **A request** yields the value of its key, and the cache remembers the latest keys after it. -/
theorem ask (h : cache.Remembers compute room asked) (key : κ) :
    (cache.ask compute key).1 = compute key ∧
      (cache.ask compute key).2.Remembers compute room (asked ++ [key]) := by
  cases hcompute : compute key with
  | none =>
    rw [h.ask_of_eq_none hcompute]
    refine ⟨rfl, h.capacity, ?_, h.values⟩
    have hasked : (asked ++ [key]).filter (fun key => (compute key).isSome) =
        asked.filter (fun key => (compute key).isSome) := by
      simp [hcompute]
    rw [hasked]
    exact h.keys
  | some value =>
    -- remembered or computed, it is the same value that is put in front
    have hask : cache.ask compute key = (some value, cache.put key value) := by
      rw [Recency.ask, hcompute]
      cases htouch : cache.touch key with
      | none => rfl
      | some touched =>
        obtain ⟨value', hfind, rfl⟩ := Option.map_eq_some_iff.mp htouch
        have hsame := h.values _ (mem_of_find? hfind)
        rw [hcompute, Option.some.injEq] at hsame
        rw [hsame]
    rw [hask]
    exact ⟨rfl, h.put hcompute⟩

end Remembers

end Recency

/-! ## Requests to both caches -/

namespace Request

/-- The text whose pattern is asked for. -/
def source? : Request → Option String
  | pattern source => some source
  | digest _ => none

/-- The text whose digest is asked for. -/
def text? : Request → Option String
  | pattern _ => none
  | digest text => some text

end Request

namespace Caches

variable {oracle : Oracle} {caches : Caches} {patterns digests : ℕ} {requests : List Request}

/-- The caches after a request. -/
def afterRequest (oracle : Oracle) (caches : Caches) : Request → Caches
  | .pattern source => (caches.compiledBy oracle source).2
  | .digest text => (caches.digestedBy oracle text).2

/-- The caches after requests, one after the other. -/
def after (oracle : Oracle) (caches : Caches) (requests : List Request) : Caches :=
  requests.foldl (afterRequest oracle) caches

/-- Patterns are asked for of the one cache, which has no value for a text that is no pattern. -/
theorem compiledBy_eq (oracle : Oracle) (caches : Caches) (source : String) :
    caches.compiledBy oracle source =
      ((caches.patterns.ask oracle.compile? source).1,
        { caches with patterns := (caches.patterns.ask oracle.compile? source).2 }) := by
  unfold compiledBy Recency.ask
  cases caches.patterns.touch source with
  | some touched => rfl
  | none => cases oracle.compile? source <;> rfl

/-- Digests are asked for of the other cache, and all texts have one. -/
theorem digestedBy_snd (oracle : Oracle) (caches : Caches) (text : String) :
    (caches.digestedBy oracle text).2 =
      { caches with digests := (caches.digests.ask (some ∘ oracle.digest) text).2 } := by
  unfold digestedBy Recency.ask
  cases caches.digests.touch text <;> rfl

/-- The texts that were asked for as patterns and are patterns. -/
def patternsAsked (oracle : Oracle) (requests : List Request) : List String :=
  (requests.filterMap Request.source?).filter fun source => (oracle.compile? source).isSome

/-- The texts whose digests were asked for. -/
def digestsAsked (requests : List Request) : List String :=
  requests.filterMap Request.text?

/-- Both caches remember the latest texts that they have been asked for. -/
structure Remember (oracle : Oracle) (patterns digests : ℕ) (requests : List Request)
    (caches : Caches) : Prop where
  patterns : caches.patterns.Remembers oracle.compile? (max patterns 1)
    (requests.filterMap Request.source?)
  digests : caches.digests.Remembers (some ∘ oracle.digest) (max digests 1)
    (requests.filterMap Request.text?)

namespace Remember

theorem ofCapacities (oracle : Oracle) (patterns digests : ℕ) :
    (Caches.ofCapacities patterns digests).Remember oracle patterns digests [] where
  patterns := .ofCapacity oracle.compile? patterns
  digests := .ofCapacity (some ∘ oracle.digest) digests

/-- A request concerns one of the caches, and leaves the other as it is. -/
theorem afterRequest (h : caches.Remember oracle patterns digests requests) (request : Request) :
    (caches.afterRequest oracle request).Remember oracle patterns digests
      (requests ++ [request]) := by
  cases request with
  | pattern source =>
    rw [Caches.afterRequest, compiledBy_eq]
    constructor
    · rw [List.filterMap_append]
      exact (h.patterns.ask source).2
    · rw [List.filterMap_append]
      simpa [Request.text?, List.filterMap_cons] using h.digests
  | digest text =>
    rw [Caches.afterRequest, digestedBy_snd]
    constructor
    · rw [List.filterMap_append]
      simpa [Request.source?, List.filterMap_cons] using h.patterns
    · rw [List.filterMap_append]
      exact (h.digests.ask text).2

/-- Caches remember the latest texts after every row of requests. -/
theorem after (h : caches.Remember oracle patterns digests requests) (more : List Request) :
    (caches.after oracle more).Remember oracle patterns digests (requests ++ more) := by
  induction more generalizing caches requests with
  | nil => rwa [List.append_nil]
  | cons request more ih =>
    have hmore := ih (h.afterRequest request)
    rwa [List.append_assoc, List.singleton_append] at hmore

/-- What is remembered is what the oracle answers. -/
theorem sound (h : caches.Remember oracle patterns digests requests) : caches.Sound oracle where
  patterns := h.patterns.values
  digests := fun entry hmem => Option.some.inj (h.digests.values entry hmem)

/-- The texts in the one cache are patterns that were asked for. -/
theorem keys_patterns (h : caches.Remember oracle patterns digests requests) :
    caches.patterns.keys = latest (max patterns 1) (patternsAsked oracle requests) :=
  h.patterns.keys

/-- The other cache leaves out no text, as all have digests. -/
theorem keys_digests (h : caches.Remember oracle patterns digests requests) :
    caches.digests.keys = latest (max digests 1) (digestsAsked requests) := by
  simpa [digestsAsked] using h.digests.keys

end Remember

/-- **The caches remember the latest texts.** After every row of requests, the one cache holds the
different patterns that were asked for last, and the other one the different texts whose digests
were, as many as there is room for, of which there is some even at a capacity of zero. A text is
answered from a cache if it is one of these, and the answer is what the oracle answers. A text that
is no pattern is refused, and leaves the caches as they are. -/
theorem latest_remembered (oracle : Oracle) (patterns digests : ℕ) (requests : List Request) :
    let caches := (Caches.ofCapacities patterns digests).after oracle requests
    caches.patterns.keys = latest (max patterns 1) (patternsAsked oracle requests) ∧
    caches.digests.keys = latest (max digests 1) (digestsAsked requests) ∧
    (∀ source, (caches.patterns.touch source).isSome = true ↔
      source ∈ latest (max patterns 1) (patternsAsked oracle requests)) ∧
    (∀ text, (caches.digests.touch text).isSome = true ↔
      text ∈ latest (max digests 1) (digestsAsked requests)) ∧
    (∀ source, (caches.compiledBy oracle source).1 = oracle.compile? source) ∧
    (∀ text, (caches.digestedBy oracle text).1 = oracle.digest text) ∧
    ∀ source, oracle.compile? source = none → caches.compiledBy oracle source = (none, caches) := by
  intro caches
  have h : caches.Remember oracle patterns digests requests :=
    (Remember.ofCapacities oracle patterns digests).after requests
  refine ⟨h.keys_patterns, h.keys_digests, ?_, ?_, ?_, ?_, ?_⟩
  · intro source
    rw [Recency.isSome_touch, h.keys_patterns]
  · intro text
    rw [Recency.isSome_touch, h.keys_digests]
  · intro source
    exact (h.sound.compiledBy source).1
  · intro text
    exact (h.sound.digestedBy text).1
  · intro source hnone
    rw [compiledBy_eq, h.patterns.ask_of_eq_none hnone]

/-- A pattern that was asked for again stays, the one that was not goes, and what is no pattern makes
no difference; a cache without capacity has room for one digest. -/
theorem latest_remembered_again :
    let requests : List Request := [.pattern "a", .digest "Cart", .pattern "b", .pattern "a",
      .pattern "(", .digest "Add", .pattern "c"]
    let caches := (Caches.ofCapacities 2 0).after .standard requests
    Oracle.standard.compile? "(" = none ∧
    caches.patterns.keys = ["c", "a"] ∧ caches.digests.keys = ["Add"] ∧
    (caches.patterns.touch "a").isSome = true ∧ ¬ (caches.patterns.touch "b").isSome = true ∧
    caches.compiledBy .standard "(" = (none, caches) := by
  intro requests caches
  have hnone : Oracle.standard.compile? "(" = none := by decide +kernel
  have hlatest : latest 2 (patternsAsked .standard requests) = ["c", "a"] := by decide +kernel
  obtain ⟨hpatterns, hdigests, htouch, -, -, -, hrefused⟩ :=
    latest_remembered .standard 2 0 requests
  rw [show max 2 1 = 2 from rfl, hlatest] at hpatterns htouch
  refine ⟨hnone, hpatterns, hdigests.trans (by decide), (htouch "a").mpr (by decide), ?_,
    hrefused "(" hnone⟩
  rw [htouch]
  decide

end Caches

/-! ## Computations -/

namespace Consult

variable {α : Type} {oracle : Oracle}

/-- A run leaves the caches as its requests do. -/
theorem runBy_snd (computation : Consult α) {caches : Caches} (h : caches.Sound oracle) :
    (computation.runBy oracle caches).2 = caches.after oracle (computation.requests oracle) := by
  induction computation generalizing caches with
  | done value => rfl
  | pattern source next ih =>
    obtain ⟨hanswer, hsound⟩ := h.compiledBy source
    rw [runBy, requests, ← hanswer]
    exact ih _ hsound
  | digest text next ih =>
    obtain ⟨hanswer, hsound⟩ := h.digestedBy text
    rw [runBy, requests, ← hanswer]
    exact ih _ hsound

/-- **A computation** leaves caches that remember the latest texts that it has asked for. -/
theorem runBy_remember (computation : Consult α) (patterns digests : ℕ) :
    (computation.runBy oracle (.ofCapacities patterns digests)).2.Remember oracle patterns digests
      (computation.requests oracle) := by
  have hstart := Caches.Remember.ofCapacities oracle patterns digests
  rw [computation.runBy_snd hstart.sound]
  exact hstart.after _

end Consult

end Understudy
