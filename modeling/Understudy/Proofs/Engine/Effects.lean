import Understudy.Proofs.Engine.Answers
import Understudy.Proofs.Store.Contents

/-!
# Effects of commands

What an engine and a call are after a change, a query or a message, in terms of the map of stubs,
the marks and the stubs that are left. A stub that answers is stored, or was so when its call
opened; a session takes its marks with it; a message brings no stub back.

## Main results

* `Engine.Sound.get?_of_answer`, `Engine.Sound.get?_of_converse`: what is found is stored
* `Engine.Sound.deleteSession_spec`: the effects of deleting a session
* `Engine.mem_marks_mark`: the effect of a mark
* `Conversation.next_spec`: the effect of a message
-/

namespace Understudy

namespace Engine

variable {oracle : Oracle} {engine : Engine}

/-! ## Stubs that answer are stored -/

/-- The stub of an answer is stored. -/
theorem Sound.get?_of_answer (h : engine.Sound oracle) {query : Query} {stub : Stub}
    (hanswer : (engine.answer query).evalBy oracle = .ok (.found stub) ∨
      (engine.answer query).evalBy oracle = .ok (.similar stub)) :
    engine.get? stub.id = some stub := by
  rcases hanswer with hfound | hsimilar
  · exact h.mem_all.mp (h.permits_of_answer hfound).1
  · exact h.mem_all.mp (h.permits_of_answer hsimilar).1

/-- An opened call begins afresh, looks only if it was asked to, and its stubs are stored. -/
theorem Sound.get?_of_converse (h : engine.Sound oracle) {opening : Opening}
    {conversation : Conversation}
    (hopened : (engine.converse opening).evalBy oracle = .ok conversation) :
    conversation.opening.quiet = opening.quiet ∧ conversation.progress = .fresh ∧
      ∀ stub ∈ conversation.seed, engine.get? stub.id = some stub := by
  have hstored : ∀ stub ∈ conversation.seed, engine.get? stub.id = some stub := fun stub hmem =>
    h.mem_all.mp (h.permits_of_converse hopened hmem).1
  simp only [converse, Consult.evalBy_bind, Consult.evalBy_pure] at hopened
  obtain ⟨stubs, -, rfl⟩ := exists_of_map_eq_ok hopened
  exact ⟨rfl, rfl, hstored⟩

/-! ## Listings -/

theorem Sound.mem_used (h : engine.Sound oracle) {stub : Stub} :
    stub ∈ engine.used ↔ engine.get? stub.id = some stub ∧ stub.id ∈ engine.marks := by
  rw [used, mem_byId, Store.getAll, List.mem_filterMap]
  constructor
  · rintro ⟨id, hid, hstub⟩
    obtain rfl := h.id_of_get? hstub
    exact ⟨hstub, hid⟩
  · rintro ⟨hstub, hid⟩
    exact ⟨stub.id, hid, hstub⟩

theorem Sound.mem_unused (h : engine.Sound oracle) {stub : Stub} :
    stub ∈ engine.unused ↔ engine.get? stub.id = some stub ∧ stub.id ∉ engine.marks := by
  rw [unused, mem_byId, List.mem_filter]
  refine and_congr h.mem_values ?_
  simp

/-! ## Changes -/

/-- Deleting a session that has a name takes its stubs out with their marks, and counts them. -/
theorem Sound.deleteSession_spec (h : engine.Sound oracle) {session : String}
    (hname : session ≠ "") :
    (engine.deleteSession session).2.store.get? =
        Contents.apply engine.store.get? (.deleteWhere fun stub => stub.session = session) ∧
      (∀ id, id ∈ (engine.deleteSession session).2.marks ↔ id ∈ engine.marks ∧
        ∀ stub, engine.get? id = some stub → stub.session ≠ session) ∧
      ((engine.deleteSession session).1 : ℕ∞) =
        {id | ∃ stub, engine.get? id = some stub ∧ stub.session = session}.encard := by
  have hempty : ¬ session.isEmpty = true := fun he => hname (String.isEmpty_iff.mp he)
  let doomed := (engine.store.deleteWhere fun stub => stub.session = session).1
  have hdoomed : ∀ id, id ∈ doomed ↔ ∃ stub, engine.get? id = some stub ∧
      stub.session = session := by
    intro id
    have hselected : id ∈ doomed ↔ ∃ stub, engine.store.get? id = some stub ∧
        decide (stub.session = session) = true := Store.Sound.mem_selected h
    simp only [decide_eq_true_eq] at hselected
    exact hselected
  -- no stub is taken out twice, so the length of the list is the number of stubs
  have hnodup : doomed.Nodup := h.nodup_ids_values.sublist (List.filter_sublist.map _)
  have hdeleted : engine.deleteSession session = (doomed.length, { engine with
      store := (engine.store.deleteWhere fun stub => stub.session = session).2
      marks := engine.marks.filter fun id => !doomed.contains id }) := if_neg hempty
  rw [hdeleted]
  refine ⟨Store.Sound.get?_apply h (.deleteWhere _), fun id => ?_, ?_⟩
  · -- a mark stays unless its stub goes
    have hmem : id ∈ engine.marks.filter (fun id => !doomed.contains id) ↔
        id ∈ engine.marks ∧ id ∉ doomed := by
      simp
    rw [hmem, hdoomed]
    simp
  · have hset : {id | ∃ stub, engine.get? id = some stub ∧ stub.session = session} =
        (doomed.toFinset : Set Identifier) := by
      ext id
      rw [List.coe_toFinset]
      exact (hdoomed id).symm
    rw [hset, Set.encard_coe_eq_coe_finsetCard, List.toFinset_card_of_nodup hnodup]

theorem marks_deleteSession_sublist (engine : Engine) (session : String) :
    (engine.deleteSession session).2.marks.Sublist engine.marks := by
  unfold deleteSession
  split
  · exact List.Sublist.refl _
  · exact List.filter_sublist

/-! ## Marks -/

theorem mem_marks_mark {quiet : Bool} {id other : Identifier} :
    other ∈ (engine.mark quiet id).marks ↔ other ∈ engine.marks ∨ quiet = false ∧ other = id := by
  unfold mark
  cases quiet with
  | true => simp
  | false =>
    split
    · next h =>
      have hmem : id ∈ engine.marks := by simpa using h
      constructor
      · exact .inl
      · rintro (hother | ⟨-, rfl⟩)
        · exact hother
        · exact hmem
    · simp [or_comm]

theorem nodup_marks_mark (h : engine.marks.Nodup) (quiet : Bool) (id : Identifier) :
    (engine.mark quiet id).marks.Nodup := by
  unfold mark
  split
  · exact h
  · next hid =>
    refine List.nodup_cons.mpr ⟨fun hmem => hid ?_, h⟩
    simp [hmem]

end Engine

/-! ## Messages -/

namespace Conversation

variable {oracle : Oracle}

/-- The stub that is selected is the best one so far or one of the others. -/
theorem mem_of_select {rank : Stub → Consult Float} {stubs : List Stub}
    {best : Option (Float × Stub)} {selected : Float × Stub}
    (h : (select rank best stubs).evalBy oracle = some selected) :
    best = some selected ∨ selected.2 ∈ stubs := by
  induction stubs generalizing best with
  | nil => exact .inl h
  | cons stub rest ih =>
    simp only [select, Consult.evalBy_bind] at h
    -- the best of the rest is one of the rest, or what was best before it
    rcases ih h with hbest | hmem
    · split at hbest
      · obtain rfl := Option.some.inj hbest
        exact .inr List.mem_cons_self
      · exact .inl hbest
    · exact .inr (List.mem_cons_of_mem _ hmem)

/-- A call that meets the next message at position zero has all stubs that it began with. -/
theorem candidates_of_position {conversation : Conversation}
    (h : conversation.position? = some 0) : conversation.candidates = conversation.seed := by
  unfold position? at h
  unfold candidates
  split at h
  · rfl
  · cases h
  · cases h

/-- No stub comes back when one has answered. -/
theorem candidates_after {conversation : Conversation} {position : ℕ} {survivors : List Stub}
    (hposition : conversation.position? = some position)
    (hsurvivors : ∀ stub ∈ survivors, stub ∈ conversation.candidates) (leader : Stub) :
    ∀ stub ∈ { conversation with progress := after leader survivors position }.candidates,
      stub ∈ conversation.candidates := by
  intro stub hmem
  unfold after at hmem
  split at hmem
  · next halone =>
    -- the call begins again with all its stubs, which were all left
    rw [candidates_of_position (halone.1 ▸ hposition)]
    exact hmem
  · exact hsurvivors stub hmem

/-- What a message comes to: the call stays the same call, no stub comes back, and the stub that
answers was left. It counts if it expects messages in order or if the message is the first to be
met. -/
theorem next_spec (oracle : Oracle) (conversation : Conversation) (message : Fields) :
    let next := (conversation.next message).evalBy oracle
    next.2.opening = conversation.opening ∧
      (∀ stub ∈ next.2.candidates, stub ∈ conversation.candidates) ∧
      ∀ turn, next.1 = some turn → turn.stub ∈ conversation.candidates ∧
        (turn.counts = true ↔
          turn.stub.sequence ≠ [] ∨ conversation.position? = some 0) := by
  intro next
  cases hposition : conversation.position? with
  | none =>
    have hnext : next = (none, conversation) := by
      simp only [next, Conversation.next, hposition, Consult.evalBy_pure]
    rw [hnext]
    refine ⟨rfl, fun _ hmem => hmem, fun turn hturn => ?_⟩
    cases hturn
  | some position =>
    have hkept : ∀ stub ∈ conversation.candidates.filter (Stub.acceptsBy oracle message position),
        stub ∈ conversation.candidates := fun stub hmem => (List.mem_filter.mp hmem).1
    have hnext : next = _ := evalBy_next_eq hposition message
    dsimp only at hnext
    rw [hnext]
    split
    · refine ⟨rfl, fun _ hmem => (List.not_mem_nil hmem).elim, fun turn hturn => ?_⟩
      cases hturn
    · next best hbest =>
      have hmem := (mem_of_select hbest).resolve_left (Option.some_ne_none best).symm
      refine ⟨rfl, candidates_after hposition hkept best.2, ?_⟩
      rintro turn hturn
      obtain rfl := Option.some.inj hturn
      exact ⟨hkept _ hmem, by simp⟩

end Conversation

end Understudy
