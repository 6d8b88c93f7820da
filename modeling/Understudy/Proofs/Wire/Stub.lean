import Understudy.Proofs.Wire.Record
import Understudy.Wire.Stub

/-!
# Stubs survive being written

A stub that has been read from a value is written and read again without a loss, given that its
delay survives. Each record is followed through its partial copies: predicates, whose alternatives
are predicates again, predicates on headers, answers and stubs.

## Main definitions

* `Predicate.upTo`, `HeaderPredicate.upTo`, `Reply.upTo`, `Stub.Draft.upTo`: records with some of
  their fields, and the defaults of the others
* `Stub.draft`: the fields of a stub as they are written
* `Reply.DelaySurvives`: the delay of an answer is read from its text

## Main results

* `Predicate.ofJson_toJson`, `HeaderPredicate.ofJson_toJson`, `Reply.ofJson_toJson`: the parts of a
  stub survive
* `Stub.ofJson_toJson_replied`: what is written for a stub is read as the stub, with the answer that
  is read
* `Stub.ofJson_toJson`: a stub survives, unless it expects several messages and none of them
* `Stub.reread`: whatever has been read survives
-/

namespace Understudy

/-! ## Predicates -/

namespace Predicate

theorem isUnset_iff {predicate : Predicate} : predicate.isUnset = true ↔ predicate = {} := by
  obtain ⟨anyOrder, equalTo, containing, matching, anyOf⟩ := predicate
  cases equalTo <;> cases containing <;> cases matching <;> cases anyOf <;> cases anyOrder <;>
    simp [isUnset, declares]

/-- Sets a field, be it that of the alternatives. -/
def setAny (key : String) (value : Json) (predicate : Predicate) : Reading Predicate :=
  if key = "any" then do return { predicate with anyOf := ← listOfJson value }
  else setField key value predicate

theorem ofFields_eq_foldlM (predicate : Predicate) (fields : List (String × Json)) :
    ofFields predicate fields =
      fields.foldlM (fun predicate field => setAny field.1 field.2 predicate) predicate := by
  induction fields generalizing predicate with
  | nil => rfl
  | cons field rest ih =>
    obtain ⟨key, value⟩ := field
    rw [List.foldlM_cons, ofFields, setAny]
    split
    · simp only [ih, bind_assoc, pure_bind]
    · simp only [ih]

/-- The predicate with some of its fields. -/
def upTo (predicate : Predicate) (seen : List String) : Predicate where
  anyOrder := if "ignoreArrayOrder" ∈ seen then predicate.anyOrder else false
  equalTo := if "equals" ∈ seen then predicate.equalTo else none
  containing := if "contains" ∈ seen then predicate.containing else none
  matching := if "matches" ∈ seen then predicate.matching else none
  anyOf := if "any" ∈ seen then predicate.anyOf else []

theorem survives_anyOrder (anyOrder : Bool) :
    Wire.Survives Wire.flag false anyOrder (if anyOrder then some (.bool true) else none) := by
  cases anyOrder
  · exact ⟨fun _ he => (nomatch he), fun _ => rfl⟩
  · exact .always rfl

theorem survives_map (fields : Option Fields) :
    Wire.Survives (Wire.optional Wire.fields) none fields (fields.map .obj) :=
  .optional fun _ _ => ⟨rfl, nofun⟩

/-- The fields of a predicate that are written. -/
def written (predicate : Predicate) : List (String × Json) :=
  Wire.field? "ignoreArrayOrder" (if predicate.anyOrder then some (.bool true) else none)
    ++ Wire.field? "equals" (predicate.equalTo.map .obj)
    ++ Wire.field? "contains" (predicate.containing.map .obj)
    ++ Wire.field? "matches" (predicate.matching.map .obj)
    ++ Wire.field? "any" (Wire.nonemptyList (listToJson predicate.anyOf))

theorem toJson_eq (predicate : Predicate) : predicate.toJson = Json.object predicate.written := by
  cases predicate
  rw [toJson, written]

/-- A list of predicates that is left out if it is empty, if its items are read as they are. -/
theorem survives_list_of {predicates : List Predicate}
    (h : ofItems (listToJson predicates) = .ok predicates) :
    Wire.Survives listOfJson [] predicates (Wire.nonemptyList (listToJson predicates)) := by
  refine .unlessDefault (fun hempty => ?_) h
  cases predicates with
  | nil => rfl
  | cons predicate rest => simp [listToJson] at hempty

/-- A predicate is read from what is written for it if its alternatives are. -/
theorem ofJson_toJson_of {predicate : Predicate}
    (hany : Wire.Survives listOfJson [] predicate.anyOf
      (Wire.nonemptyList (listToJson predicate.anyOf))) :
    ofJson predicate.toJson = .ok predicate := by
  have horder := survives_anyOrder predicate.anyOrder
  have hequals := survives_map predicate.equalTo
  have hcontains := survives_map predicate.containing
  have hmatches := survives_map predicate.matching
  have hstart : ({} : Predicate) = predicate.upTo [] := rfl
  rw [toJson_eq, Json.object, ofJson, ofFields_eq_foldlM, hstart]
  refine Wire.foldlM_object ?_ fun seen hseen => ?_
  · simp only [written, List.forall_mem_append, and_assoc]
    refine ⟨horder.set_field ?_, hequals.set_field ?_, hcontains.set_field ?_,
      hmatches.set_field ?_, hany.set_field ?_⟩ <;>
      intro json hread seen <;> simp [setAny, setField, upTo, hread]
  · simp only [written, List.forall_mem_append, and_assoc] at hseen
    obtain ⟨h1, h2, h3, h4, h5⟩ := hseen
    rw [upTo, horder.eq_of_read h1, hequals.eq_of_read h2, hcontains.eq_of_read h3,
      hmatches.eq_of_read h4, hany.eq_of_read h5]
    cases predicate
    rfl

mutual
/-- **Predicates survive** being written. -/
theorem ofJson_toJson : (predicate : Predicate) → ofJson predicate.toJson = .ok predicate
  | ⟨_, _, _, _, anyOf⟩ => ofJson_toJson_of (survives_list_of (ofItems_listToJson anyOf))
termination_by structural predicate => predicate

/-- So do lists of predicates. -/
theorem ofItems_listToJson : (predicates : List Predicate) →
    ofItems (listToJson predicates) = .ok predicates
  | [] => rfl
  | predicate :: rest => by
    rw [listToJson, ofItems, ofJson_toJson predicate, ofItems_listToJson rest]
    rfl
termination_by structural predicates => predicates
end

end Predicate

/-! ## Predicates on headers -/

namespace HeaderPredicate

theorem eq_default_of_isEmpty {predicate : HeaderPredicate} (h : predicate.isEmpty = true) :
    predicate = {} := by
  obtain ⟨equalTo, containing, matching⟩ := predicate
  simp only [isEmpty, size, beq_iff_eq, Nat.add_eq_zero_iff, List.length_eq_zero_iff] at h
  obtain ⟨⟨rfl, rfl⟩, rfl⟩ := h
  rfl

/-- The predicate with some of its fields. -/
def upTo (predicate : HeaderPredicate) (seen : List String) : HeaderPredicate where
  equalTo := if "equals" ∈ seen then predicate.equalTo else []
  containing := if "contains" ∈ seen then predicate.containing else []
  matching := if "matches" ∈ seen then predicate.matching else []

/-- **Predicates on headers survive** being written. -/
theorem ofJson_toJson (predicate : HeaderPredicate) : ofJson predicate.toJson = .ok predicate := by
  have hequals := Wire.survives_fields predicate.equalTo
  have hcontains := Wire.survives_fields predicate.containing
  have hmatches := Wire.survives_fields predicate.matching
  have hstart : ({} : HeaderPredicate) = predicate.upTo [] := rfl
  rw [toJson, Json.object, ofJson, Wire.record, hstart]
  refine Wire.foldlM_object ?_ fun seen hseen => ?_
  · simp only [List.forall_mem_append, and_assoc]
    refine ⟨hequals.set_field ?_, hcontains.set_field ?_, hmatches.set_field ?_⟩ <;>
      intro json hread seen <;> simp [setField, upTo, hread]
  · simp only [List.forall_mem_append, and_assoc] at hseen
    obtain ⟨h1, h2, h3⟩ := hseen
    rw [upTo, hequals.eq_of_read h1, hcontains.eq_of_read h2, hmatches.eq_of_read h3]

end HeaderPredicate

/-! ## Answers -/

namespace Reply

/-- The answer with some of its fields. -/
def upTo (reply : Reply) (seen : List String) : Reply where
  headers := if "headers" ∈ seen then reply.headers else []
  data := if "data" ∈ seen then reply.data else none
  stream := if "stream" ∈ seen then reply.stream else []
  error := if "error" ∈ seen then reply.error else ""
  status := if "code" ∈ seen then reply.status else none
  delay := if "delay" ∈ seen then reply.delay else none

/-- The delay of the answer is read from its text. -/
def DelaySurvives (reply : Reply) : Prop :=
  ∀ delay, reply.delay = some delay → Delay.ofText? delay.text = .ok delay

/-- **What is written for an answer** is read as the answer, with what is read for the delay. -/
theorem ofJson_toJson_redelayed {reply : Reply} {delay : Option Delay}
    (hdelay : Wire.Survives (Wire.optional Wire.delay) none delay
      (reply.delay.map fun delay => .str delay.text)) :
    ofJson reply.toJson = .ok { reply with delay } := by
  have hheaders := Wire.survives_texts reply.headers
  have hdata : Wire.Survives (Wire.optional Wire.fields) none reply.data (reply.data.map .obj) :=
    .optional fun _ _ => ⟨rfl, nofun⟩
  have hstream := Wire.survives_items reply.stream
  have herror := Wire.survives_text reply.error
  have hcode : Wire.Survives (Wire.optional Wire.status) none reply.status
      (reply.status.map fun status => .nat status.number) :=
    .optional fun status _ => ⟨Wire.status_number status, nofun⟩
  have hstart : ({} : Reply) = ({ reply with delay } : Reply).upTo [] := rfl
  rw [toJson, Json.object, ofJson, Wire.record, hstart]
  refine Wire.foldlM_object ?_ fun seen hseen => ?_
  · simp only [List.forall_mem_append, and_assoc]
    refine ⟨hheaders.set_field ?_, hdata.set_field ?_, hstream.set_field ?_, herror.set_field ?_,
      hcode.set_field ?_, hdelay.set_field ?_⟩ <;>
      intro json hread seen <;> simp [setField, upTo, hread]
  · simp only [List.forall_mem_append, and_assoc] at hseen
    obtain ⟨h1, h2, h3, h4, h5, h6⟩ := hseen
    rw [upTo, hheaders.eq_of_read h1, hdata.eq_of_read h2, hstream.eq_of_read h3,
      herror.eq_of_read h4, hcode.eq_of_read h5, hdelay.eq_of_read h6]

/-- **Answers survive** being written if their delays do. -/
theorem ofJson_toJson {reply : Reply} (hdelay : reply.DelaySurvives) :
    ofJson reply.toJson = .ok reply :=
  ofJson_toJson_redelayed (.optional fun delay he => ⟨Wire.delay_text (hdelay delay he), nofun⟩)

end Reply

/-! ## Stubs -/

namespace Stub

theorem timesOption_times (times : UInt32) :
    timesOption (.obj [("times", .nat times.toNat)]) = .ok times := by
  simp [timesOption, Wire.record, Wire.word_nat]

/-- The draft with some of its fields. -/
def Draft.upTo (draft : Draft) (seen : List String) : Draft where
  id := if "id" ∈ seen then draft.id else .nil
  service := if "service" ∈ seen then draft.service else ""
  method := if "method" ∈ seen then draft.method else ""
  session := if "session" ∈ seen then draft.session else ""
  priority := if "priority" ∈ seen then draft.priority else 0
  times := 0
  optionTimes := if "options" ∈ seen then draft.optionTimes else 0
  headers := if "headers" ∈ seen then draft.headers else {}
  input := if "input" ∈ seen then draft.input else {}
  inputs := if "inputs" ∈ seen then draft.inputs else []
  output := if "output" ∈ seen then draft.output else {}
  responseHeaders := if "responseHeaders" ∈ seen then draft.responseHeaders else []
  responseTrailers := if "responseTrailers" ∈ seen then draft.responseTrailers else []

/-- The fields of a stub as they are written: the limit on uses stands among the options. -/
def draft (stub : Stub) : Draft where
  id := stub.id
  service := stub.service
  method := stub.method
  session := stub.session
  priority := stub.priority
  optionTimes := stub.times
  headers := stub.headers
  input := stub.single?.getD {}
  inputs := stub.sequence
  output := stub.reply
  responseHeaders := stub.responseHeaders
  responseTrailers := stub.responseTrailers

theorem expectationField_eq (stub : Stub) :
    expectationField stub.expectation =
      Wire.field? "input" (if stub.draft.input.isUnset then none else some stub.draft.input.toJson)
        ++ Wire.field? "inputs" (Wire.nonemptyList (Predicate.listToJson stub.draft.inputs)) := by
  cases hexpect : stub.expectation with
  | single predicate =>
    have hinput : stub.draft.input = predicate := by rw [draft, single?, hexpect, Option.getD_some]
    have hinputs : stub.draft.inputs = [] := by rw [draft, sequence, hexpect]
    rw [hinput, hinputs]
    exact (List.append_nil _).symm
  | ordered predicates =>
    have hinput : stub.draft.input = {} := by rw [draft, single?, hexpect, Option.getD_none]
    have hinputs : stub.draft.inputs = predicates := by rw [draft, sequence, hexpect]
    rw [hinput, hinputs]
    rfl

/-- What is written for a stub is read as its draft, with what is read for the answer. -/
theorem record_toJson {stub : Stub} {reply : Reply}
    (hreply : Reply.ofJson stub.reply.toJson = .ok reply) :
    Wire.record fieldOrder Draft.setField {} stub.toJson =
      .ok ({ stub with reply } : Stub).draft := by
  have hid : Wire.Survives Wire.identifier .nil stub.draft.id
      (if stub.id.isNil then none else some (.str stub.id.text)) :=
    .unlessDefault of_decide_eq_true (Wire.identifier_text stub.id)
  have hservice : Wire.Survives Wire.text "" stub.draft.service (some (.str stub.service)) :=
    .always rfl
  have hmethod : Wire.Survives Wire.text "" stub.draft.method (some (.str stub.method)) :=
    .always rfl
  have hsession := Wire.survives_text stub.draft.session
  have hpriority : Wire.Survives Wire.int 0 stub.draft.priority
      (if stub.priority = 0 then none else some (.int stub.priority.toInt)) :=
    .unlessDefault (fun h => h) (Wire.int_int stub.priority)
  have htimes : Wire.Survives timesOption 0 stub.draft.optionTimes
      (if stub.times = 0 then none else some (.obj [("times", .nat stub.times.toNat)])) :=
    .unlessDefault (fun h => h) (timesOption_times stub.times)
  have hheaders : Wire.Survives HeaderPredicate.ofJson {} stub.draft.headers
      (if stub.headers.isEmpty then none else some stub.headers.toJson) :=
    .unlessDefault HeaderPredicate.eq_default_of_isEmpty (HeaderPredicate.ofJson_toJson _)
  have hinput : Wire.Survives Predicate.ofJson {} stub.draft.input
      (if stub.draft.input.isUnset then none else some stub.draft.input.toJson) :=
    .unlessDefault Predicate.isUnset_iff.mp (Predicate.ofJson_toJson _)
  have hinputs : Wire.Survives Predicate.listOfJson [] stub.draft.inputs
      (Wire.nonemptyList (Predicate.listToJson stub.draft.inputs)) :=
    Predicate.survives_list_of (Predicate.ofItems_listToJson _)
  have houtput : Wire.Survives Reply.ofJson {} reply (some stub.reply.toJson) := .always hreply
  have hresponseHeaders := Wire.survives_texts stub.draft.responseHeaders
  have hresponseTrailers := Wire.survives_texts stub.draft.responseTrailers
  have hstart : ({} : Draft) = ({ stub.draft with output := reply } : Draft).upTo [] := rfl
  have hfixed : [("service", Json.str stub.service), ("method", .str stub.method)] =
      Wire.field? "service" (some (.str stub.service))
        ++ Wire.field? "method" (some (.str stub.method)) := rfl
  have hlast : [("output", stub.reply.toJson)] = Wire.field? "output" (some stub.reply.toJson) :=
    rfl
  rw [toJson, Json.object, Wire.record, hstart, expectationField_eq, hfixed, hlast]
  refine Wire.foldlM_object ?_ fun seen hseen => ?_
  · simp only [List.forall_mem_append, and_assoc]
    refine ⟨hid.set_field ?_, hservice.set_field ?_, hmethod.set_field ?_, hsession.set_field ?_,
      hpriority.set_field ?_, htimes.set_field ?_, hheaders.set_field ?_, hinput.set_field ?_,
      hinputs.set_field ?_, houtput.set_field ?_, hresponseHeaders.set_field ?_,
      hresponseTrailers.set_field ?_⟩ <;>
      intro json hread seen <;> simp [Draft.setField, Draft.upTo, hread]
  · simp only [List.forall_mem_append, and_assoc] at hseen
    obtain ⟨h1, h2, h3, h4, h5, h6, h7, h8, h9, h10, h11, h12⟩ := hseen
    rw [Draft.upTo, hid.eq_of_read h1, hservice.eq_of_read h2, hmethod.eq_of_read h3,
      hsession.eq_of_read h4, hpriority.eq_of_read h5, htimes.eq_of_read h6,
      hheaders.eq_of_read h7, hinput.eq_of_read h8, hinputs.eq_of_read h9,
      houtput.eq_of_read h10, hresponseHeaders.eq_of_read h11, hresponseTrailers.eq_of_read h12]
    rfl

/-- The draft of a stub describes the stub, unless it expects several messages and none of them. -/
theorem stub_draft {stub : Stub} (h : stub.expectation ≠ .ordered []) :
    stub.draft.stub = .ok stub := by
  have hexpectation : stub.draft.expectation = .ok stub.expectation := by
    rw [Draft.expectation, draft, single?, sequence]
    cases hexpect : stub.expectation with
    | single predicate => rfl
    | ordered predicates =>
      cases predicates with
      | nil => exact absurd hexpect h
      | cons predicate rest => rfl
  have htimes : (if 0 < stub.draft.optionTimes then stub.draft.optionTimes else stub.draft.times) =
      stub.times := by
    split
    · rfl
    · next hzero => exact (UInt32.le_zero_iff.mp (UInt32.not_lt.mp hzero)).symm
  rw [Draft.stub, hexpectation, htimes]
  rfl

/-- **What is written for a stub** is read as the stub, with what is read for the answer, unless it
expects several messages and none of them. -/
theorem ofJson_toJson_replied {stub : Stub} (h : stub.expectation ≠ .ordered []) {reply : Reply}
    (hreply : Reply.ofJson stub.reply.toJson = .ok reply) :
    ofJson stub.toJson = .ok { stub with reply } := by
  rw [ofJson, record_toJson hreply]
  exact @stub_draft { stub with reply } h

/-- **Stubs survive** being written, if their delays do, and unless they expect several messages and
none of them. -/
theorem ofJson_toJson {stub : Stub} (h : stub.expectation ≠ .ordered [])
    (hdelay : stub.reply.DelaySurvives) : ofJson stub.toJson = .ok stub :=
  ofJson_toJson_replied h (Reply.ofJson_toJson hdelay)

/-- The two fields for expectations never say several messages and none of them. -/
theorem expectation_ne {draft : Draft} {expectation : Expectation}
    (h : draft.expectation = .ok expectation) : expectation ≠ .ordered [] := by
  unfold Draft.expectation at h
  split at h
  · obtain rfl := Except.ok.inj h
    exact nofun
  · next hinputs =>
    split at h
    · obtain rfl := Except.ok.inj h
      rintro hnil
      exact hinputs (List.isEmpty_iff.mpr (Expectation.ordered.inj hnil))
    · cases h

/-- Nor does any stub that has been read. -/
theorem expectation_ne_of_ofJson {json : Json} {stub : Stub} (h : ofJson json = .ok stub) :
    stub.expectation ≠ .ordered [] := by
  unfold ofJson at h
  cases hrecord : Wire.record fieldOrder Draft.setField {} json with
  | error refusal =>
    rw [hrecord] at h
    cases h
  | ok draft =>
    rw [hrecord] at h
    cases hexpect : draft.expectation with
    | error refusal =>
      have hstub : draft.stub = .ok stub := h
      rw [Draft.stub, hexpect] at hstub
      cases hstub
    | ok expectation =>
      have hstub : draft.stub = .ok stub := h
      rw [Draft.stub, hexpect] at hstub
      obtain rfl := Except.ok.inj hstub
      exact expectation_ne hexpect

/-- **Whatever has been read survives**: a stub that is read from any value is written, read again
as the same stub and written again as before, given that its delay is read from its text. -/
theorem reread (json : Json) (stub : Stub) (h : ofJson json = .ok stub)
    (hdelay : ∀ delay, stub.reply.delay = some delay → Delay.ofText? delay.text = .ok delay) :
    ∃ again, ofJson stub.toJson = .ok again ∧ again = stub ∧ again.toJson = stub.toJson :=
  ⟨stub, ofJson_toJson (expectation_ne_of_ofJson h) hdelay, rfl, rfl⟩

end Stub

namespace Talk

/-- A value with a field that no stub has, a limit on uses beside the options, alternatives of
alternatives, a predicate by position and one that asks for nothing, a status by a spelling of its
name and a delay as a text. -/
def json : Json :=
  .obj [
    ("comment", .str "about nothing"),
    ("id", .str "6BA7B810-9dad-11d1-80b4-00c04fd430c8"),
    ("inputs", .arr [
      .obj [("any", .arr [.obj [("any", .arr [.obj [("equals", .obj [])]])]])],
      .arr [.bool true, .null, .obj [("word", .str "hi")]],
      .obj [("ignoreArrayOrder", .bool true)]]),
    ("method", .str "Talk"),
    ("options", .obj []),
    ("output", .obj [("code", .str " not_found "), ("delay", .str "1.5s")]),
    ("priority", .int (-3)),
    ("service", .str "Chat"),
    ("times", .nat 2)]

/-- The stub that the value describes. -/
def stub : Stub where
  id := ⟨0x6ba7b8109dad11d180b400c04fd430c8⟩
  service := "Chat"
  method := "Talk"
  priority := -3
  times := 2
  expectation := .ordered [
    { anyOf := [{ anyOf := [{ equalTo := some [] }] }] },
    { anyOrder := true, containing := some [("word", .str "hi")] },
    { anyOrder := true }]
  reply := { status := some .notFound, delay := some ⟨1500000000⟩ }

theorem ofJson_json : Stub.ofJson json = .ok stub := by
  have hstatus : Status.ofName? " not_found " = some .notFound := by decide +kernel
  have hdelay : Delay.ofText? "1.5s" = .ok ⟨1500000000⟩ := by rfl
  have hreply : Reply.ofJson (.obj [("code", .str " not_found "), ("delay", .str "1.5s")]) =
      .ok stub.reply := by
    simp only [Reply.ofJson, Wire.record, List.foldlM_cons, List.foldlM_nil, Reply.setField,
      Wire.optional, Wire.status, Wire.delay, hstatus, hdelay]
    rfl
  simp only [Stub.ofJson, json, Wire.record, List.foldlM_cons, List.foldlM_nil,
    Stub.Draft.setField, hreply]
  rfl

end Talk

namespace Stub

/-- The stub is written with its limit among the options, and read again. -/
theorem reread_talk :
    ofJson Talk.json = .ok Talk.stub ∧
    (∀ delay, Talk.stub.reply.delay = some delay → Delay.ofText? delay.text = .ok delay) ∧
    ∃ again, ofJson Talk.stub.toJson = .ok again ∧ again = Talk.stub ∧
      again.toJson = Talk.stub.toJson := by
  have hdelay : ∀ delay, Talk.stub.reply.delay = some delay →
      Delay.ofText? delay.text = .ok delay := by
    rintro delay he
    obtain rfl := Option.some.inj he
    rfl
  exact ⟨Talk.ofJson_json, hdelay, reread Talk.json Talk.stub Talk.ofJson_json hdelay⟩

end Stub

end Understudy
