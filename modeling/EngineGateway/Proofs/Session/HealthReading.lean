import EngineGateway.Proofs.Backend.Meaning
import EngineGateway.Proofs.Rest.Reaching
import EngineGateway.Proofs.Rest.Rendering
import EngineGateway.Proofs.Session.ExactTime
import EngineGateway.Proofs.Session.Polling
import EngineGateway.Proofs.Text.Casing

/-!
# What an answer says of the health of an index

An object tells a colour if the text of its status spells the name of the colour, in any case and
with blanks around it, and unknown otherwise (`TellsHealth`). An answer in which the engine accepts
the question, or reports that it waited in vain, says what its object tells (`SaysOfHealth`). An
index that was not found is of unknown health, and its report is read like the others nevertheless:
a colour in it counts, and a wait goes by it.
-/

namespace EngineGateway

open Session Talk

namespace HealthState

/-- A text is the name of a state exactly if it is found by it. -/
theorem ofName?_eq_some_iff {name : Text} {state : HealthState} :
    ofName? name = some state ↔ name = state.name := by
  constructor
  · intro found
    have same := List.find?_some found
    exact (eq_of_beq same).symm
  · rintro rfl
    exact ofName?_name state

/-- The colours have names of plain letters. -/
theorem isPlain_of_mem_name {state : HealthState} (colour : state ≠ .unknown) :
    state.name.toList ≠ [] ∧ ∀ letter ∈ state.name.toList, Text.isPlain letter = true := by
  have letters : state.name.toList ≠ [] ∧ state.name.toList.all Text.isPlain = true := by
    cases state with
    | unknown => exact absurd rfl colour
    | _ => exact ⟨nofun, rfl⟩
  exact ⟨letters.1, List.all_eq_true.1 letters.2⟩

/-- A value names a colour exactly if it is a text that spells it. -/
theorem ofJson_eq_iff {state : HealthState} (colour : state ≠ .unknown) (value : Json) :
    ofJson value = state ↔ ∃ text, value = .str text ∧ text.Spells state.name.toList := by
  obtain ⟨lettered, plain⟩ := isPlain_of_mem_name colour
  have spelled (text : Text) : ofName? text.trim.lower = some state ↔
      text.Spells state.name.toList := by
    rw [ofName?_eq_some_iff]
    exact Text.lower_trim_eq_iff lettered plain text
  constructor
  · intro named
    cases value with
    | str text =>
      refine ⟨text, rfl, (spelled text).1 ?_⟩
      cases found : ofName? text.trim.lower with
      | none =>
        have unnamed : ofJson (.str text) = .unknown := by simp [ofJson, found]
        exact absurd (named.symm.trans unnamed) colour
      | some other =>
        have same : ofJson (.str text) = other := by simp [ofJson, found]
        rw [← named, same]
    | _ => exact absurd named.symm colour
  · rintro ⟨text, rfl, spells⟩
    simp [ofJson, (spelled text).2 spells]

end HealthState

/-- The state that an object tells: the colour that its status spells, and unknown if it spells
none. -/
inductive TellsHealth (fields : Fields) : HealthState → Prop where
  | named {state : HealthState} {text : Text} (colour : state ≠ .unknown)
      (found : fields.get? "status" = some (.str text))
      (spells : text.Spells state.name.toList) : TellsHealth fields state
  | unnamed (wordless : ∀ (state : HealthState) (text : Text), state ≠ .unknown →
      fields.get? "status" = some (.str text) → ¬text.Spells state.name.toList) :
    TellsHealth fields .unknown

/-- The health that is read off an object is a colour exactly if its status spells it. -/
theorem Session.healthOf_eq_iff {state : HealthState} (colour : state ≠ .unknown)
    (fields : Fields) : healthOf (.obj fields) = state ↔
      ∃ text, fields.get? "status" = some (.str text) ∧ text.Spells state.name.toList := by
  change HealthState.ofJson ((fields.get? "status").getD .null) = state ↔ _
  rw [HealthState.ofJson_eq_iff colour]
  cases fields.get? "status" <;> simp

/-- The health that is read off an object is what the object tells. -/
theorem Session.healthOf_obj_eq_iff (fields : Fields) (state : HealthState) :
    healthOf (.obj fields) = state ↔ TellsHealth fields state := by
  constructor
  · intro read
    by_cases colour : state = .unknown
    · subst colour
      refine .unnamed fun other text named found spells => named ?_
      rw [← (healthOf_eq_iff named fields).2 ⟨text, found, spells⟩, read]
    · obtain ⟨text, found, spells⟩ := (healthOf_eq_iff colour fields).1 read
      exact .named colour found spells
  · intro tells
    cases tells with
    | named colour found spells => exact (healthOf_eq_iff colour fields).2 ⟨_, found, spells⟩
    | unnamed wordless =>
      by_contra colour
      obtain ⟨text, found, spells⟩ := (healthOf_eq_iff colour fields).1 rfl
      exact wordless _ text colour found spells

/-- An error only says that the health is not known yet if its status is one of two numbers. -/
theorem Session.isHealthUnavailable_int (status : Int) :
    isHealthUnavailable (.int status) = .ok (decide (status = 404 ∨ status = 408)) := by
  have listed : unavailableStatuses.contains status = decide (status = 404 ∨ status = 408) := by
    simp [unavailableStatuses]
  exact congrArg Except.ok listed

section

variable {α τ : Type} {name : Text} {status : Int} {payload : Json}

/-- A reported error is read like a reply, or it is handed on. -/
theorem Session.readHealth_reported :
    readHealth (.str name) (.error (.reported (.int status) payload)) =
      if status = 404 ∨ status = 408 then .ok { name, health := healthOf payload }
      else .error (.reported (.int status) payload) := by
  change (isHealthUnavailable (.int status) >>= fun unavailable =>
    if unavailable then describe (.str name) (healthOf payload) else _) = _
  rw [isHealthUnavailable_int]
  by_cases unavailable : status = 404 ∨ status = 408
  · simp only [unavailable, decide_true, if_true]
    rfl
  · simp only [unavailable, decide_false, if_false]
    rfl

/-- What an answer to the question for the health of an index says. -/
inductive SaysOfHealth (backend : Backend α) (call : Call) (answer : α) (name : Text) :
    Except Failure IndexDescriptor → Prop where
  | accepted {fields : Fields} {state : HealthState} (accepts : backend.Accepts call answer fields)
      (tells : TellsHealth fields state) :
    SaysOfHealth backend call answer name (.ok { name, health := state })
  | waited {fields : Fields} {state : HealthState}
      (reports : backend.Reports call answer 408 (.obj fields)) (tells : TellsHealth fields state) :
    SaysOfHealth backend call answer name (.ok { name, health := state })
  | wordless {payload : Json} (reports : backend.Reports call answer 408 payload)
      (other : ∀ fields, payload ≠ .obj fields) :
    SaysOfHealth backend call answer name (.ok { name, health := .unknown })
  | missing {payload : Json} (reports : backend.Reports call answer 404 payload) :
    SaysOfHealth backend call answer name (.ok { name, health := .unknown })
  | failed {status : Int} {payload : Json} (reports : backend.Reports call answer status payload)
      (other : status ≠ 404 ∧ status ≠ 408) :
    SaysOfHealth backend call answer name (.error (.reported (.int status) payload))

/-- An answer that an index was not found whose body tells a colour. -/
def ColouredMiss (backend : Backend α) (call : Call) (answer : α) (state : HealthState) : Prop :=
  ∃ fields, backend.Reports call answer 404 (.obj fields) ∧ TellsHealth fields state ∧
    state ≠ .unknown

variable {backend : Backend α} {call : Call} {answer : α}

/-- An answer is judged by what it says, unless it is a miss of some colour. -/
theorem SaysOfHealth.of_read (asks : call.want = .data)
    (heard : (∃ fields, backend.Accepts call answer fields) ∨
      ∃ status payload, backend.Reports call answer status payload)
    (colourless : ∀ state, ¬ColouredMiss backend call answer state) :
    SaysOfHealth backend call answer name
      (readHealth (.str name) (backend.data call answer)) := by
  obtain ⟨fields, accepts⟩ | ⟨status, payload, reports⟩ := heard
  · rw [accepts.data asks]
    exact .accepted accepts ((healthOf_obj_eq_iff fields _).1 rfl)
  rw [reports.data asks, readHealth_reported]
  split
  case isFalse other => exact .failed reports (not_or.1 other)
  case isTrue unavailable =>
    obtain rfl | rfl := unavailable
    · -- no colour is told by what was not found
      have unknown : healthOf payload = .unknown := by
        cases payload with
        | obj fields =>
          by_contra colour
          exact colourless _ ⟨fields, reports, (healthOf_obj_eq_iff fields _).1 rfl, colour⟩
        | _ => rfl
      rw [unknown]
      exact .missing reports
    · cases payload with
      | obj fields => exact .waited reports ((healthOf_obj_eq_iff fields _).1 rfl)
      | _ => exact .wordless reports nofun

/-- A miss of some colour is taken for an index of that colour. -/
theorem ColouredMiss.read {state : HealthState} (miss : ColouredMiss backend call answer state)
    (asks : call.want = .data) :
    readHealth (.str name) (backend.data call answer) = .ok { name, health := state } := by
  obtain ⟨fields, reports, tells, -⟩ := miss
  rw [reports.data asks, readHealth_reported, (healthOf_obj_eq_iff fields state).2 tells]
  rfl

/-- And that is not what it says. -/
theorem ColouredMiss.not_says {state : HealthState} (miss : ColouredMiss backend call answer state)
    (asks : call.want = .data) :
    ¬SaysOfHealth backend call answer name (.ok { name, health := state }) := by
  obtain ⟨fields, reports, -, colour⟩ := miss
  have missed := reports.data asks
  intro told
  cases told with
  | accepted accepts => cases missed.symm.trans (accepts.data asks)
  | waited reports => cases missed.symm.trans (reports.data asks)
  | wordless | missing => exact colour rfl

section

variable [Seconds τ] {session : Session α τ} {c d : Conversation α τ}

/-- Looking once asks for the health, if the time to hold the question back can be written, and
reads the reply. -/
theorem Session.indexHealth_outcome {hold : Option (Span τ)} {held : Option String}
    (timed : hold.mapM Span.holdText = .ok held)
    (meets : session.backend.Meets c (.health (.str name) (.ofText? (held.map Text.ofString)))
      answer) :
    ((session.indexHealth (.str name) hold).run.run c).1 =
      readHealth (.str name) (session.backend.data
        (.health (.str name) (.ofText? (held.map Text.ofString))) answer) := by
  have given : hold.mapM (m := Talk α τ) (fun span => Talk.outcome span.holdText) = pure held := by
    cases hold with
    | none =>
      cases timed
      rfl
    | some span =>
      cases written : span.holdText with
      | error failure =>
        rw [Option.mapM_some, written] at timed
        cases timed
      | ok text =>
        rw [Option.mapM_some, written] at timed
        cases timed
        simp only [Option.mapM_some, written]
        rfl
  unfold indexHealth
  rw [given, pure_bind]
  have read := run_reading (.str name) (Talk.ask session.backend
    (.health (.str name) (.ofText? (held.map Text.ofString)))) c
  exact (congrArg Prod.fst read).trans (congrArg (readHealth (.str name)) meets.asked)

/-- What a question that asks to be held back comes to, as a look. -/
theorem Session.look_outcome {hold : τ} {held : String}
    (written : (Span.measured hold).holdText = .ok held)
    (meets : session.backend.Meets c (healthCall (.str name) held) answer) :
    (session.look (.str name) hold c).outcome = readHealth (.str name)
      (session.backend.data (healthCall (.str name) held) answer) := by
  have timed : (some (Span.measured hold)).mapM Span.holdText = .ok (some held) := by
    rw [Option.mapM_some, written]
    rfl
  exact indexHealth_outcome timed meets

/-- A poll whose look comes to a healthy index ends a wait with it. -/
theorem Session.poll_of_healthy {name : Name} {limit : Span τ} {deadline interval : τ}
    {next : Talk α τ IndexDescriptor} {index : IndexDescriptor}
    (healthy : (session.lookBefore name deadline c).Healthy index) :
    ((poll session name limit deadline interval next).run.run c).1 = .ok index := by
  obtain ⟨seen, well⟩ := healthy
  obtain ⟨concluded, -⟩ | ⟨other, -, -, ⟨seenToo, unwell⟩, -⟩ :=
    session.poll_cases name limit deadline interval next c
  · generalize ((poll session name limit deadline interval next).run.run c).1 = outcome at concluded
    cases concluded with
    | failed troubled => cases seen.symm.trans troubled
    | healthy healthy => exact healthy.1.symm.trans seen
    | expired unwell =>
      cases seen.symm.trans unwell.1
      cases well.symm.trans unwell.2
  · cases seen.symm.trans seenToo
    cases well.symm.trans unwell

/-- A wait begins with a question that may be held back for as long as is written there. -/
def Session.Opens (session : Session α τ) (timeout : Option (Span τ)) (c : Conversation α τ)
    (held : String) : Prop :=
  ∃ time, (timeout.getD (.measured session.pacing.limit)).time = .ok time ∧
    (Span.measured (holdUntil (Seconds.add c.now time) session.pacing.longest c.now)).holdText =
      .ok held

/-- A wait whose first answer is read as a healthy index comes to that index. -/
theorem Session.wait_of_healthy {timeout : Option (Span τ)} {held : String}
    (opens : session.Opens timeout c held)
    (meets : session.backend.Meets c (healthCall (.str name) held) answer)
    {index : IndexDescriptor}
    (read : readHealth (.str name) (session.backend.data (healthCall (.str name) held) answer) =
      .ok index)
    (well : index.health.isHealthy = true) :
    ((session.waitForHealthyIndex (.str name) timeout).run.run c).1 = .ok index := by
  obtain ⟨time, timed, written⟩ := opens
  have healthy : (session.lookBefore (.str name) (Seconds.add c.now time) c).Healthy index :=
    ⟨(look_outcome written meets).trans read, well⟩
  rw [run_waitForHealthyIndex timed]
  cases c.pending.length <;> exact poll_of_healthy healthy

/-- A conversation has come to an end with an answer to the question for the health of an index. -/
structure EndsWith (name : Name) (c d : Conversation α τ) (hold : String) (answer : α) : Prop where
  asked : ∃ turns reply, d.turns = turns ++ [⟨healthCall name hold, reply⟩]
  taken : ∃ earlier next, c.pending = earlier ++ next :: d.pending ∧ next.answer = answer

/-- A wait over an honest backend that comes to an index ends with an answer that is read as that
index, and the index is well. -/
theorem Backend.Honest.read_of_wait (honest : session.backend.Honest) {name : Name}
    {timeout : Option (Span τ)} {index : IndexDescriptor}
    (returned : (session.waitForHealthyIndex name timeout).run.run c = (.ok index, d)) :
    ∃ hold answer, EndsWith name c d hold answer ∧
      readHealth name (session.backend.decode (healthCall name hold) answer) = .ok index ∧
      index.health.isHealthy = true := by
  cases timed : (timeout.getD (.measured session.pacing.limit)).time with
  | error failure =>
    unfold waitForHealthyIndex at returned
    simp only [timed] at returned
    cases returned
  | ok time =>
    obtain ⟨rounds, last, waited⟩ := honest.waited timed name c
    rw [returned] at waited
    have member : last ∈ polls rounds last := List.mem_append_right _ (List.mem_singleton.2 rfl)
    obtain ⟨earlier, remaining⟩ := waited.polled.pending_suffix honest last member
    obtain ⟨log, quiet⟩ := waited.quiet
    have looked := waited.polled.looked honest last member
    have concluded := waited.concluded
    clear waited member
    cases concluded with
    | healthy healthy =>
      obtain ⟨seen, well⟩ := healthy
      cases looked with
      | unwritten unwritten => cases seen
      | unanswered written mishap => cases seen
      | @answered before hold text next rest written awaited =>
        change d = _ at quiet
        subst quiet
        refine ⟨text, next.answer, ⟨⟨_, _, rfl⟩, earlier, next, ?_, rfl⟩, seen, well⟩
        exact remaining.symm.trans (congrArg (earlier ++ ·) awaited)

/-- Of what was not found a healthy index is read only if the body is an object that tells this
health. -/
theorem Session.tells_of_missing {index : IndexDescriptor}
    (read : readHealth (.str name) (.error (.reported (.int 404) payload)) = .ok index)
    (well : index.health.isHealthy = true) :
    ∃ fields, payload = .obj fields ∧ TellsHealth fields index.health := by
  rw [readHealth_reported] at read
  cases read
  cases payload with
  | obj fields => exact ⟨fields, rfl, (healthOf_obj_eq_iff fields _).1 rfl⟩
  | _ => cases well

/-- Over an honest backend the question for the health of an index comes to exactly what the answer
says, for every index, every time to hold the question back and every answer that accepts it or
reports an error, but for one kind of answers. An index that was not found is of unknown health, and
is taken to be of the colour that the body of the answer tells, if it tells one. A wait that meets
such an answer first and is told that the index is well ends with it at once, and only so can an
answer that an index was not found end a wait for its health. -/
theorem health_is_read_as_said_but_for_coloured_misses (session : Session α τ)
    (honest : session.backend.Honest) (c : Conversation α τ) (name : Text) :
    (∀ hold held answer, hold.mapM Span.holdText = .ok held →
      let call : Call := .health (.str name) (.ofText? (held.map Text.ofString))
      session.backend.Meets c call answer →
      ((∃ fields, session.backend.Accepts call answer fields) ∨
        ∃ status payload, session.backend.Reports call answer status payload) →
      let outcome := ((session.indexHealth (.str name) hold).run.run c).1
      (SaysOfHealth session.backend call answer name outcome ↔
        ∀ state, ¬ColouredMiss session.backend call answer state) ∧
      ∀ state, ColouredMiss session.backend call answer state →
        outcome = .ok { name, health := state }) ∧
    (∀ timeout held answer state, session.Opens timeout c held →
      session.backend.Meets c (healthCall (.str name) held) answer →
      ColouredMiss session.backend (healthCall (.str name) held) answer state →
      state.isHealthy = true →
      ((session.waitForHealthyIndex (.str name) timeout).run.run c).1 =
        .ok { name, health := state }) ∧
    ∀ timeout index d,
      (session.waitForHealthyIndex (.str name) timeout).run.run c = (.ok index, d) →
      ∃ hold answer, EndsWith (.str name) c d hold answer ∧ index.health.isHealthy = true ∧
        ∀ payload, session.backend.Reports (healthCall (.str name) hold) answer 404 payload →
          ∃ fields, payload = .obj fields ∧ TellsHealth fields index.health := by
  refine ⟨?_, ?_, ?_⟩
  · intro hold held answer timed call meets heard outcome
    have judged : outcome = readHealth (.str name) (session.backend.data call answer) :=
      indexHealth_outcome timed meets
    rw [judged]
    refine ⟨⟨fun told state miss => ?_, SaysOfHealth.of_read rfl heard⟩,
      fun state miss => miss.read rfl⟩
    rw [miss.read rfl] at told
    exact miss.not_says rfl told
  · intro timeout held answer state opens meets miss
    exact wait_of_healthy opens meets (miss.read rfl)
  · intro timeout index d returned
    obtain ⟨hold, answer, ends, read, well⟩ := honest.read_of_wait returned
    refine ⟨hold, answer, ends, well, fun payload reports => ?_⟩
    have told : session.backend.decode (healthCall (.str name) hold) answer =
        .error (.reported (.int 404) payload) :=
      reports.data rfl
    rw [told] at read
    exact tells_of_missing read well

end

end

/-! ### An index that is not found and called green -/

/-- The body of such an answer. -/
def greenBody : List Char := "\x7b\"status\": \" Green\"\x7d".toList

/-- Such an answer as an error of a library. -/
def greenMiss : Client.Error where
  kind := "ApiError"
  text := "not found"
  metaStatus := some (.int 404)
  body := some (.obj [("status", .str "green")])

/-- A conversation in which it comes next. -/
def calledGreen : Conversation Client.Answer ℚ := .start [⟨.raised greenMiss, 0⟩] 0

/-- A wait begins there with a question that may be held back for a second. -/
theorem opens_calledGreen :
    (unhurried (Client.Elasticsearch.backend Client.Elasticsearch.errorKinds)).Opens none
      calledGreen "1000ms" := by
  have second : holdUntil (0 + 1 : ℚ) 2 0 = 1 := by
    rw [holdUntil_eq]
    norm_num
  have counted : (Span.measured (holdUntil (0 + 1 : ℚ) 2 0)).milliseconds = .ok 1000 := by
    rw [second]
    change Except.ok (Seconds.wholePart (1 * 1000)) = _
    norm_num [Seconds.wholePart]
  refine ⟨1, rfl, (Span.holdText_eq counted).trans (if_pos ?_)⟩
  decide +kernel

/-- It is taken for a green index, which it does not say; and a wait goes by it. -/
theorem green_miss_is_taken_for_well :
    let miss : Rest.Answer := .answered (.int 404) (Text.Octets.encode greenBody)
    let question := Call.health (.str "i") .null
    let green : IndexDescriptor := { name := "i", health := .green }
    let session := unhurried (Client.Elasticsearch.backend Client.Elasticsearch.errorKinds)
    let waited := (session.waitForHealthyIndex (.str "i") none).run.run calledGreen
    ((directly.indexHealth (.str "i") none).run.run (.start [⟨miss, 0⟩] 0)).1 = .ok green ∧
      ¬SaysOfHealth directly.backend question miss "i" (.ok green) ∧
      SaysOfHealth directly.backend question miss "i" (.ok { name := "i", health := .unknown }) ∧
      ∃ d hold answer, waited = (.ok green, d) ∧ EndsWith (.str "i") calledGreen d hold answer := by
  intro miss question green session waited
  have body : Rest.payloadOf (Text.Octets.encode greenBody) =
      .ok (.obj [("status", .str " Green")]) := Rest.payloadOf_encode (by rfl) (by cbv)
  have reports : directly.backend.Reports question miss 404 (.obj [("status", .str " Green")]) :=
    .http rfl rfl body
  have colour : HealthState.green ≠ .unknown := by decide
  have blank : TellsHealth [("status", .str " Green")] .green :=
    .named colour rfl ⟨[' '], "Green".toList, [], rfl, rfl, List.forall_mem_singleton.2 rfl,
      List.forall_mem_nil _⟩
  have plain : TellsHealth [("status", .str "green")] .green :=
    .named colour rfl ⟨[], "green".toList, [], rfl, rfl, List.forall_mem_nil _,
      List.forall_mem_nil _⟩
  have coloured : ColouredMiss directly.backend question miss .green := ⟨_, reports, blank, colour⟩
  have adapts : Client.Adapts session.backend Client.Elasticsearch.errorKinds := .elasticsearch _
  have among : greenMiss.Among Client.Elasticsearch.errorKinds :=
    .of_kind List.mem_cons_self List.mem_cons_self
  have present : Json.obj [("status", .str "green")] ≠ .null := Json.noConfusion
  have raised : ColouredMiss session.backend (healthCall (.str "i") "1000ms") (.raised greenMiss)
      .green :=
    ⟨_, .library adapts among (.described rfl) (.body rfl present), plain, colour⟩
  obtain ⟨looked, -⟩ := health_is_read_as_said_but_for_coloured_misses directly
    (Rest.backend_honest _) (.start [⟨miss, 0⟩] 0) "i"
  obtain ⟨-, opened, concluded⟩ := health_is_read_as_said_but_for_coloured_misses session
    (Client.Elasticsearch.backend_honest _) calledGreen "i"
  obtain ⟨judged, taken⟩ := looked none none miss rfl (Backend.meets_start ⟨_, rfl⟩)
    (.inr ⟨404, _, reports⟩)
  have read := taken .green coloured
  have ended : waited.1 = .ok green :=
    opened none "1000ms" (.raised greenMiss) .green opens_calledGreen (Backend.meets_start ⟨_, rfl⟩)
      raised rfl
  refine ⟨read, fun told => ?_, .missing reports, ?_⟩
  · rw [← read] at told
    exact judged.1 told .green coloured
  · rcases returned : waited with ⟨outcome, d⟩
    obtain rfl : outcome = .ok green := (congrArg Prod.fst returned).symm.trans ended
    obtain ⟨hold, answer, ends, -⟩ := concluded none green d returned
    exact ⟨d, hold, answer, rfl, ends⟩

end EngineGateway
