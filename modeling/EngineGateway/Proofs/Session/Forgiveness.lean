import EngineGateway.Proofs.Backend.Meaning
import EngineGateway.Proofs.Json.Display
import EngineGateway.Proofs.Rest.Reaching
import EngineGateway.Proofs.Session.ObjectAnswer
import EngineGateway.Proofs.Text.Trimming

/-!
# Errors that are no failures

Creating an index forgives the engine one error and deleting an index forgives another. What makes
an error the first one is what its payload gives for a type (`Failure.GivesType`): a value in the
place of the type that is no text is shown as a text, but never as one of the three names that count
(`Index.saysExists_iff`). The second is told by its status alone. Every other error is handed on as
it was reported.
-/

namespace EngineGateway

/-- What stands in a text before the first occurrence of a mark is a word without the mark exactly
if the text is the word, or begins with the word and the mark. -/
theorem Text.upTo_eq_iff {mark : Char} {word : Text} (unmarked : .char mark ∉ word.points)
    (text : Text) :
    text.upTo mark = word ↔ text = word ∨ ∃ rest, text = word ++ ofChars [mark] ++ rest := by
  have passes : ∀ point ∈ word.points, (point != .char mark) = true := by
    intro point member
    have different : point ≠ .char mark := fun same => unmarked (same ▸ member)
    simpa using different
  constructor
  · rintro rfl
    have whole : (text.upTo mark).points ++ text.points.dropWhile (· != .char mark) = text.points :=
      List.takeWhile_append_dropWhile
    have stops := List.head?_dropWhile_not (· != Point.char mark) text.points
    cases left : text.points.dropWhile (· != .char mark) with
    | nil =>
      rw [left, List.append_nil] at whole
      exact .inl (congrArg Text.mk whole.symm)
    | cons point rest =>
      rw [left] at stops whole
      have marked : point = .char mark := by simpa using stops
      subst marked
      refine .inr ⟨⟨rest⟩, congrArg Text.mk ?_⟩
      rw [points_append, List.append_assoc]
      exact whole.symm
  · rintro (rfl | ⟨rest, rfl⟩)
    · exact congrArg Text.mk (List.takeWhile_eq_self_iff.2 passes)
    · refine congrArg Text.mk ?_
      rw [points_append, points_append, List.append_assoc]
      exact takeWhile_append_of_stop passes (by simp [ofChars, pointsOf])

namespace Failure

/-- An error payload gives a type of error: as the type of the error that it describes, or as the
beginning of the text that its error is, alone or before a bracket. -/
inductive GivesType (payload : Json) (type : Text) : Prop where
  | described {fields error : Fields} (isObject : payload = .obj fields)
      (found : fields.get? "error" = some (.obj error))
      (typed : error.get? "type" = some (.str type)) : GivesType payload type
  | begun {fields : Fields} {text : Text} (isObject : payload = .obj fields)
      (found : fields.get? "error" = some (.str text))
      (begins : text = type ∨ ∃ rest, text = type ++ "[" ++ rest) : GivesType payload type

/-- The type that is read off a payload is a word exactly if the payload gives that word for it. -/
theorem errorType?_eq_some_iff {word : String} (isWord : Json.IsWord word)
    (unmarked : '[' ∉ word.toList) (payload : Json) :
    errorType? payload = some (word : Text) ↔ GivesType payload word := by
  have clean : Text.Point.char '[' ∉ (Text.ofString word).points := by
    simpa [Text.ofString, Text.ofChars, Text.pointsOf] using unmarked
  constructor
  · intro read
    cases payload with
    | obj fields =>
      unfold errorType? at read
      split at read
      case h_1 error found =>
        split at read
        case h_1 => cases read
        case h_2 => cases read
        case h_3 type present typed =>
          have shown : type.plain = Text.ofString word := Option.some.inj read
          rw [Json.plain_eq_iff isWord] at shown
          exact .described rfl found (shown ▸ typed)
      case h_2 text found =>
        exact .begun rfl found ((Text.upTo_eq_iff clean text).1 (Option.some.inj read))
      case h_3 => cases read
    | _ => cases read
  · intro gives
    cases gives with
    | described isObject found typed =>
      subst isObject
      simp [errorType?, Json.fields?, found, typed, Json.plain_str]
    | begun isObject found begins =>
      subst isObject
      have same := (Text.upTo_eq_iff clean _).2 begins
      simp [errorType?, Json.fields?, found, same]

end Failure

namespace Index

/-- The types of errors by which the generations of engines say that an index is there already. -/
def existsTypes : List String :=
  ["resource_already_exists_exception", "index_already_exists_exception",
    "IndexAlreadyExistsException"]

/-- An error payload gives one of these types. -/
def NamesExisting (payload : Json) : Prop := ∃ type ∈ existsTypes, Failure.GivesType payload type

/-- Each of these types is a word without brackets. -/
theorem isWord_of_mem_existsTypes {type : String} (member : type ∈ existsTypes) :
    Json.IsWord type ∧ '[' ∉ type.toList := by
  unfold Json.IsWord
  simp only [existsTypes, List.mem_cons, List.not_mem_nil, or_false] at member
  rcases member with rfl | rfl | rfl <;> decide

/-- An index is taken to be there already exactly if the payload gives one of the three types. -/
theorem saysExists_iff (payload : Json) : saysExists payload = true ↔ NamesExisting payload := by
  have read (type : String) (member : type ∈ existsTypes) :=
    Failure.errorType?_eq_some_iff (isWord_of_mem_existsTypes member).1
      (isWord_of_mem_existsTypes member).2 payload
  have spelled : existsErrors = existsTypes.map Text.ofString := rfl
  unfold saysExists
  constructor
  · intro found
    cases given : Failure.errorType? payload with
    | none =>
      rw [given] at found
      cases found
    | some type =>
      rw [given] at found
      have among : type ∈ existsTypes.map Text.ofString := List.contains_iff_mem.1 found
      obtain ⟨word, member, rfl⟩ := List.mem_map.1 among
      exact ⟨word, member, (read word member).1 given⟩
  · rintro ⟨word, member, gives⟩
    rw [(read word member).2 gives]
    exact List.contains_iff_mem.2 (spelled ▸ List.mem_map_of_mem member)

end Index

section

variable {α τ β : Type} {c : Conversation α τ}

/-- A call whose report is handled comes to what is done about the report, if there is one. -/
theorem Session.handled_report {next : Option Json → Talk α τ β}
    {handle : Status → Json → Talk α τ (Option Json)} {asking : Talk α τ Json} {status : Status}
    {payload : Json} {outcome : Except Failure β}
    (asked : (asking.run.run c).1 = .error (.reported status payload))
    (handled : ∀ d, ((handle status payload >>= next).run.run d).1 = outcome) :
    ((Talk.onReport (some <$> asking) handle >>= next).run.run c).1 = outcome := by
  have wrapped : (some <$> asking).run.run c =
      (.error (.reported status payload), (asking.run.run c).2) := by
    rw [map_eq_pure_bind, Talk.run_bind]
    cases ran : asking.run.run c with
    | mk reply after =>
      rw [ran] at asked
      subst asked
      rfl
  rw [← handled (asking.run.run c).2, Talk.run_bind, Talk.run_onReport, wrapped, Talk.run_bind]

variable [Seconds τ] {session : Session α τ} {name : Text} {answer : α} {status : Status}
  {payload : Json}

/-- An operation that reads an object fails as its call does where the engine was not reached. -/
theorem Session.Expects.fails_of_loses {operation : Operation τ} {call : Call}
    {judge : Json → Except Failure operation.Result} {d : Conversation α τ} {kind text : Text}
    (expects : session.Expects c operation d call judge)
    (meets : session.backend.Meets d call answer) (loses : session.backend.Loses answer kind text) :
    ((operation.run session).run.run c).1 = .error (.unreachable kind text) := by
  have lost := loses.data expects.want
  have told := expects.outcome meets (by rw [lost]; nofun)
  rw [told, lost]
  rfl

/-- What creating an index comes to where the engine reports an error. -/
theorem Session.createIndex_of_reported {keep : Bool} {settings body : Json}
    (read : Index.settingsBody settings = .ok body)
    (meets : session.backend.Meets c (.createIndex (.str name) body) answer)
    (reported : session.backend.data (.createIndex (.str name) body) answer =
      .error (.reported status payload)) :
    ((session.createIndex (.str name) keep settings).run.run c).1 =
      if Index.saysExists payload then
        if keep then .ok { resource := name, created := some false }
        else .error (.indexExists (.str name))
      else .error (.reported status payload) := by
  unfold createIndex
  rw [read, Talk.run_bind, Talk.run_outcome_ok]
  refine handled_report (meets.asked.trans reported) fun d => ?_
  cases Index.saysExists payload <;> cases keep <;> rfl

/-- What deleting an index comes to where the engine reports an error. -/
theorem Session.deleteIndex_of_reported
    (meets : session.backend.Meets c (.deleteIndex (.str name)) answer)
    (reported : session.backend.data (.deleteIndex (.str name)) answer =
      .error (.reported status payload)) :
    ((session.deleteIndex (.str name)).run.run c).1 =
      if status.isMissing then .ok { resource := name, acknowledged := false }
      else .error (.reported status payload) := by
  unfold deleteIndex
  refine handled_report (meets.asked.trans reported) fun d => ?_
  cases status.isMissing <;> rfl

end

/-- Creating and deleting an index forgive the engine one error each. Where the engine reports an
error to the request for a new index, that the index is there already comes of it exactly if the
payload gives one of the three types of that error, as a failure or, if such an index is to be kept,
as an acknowledgement that nothing was created; and otherwise the report itself. Where the engine
reports an error to the request to delete an index, an acknowledgement that says no comes of the
status 404, and the report itself of every other. That the engine was not reached is never forgiven.
-/
theorem lifecycle_forgives_one_error_each {α τ : Type} [Seconds τ] (session : Session α τ)
    (c : Conversation α τ) (name : Text) :
    (∀ keep settings body answer, Index.settingsBody settings = .ok body →
      session.backend.Meets c (.createIndex (.str name) body) answer →
      let created := ((session.createIndex (.str name) keep settings).run.run c).1
      (∀ status payload,
        session.backend.Reports (.createIndex (.str name) body) answer status payload →
        (created = .error (.indexExists (.str name)) ↔
          keep = false ∧ Index.NamesExisting payload) ∧
        (created = .ok { resource := name, created := some false } ↔
          keep = true ∧ Index.NamesExisting payload) ∧
        (created = .error (.reported (.int status) payload) ↔ ¬Index.NamesExisting payload)) ∧
      ∀ kind text, session.backend.Loses answer kind text →
        created = .error (.unreachable kind text)) ∧
    ∀ answer, session.backend.Meets c (.deleteIndex (.str name)) answer →
      let deleted := ((session.deleteIndex (.str name)).run.run c).1
      (∀ status payload, session.backend.Reports (.deleteIndex (.str name)) answer status payload →
        (deleted = .ok { resource := name, acknowledged := false } ↔ status = 404) ∧
        (deleted = .error (.reported (.int status) payload) ↔ status ≠ 404)) ∧
      ∀ kind text, session.backend.Loses answer kind text →
        deleted = .error (.unreachable kind text) := by
  refine ⟨fun keep settings body answer read meets => ⟨fun status payload reports => ?_,
    fun kind text loses => ?_⟩, fun answer meets => ⟨fun status payload reports => ?_,
    fun kind text loses => ?_⟩⟩
  · have reported := reports.data rfl
    rw [Session.createIndex_of_reported read meets reported, ← Index.saysExists_iff]
    cases Index.saysExists payload <;> cases keep <;> simp
  · have expects : session.Expects c (.createIndex (.str name) keep settings) c
        (.createIndex (.str name) body) _ := .createIndex read
    exact expects.fails_of_loses meets loses
  · have reported := reports.data rfl
    rw [Session.deleteIndex_of_reported meets reported, ne_eq, ← Status.isMissing_int]
    cases Status.isMissing (.int status) <;> simp
  · exact Session.Expects.deleteIndex.fails_of_loses meets loses

/-- The words of an early engine for an index that is there already. -/
def clash : Json := .obj [("error", .str "IndexAlreadyExistsException[[i] already exists]")]

/-- The error that a library raises with them. -/
def clashing : Client.Error where
  kind := "TransportError"
  text := "bad request"
  statusCode := some (.int 400)
  info := some clash

/-- They are forgiven if the index is to be kept and a failure of their own otherwise; that an index
to be deleted is not found is forgiven, and that the engine was not reached is not. -/
theorem clash_and_missing_index_are_forgiven :
    ((throughOpensearch.createIndex (.str "i") false .null).run.run
          (.start [⟨.raised clashing, 0⟩] 0)).1 = .error (.indexExists (.str "i")) ∧
      ((throughOpensearch.createIndex (.str "i") true .null).run.run
          (.start [⟨.raised clashing, 0⟩] 0)).1 = .ok { resource := "i", created := some false } ∧
      ((directly.deleteIndex (.str "i")).run.run (.start [⟨Rest.bodiless 404, 0⟩] 0)).1 =
        .ok { resource := "i", acknowledged := false } ∧
      ((directly.deleteIndex (.str "i")).run.run
          (.start [⟨.failed "ConnectError" "refused", 0⟩] 0)).1 =
        .error (.unreachable "ConnectError" "refused") := by
  have adapts : Client.Adapts throughOpensearch.backend Client.Opensearch.errorKinds :=
    .opensearch _
  have clashes : throughOpensearch.backend.Reports (.createIndex (.str "i") .null)
      (.raised clashing) 400 clash :=
    .library adapts (.of_kind List.mem_cons_self List.mem_cons_self) (.itself nofun nofun rfl)
      (.info (.inl rfl) rfl nofun)
  have named : Index.NamesExisting clash :=
    ⟨"IndexAlreadyExistsException", by decide, .begun rfl rfl (.inr ⟨"[i] already exists]", rfl⟩)⟩
  have missing : directly.backend.Reports (.deleteIndex (.str "i")) (Rest.bodiless 404) 404
      (.obj []) := .http rfl rfl rfl
  have lost : directly.backend.Loses (.failed "ConnectError" "refused") "ConnectError" "refused" :=
    .http rfl
  obtain ⟨creating, -⟩ := lifecycle_forgives_one_error_each throughOpensearch
    (.start [⟨.raised clashing, 0⟩] 0) "i"
  obtain ⟨-, deleting⟩ := lifecycle_forgives_one_error_each directly
    (.start [⟨Rest.bodiless 404, 0⟩] 0) "i"
  obtain ⟨-, losing⟩ := lifecycle_forgives_one_error_each directly
    (.start [⟨.failed "ConnectError" "refused", 0⟩] 0) "i"
  refine ⟨?_, ?_, ?_, ?_⟩
  · obtain ⟨refused, -⟩ :=
      (creating false .null .null _ rfl (Backend.meets_start ⟨_, rfl⟩)).1 400 clash clashes
    exact refused.2 ⟨rfl, named⟩
  · obtain ⟨-, kept, -⟩ :=
      (creating true .null .null _ rfl (Backend.meets_start ⟨_, rfl⟩)).1 400 clash clashes
    exact kept.2 ⟨rfl, named⟩
  · exact ((deleting _ (Backend.meets_start ⟨_, rfl⟩)).1 _ _ missing).1.2 rfl
  · exact (losing _ (Backend.meets_start ⟨_, rfl⟩)).2 _ _ lost

end EngineGateway
