import EngineGateway.Backend.Basic

/-!
# Answers of client libraries

A client library returns a value, or a response object that carries a status beside its body, or it
raises an error. An error counts as the engine's answer if it carries a status; without one the
engine was not reached. Only errors of the kinds that the library makes known are read in this way,
and those of kinds that are made from them. Any other error is trouble inside the library and is
handed on as it came.

The values in answers and errors were read from texts, so the whole numbers in them have no more
digits than can be written again in a message.
-/

namespace EngineGateway.Client

/-- An error that a library raises, with what it carries. Messages call it by the name of its own
kind. -/
structure Error where
  kind : Text
  text : Text
  /-- The kinds that its own kind is made from, directly or not. -/
  bases : List Text := []
  metaStatus : Option Json := none
  statusCode : Option Json := none
  body : Option Json := none
  info : Option Json := none

/-- What a library answers a call with. -/
inductive Answer where
  | value (v : Json)
  | response (status : Status) (body : Json)
  | raised (error : Error)

namespace Error

/-- The status that an error carries. A yes or no in its place is none, and hides the other place.
-/
def status? (error : Error) : Option Int :=
  match error.metaStatus with
  | some (.int status) => some status
  | some (.bool _) => none
  | _ =>
    match error.statusCode with
    | some (.int status) => some status
    | _ => none

/-- A value that is there and is not `null`. -/
def filled? (value : Option Json) : Option Json :=
  match value with
  | some .null => none
  | other => other

/-- The engine's words for the error, or else the library's. -/
def payload (error : Error) : Json :=
  (filled? error.body <|> filled? error.info).getD (.str error.text)

/-- The failure that an error of a known kind means. -/
def failure (error : Error) : Failure :=
  match error.status? with
  | some status => .reported (.int status) error.payload
  | none => .unreachable error.kind error.text

/-- Every kind that an error is of, its own first. -/
def kinds (error : Error) : List Text := error.kind :: error.bases

/-- An error is of one of the given kinds if one of its own is among them. -/
def Among (known : List Text) (error : Error) : Prop := ∃ kind ∈ error.kinds, kind ∈ known

/-- Whether an error is of one of the given kinds. -/
def isAmong (known : List Text) (error : Error) : Bool := error.kinds.any known.contains

/-- The failure that an error means to someone who knows the given kinds of errors. -/
def failureAmong (known : List Text) (error : Error) : Failure :=
  if error.isAmong known then error.failure else .passed error.kind error.text

/-- The outcome of a raw request that ended in an error, to someone who knows the given kinds. -/
def responseAmong (known : List Text) (error : Error) : Except Failure RawResponse :=
  match error.isAmong known, error.status? with
  | true, some status => .ok ⟨.int status, error.payload⟩
  | _, _ => .error (error.failureAmong known)

/-- The test for it decides just that. -/
theorem isAmong_iff {known : List Text} {error : Error} :
    error.isAmong known = true ↔ error.Among known := by
  simp [isAmong, Among]

/-- An error of a kind is among the kinds that this one is among. -/
theorem Among.of_kind {known : List Text} {error : Error} {kind : Text} (own : kind ∈ error.kinds)
    (among : kind ∈ known) : error.Among known := ⟨kind, own, among⟩

/-- An error without a status means that the engine was not reached. -/
theorem failure_of_no_status {error : Error} (none : error.status? = none) :
    error.failure = .unreachable error.kind error.text := by
  simp [failure, none]

end Error

/-- The failure of a call that a library gives no answer to. -/
def silence (known : List Text) : Failure :=
  Error.failureAmong known { kind := "TransportError", text := exhausted }

end EngineGateway.Client
