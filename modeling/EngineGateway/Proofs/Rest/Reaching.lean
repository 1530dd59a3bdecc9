import EngineGateway.Proofs.Rest.Segments
import EngineGateway.Session.Basic

/-!
# Calls that reach the engine

A call reaches the engine if the address of its request can be built: every name in it has octets,
the address is valid and says by which rules it is to be read, and its host is the name or number
that it seems to be. What such a call lacks to be sent is at most a body that can be written.
-/

namespace EngineGateway.Rest

/-- The address of a call's request can be built. -/
def Reaches (engine : Address) (call : Call) : Prop :=
  ∃ address, (plan call).bind (Plan.address engine) = .ok address ∧
    checkHost address.host = .ok () ∧ address.fault? = none

/-- The body of a call's request. -/
def bodyIn : Call → Json
  | .createIndex _ body | .writeDocument _ _ body _ | .search _ body | .putPipeline _ body
  | .raw _ _ body _ => body
  | _ => .null

/-- A plan has the body of its call. -/
theorem body_of_plan {call : Call} {planned : Plan} (isPlan : plan call = .ok planned) :
    planned.body = bodyIn call := by
  cases call <;> simp only [plan, bind_eq_ok] at isPlan
  case info | raw =>
    obtain rfl := Except.ok.inj isPlan
    rfl
  case pipelineExists => cases isPlan
  case writeDocument =>
    obtain ⟨_, -, _, -, made⟩ := isPlan
    obtain rfl := Except.ok.inj made
    rfl
  all_goals
    obtain ⟨_, -, made⟩ := isPlan
    obtain rfl := Except.ok.inj made
    rfl

/-- A value can be sent: no float in it is no number, no whole number in it has more digits than a
number may have, and it can be put in octets. -/
structure Sendable (value : Json) : Prop where
  finite : value.isFinite = true
  countable : value.isCountable = true
  writable : value.isWritable = true

/-- Nothing can be sent. -/
theorem sendable_null : Sendable .null := ⟨rfl, rfl, rfl⟩

/-- The bodies that pass the check are those that can be sent. -/
theorem checkBody_eq_ok_iff {body : Json} : checkBody body = .ok () ↔ Sendable body := by
  unfold checkBody
  constructor
  · intro passed
    split at passed
    · cases passed
    case h_2 spelled =>
      obtain ⟨finite, countable⟩ := Json.numberFault?_eq_none_iff body |>.1 spelled
      split at passed
      case isTrue writable => exact ⟨finite, countable, writable⟩
      case isFalse => cases passed
  · rintro ⟨finite, countable, writable⟩
    rw [(Json.numberFault?_eq_none_iff body).2 ⟨finite, countable⟩]
    exact if_pos writable

section

variable {engine : Address} {call : Call}

/-- Nothing makes the answer to a call that reaches the engine useless. -/
theorem Reaches.addressFault?_eq (reaches : Reaches engine call) :
    addressFault? engine call = none := by
  obtain ⟨address, built, -, faultless⟩ := reaches
  rw [addressFault?, built]
  exact faultless

/-- Where the address of a call's request can be built, what is left of the request is its body and
its host. -/
theorem encode_eq_of_addressed {address : Address}
    (built : (plan call).bind (Plan.address engine) = .ok address) :
    ∃ planned method, plan call = .ok planned ∧ planned.sentMethod = .ok method ∧
      (backend engine).encode call = do
        checkBody (bodyIn call)
        checkHost address.host
        return .http method (String.ofList address.target) (bodyOf (bodyIn call)) := by
  obtain ⟨planned, isPlan, addressed⟩ := bind_eq_ok.1 built
  have body := body_of_plan isPlan
  have whole := addressed
  simp only [Plan.address, bind_eq_ok] at whole
  obtain ⟨_, -, _, -, _, -, method, spelled, -⟩ := whole
  refine ⟨planned, method, isPlan, spelled, ?_⟩
  change (plan call).bind (Plan.request engine) = _
  rw [isPlan]
  change planned.request engine = _
  simp only [Plan.request, addressed, spelled, body, bind, Except.bind]

/-- If the body can be sent as well, the request is that of the call's plan. -/
theorem encode_of_addressed {address : Address}
    (built : (plan call).bind (Plan.address engine) = .ok address)
    (checked : checkHost address.host = .ok ()) (sendable : Sendable (bodyIn call)) :
    ∃ planned method, plan call = .ok planned ∧ planned.sentMethod = .ok method ∧
      (backend engine).encode call =
        .ok (.http method (String.ofList address.target) (bodyOf (bodyIn call))) := by
  obtain ⟨planned, method, isPlan, spelled, encoded⟩ := encode_eq_of_addressed built
  refine ⟨planned, method, isPlan, spelled, ?_⟩
  rw [encoded, checkBody_eq_ok_iff.2 sendable, checked]
  rfl

/-- A call that reaches the engine is sent if its body can be. -/
theorem Reaches.encode_eq (reaches : Reaches engine call) (sendable : Sendable (bodyIn call)) :
    ∃ request, (backend engine).encode call = .ok request := by
  obtain ⟨address, built, checked, -⟩ := reaches
  obtain ⟨planned, method, -, -, written⟩ := encode_of_addressed built checked sendable
  exact ⟨_, written⟩

end

/-- A string always makes a segment. -/
theorem segmentWith_ofString (safe : List Char) (s : String) :
    ∃ written, segmentWith safe (.ofString s) = .ok written := by
  have encoded := Text.Percent.encodePoints?_pointsOf
    (fun c => Text.Percent.isUnreserved c || safe.contains c) s.toList
  simp only [segmentWith, Text.Percent.encode?, Text.ofString, Text.ofChars, encoded,
    Option.map_some]
  exact ⟨_, rfl⟩

/-- A pipeline whose id is a string has a path. -/
theorem pipelinePath_ofString (id : String) :
    ∃ path, pipelinePath (.str (.ofString id)) = .ok path := by
  obtain ⟨written, spelled⟩ := segmentWith_ofString [] id
  refine ⟨"/_ingest/pipeline/" ++ written, ?_⟩
  rw [pipelinePath, bind_eq_ok]
  exact ⟨written, spelled, rfl⟩

/-! ### An engine on a host of its own -/

/-- The address of such an engine. -/
def simplest : Address where
  scheme := "http".toList
  user := []
  host := "engine".toList
  port := none
  path := []
  query := none
  fragment := none

/-- An answer without a body. -/
def bodiless (status : Int) : Answer := .answered (.int status) []

end EngineGateway.Rest

namespace EngineGateway

/-- A session over HTTP with the engine. -/
def directly : Session Rest.Answer Float := .over (Rest.backend Rest.simplest) .standard true

end EngineGateway
