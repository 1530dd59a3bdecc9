import EngineGateway.Proofs.Client.Translation

/-!
# What an answer says

Each backend has its own way of saying that a request was accepted, that the engine reports an error
or that the engine was not reached. `Backend.Accepts`, `Backend.Reports` and `Backend.Loses` gather
these ways, for any status and any payload, and what an answer says decides what a call is told.
-/

namespace EngineGateway

variable {α : Type}

/-- A status says that something is missing if it is one number. -/
theorem Status.isMissing_int (n : Int) : Status.isMissing (.int n) = true ↔ n = 404 := by
  change (some n == some (404 : Int)) = true ↔ n = 404
  simp

/-- In an answer to a call the engine reports an error, with a status and words of its own. Over
HTTP that is an answer that is no success, and through a library an error of a known kind that
carries a status. -/
inductive Backend.Reports : {α : Type} → Backend α → Call → α → Int → Json → Prop where
  | http {engine : Rest.Address} {call : Call} {status : Int} {octets : List UInt8} {payload : Json}
      (usable : Rest.addressFault? engine call = none)
      (failed : Status.isSuccess (.int status) = false)
      (read : Rest.payloadOf octets = .ok payload) :
    Reports (Rest.backend engine) call (.answered (.int status) octets) status payload
  | library {backend : Backend Client.Answer} {known : List Text} {call : Call}
      {error : Client.Error} {status : Int} {payload : Json}
      (adapts : Client.Adapts backend known) (among : error.Among known)
      (carries : error.Carries status) (tells : error.Tells payload) :
    Reports backend call (.raised error) status payload

/-- An answer says that the engine was not reached, and by what kind of trouble. Over HTTP that is
trouble of the transport, and through a library an error of a known kind without a status. -/
inductive Backend.Loses : {α : Type} → Backend α → α → Text → Text → Prop where
  | http {engine : Rest.Address} {kind text : Text} (transport : Rest.passesThrough kind = false) :
    Loses (Rest.backend engine) (.failed kind text) kind text
  | library {backend : Backend Client.Answer} {known : List Text} {error : Client.Error}
      (adapts : Client.Adapts backend known) (among : error.Among known)
      (unnumbered : ∀ status, ¬error.Carries status) :
    Loses backend (.raised error) error.kind error.text

/-- In an answer to a call the engine accepts the request, with an object. -/
inductive Backend.Accepts : {α : Type} → Backend α → Call → α → Fields → Prop where
  | http {engine : Rest.Address} {call : Call} {status : Int} {octets : List UInt8}
      {fields : Fields}
      (usable : Rest.addressFault? engine call = none)
      (success : Status.isSuccess (.int status) = true)
      (read : Rest.payloadOf octets = .ok (.obj fields)) :
    Accepts (Rest.backend engine) call (.answered (.int status) octets) fields
  | elasticsearch {known : List Text} {call : Call} {answer : Client.Answer} {fields : Fields}
      (holds : Client.Holds answer (.obj fields)) :
    Accepts (Client.Elasticsearch.backend known) call answer fields
  | opensearch {known : List Text} {call : Call} {fields : Fields} :
    Accepts (Client.Opensearch.backend known) call (.value (.obj fields)) fields

variable {backend : Backend α} {call : Call} {answer : α} {status : Int} {payload : Json}

/-- A call for data through a library is told of an error of a known kind with a status. -/
theorem Client.Adapts.data_of_status {backend : Backend Client.Answer} {known : List Text}
    {error : Client.Error} (adapts : Client.Adapts backend known) (asks : call.want = .data)
    (among : error.Among known) (carries : error.Carries status) (tells : error.Tells payload) :
    backend.data call (.raised error) = .error (.reported (.int status) payload) := by
  have reported : error.failureAmong known = .reported (.int status) payload := by
    rw [Client.Error.failureAmong_of_status among (Client.Error.status?_eq_some_iff.2 carries),
      Client.Error.payload_eq_iff.2 tells]
  cases adapts with
  | elasticsearch known =>
    change Want.dataOf call.want (Client.Elasticsearch.replyOf _ (.raised error) call.want) = _
    rw [asks]
    exact congrArg Except.error reported
  | opensearch known =>
    rw [Client.Opensearch.data_eq _ _ asks]
    exact congrArg Except.error reported

/-- A report is what the data of an answer comes to in which the engine reports an error. -/
theorem Backend.Reports.data (reports : backend.Reports call answer status payload)
    (asks : call.want = .data) :
    backend.data call answer = .error (.reported (.int status) payload) := by
  cases reports with
  | http usable failed read =>
    rw [Rest.data_answered asks usable, read]
    have refused : RawResponse.ok ⟨.int status, payload⟩ = false := failed
    change Rest.expectObject call ⟨.int status, payload⟩ = _
    unfold Rest.expectObject
    rw [refused]
    rfl
  | library adapts among carries tells => exact adapts.data_of_status asks among carries tells

/-- Whatever is asked, an answer that says that the engine was not reached ends it with that. -/
theorem Backend.Loses.decode {kind text : Text} (loses : backend.Loses answer kind text) :
    backend.decode call answer = .error (.unreachable kind text) := by
  cases loses with
  | http transport =>
    have lost : Rest.trouble kind text = .unreachable kind text := by
      simp [Rest.trouble, transport]
    exact congrArg Except.error lost
  | library adapts among unnumbered =>
    have absent := Client.Error.status?_eq_none_iff.2 unnumbered
    rw [adapts.decode_of_no_answer (.inr absent),
      Client.Error.failureAmong_of_no_status among absent]

/-- A call for data ends with that in particular. -/
theorem Backend.Loses.data {kind text : Text} (loses : backend.Loses answer kind text)
    (asks : call.want = .data) : backend.data call answer = .error (.unreachable kind text) := by
  unfold Backend.data
  rw [loses.decode]
  change call.want.dataOf (.error (.unreachable kind text)) = _
  rw [asks]
  rfl

/-- The object is the data of an answer in which the engine accepts a request. -/
theorem Backend.Accepts.data {fields : Fields} (accepts : backend.Accepts call answer fields)
    (asks : call.want = .data) : backend.data call answer = .ok (.obj fields) := by
  cases accepts with
  | @http engine call status octets fields usable success read =>
    rw [Rest.data_answered asks usable, read]
    have accepted : RawResponse.ok ⟨.int status, .obj fields⟩ = true := success
    change Rest.expectObject call ⟨.int status, .obj fields⟩ = _
    unfold Rest.expectObject
    rw [accepted]
    rfl
  | elasticsearch holds => exact Client.Elasticsearch.data_of_holds asks holds
  | opensearch => exact Client.Opensearch.data_eq _ _ asks

end EngineGateway
