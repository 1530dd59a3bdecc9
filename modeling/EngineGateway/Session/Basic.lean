import EngineGateway.Session.Conversation
import EngineGateway.Settings.Basic

/-!
# Sessions

A session is a backend with the settings that its operations need. It holds no state; all state is
in the conversation.
-/

namespace EngineGateway

/-- How long to wait for the health of an index, and how long between two looks at it. -/
structure Pacing (τ : Type) where
  limit : τ
  first : τ
  longest : τ

/-- A session with an engine. -/
structure Session (α τ : Type) where
  backend : Backend α
  pacing : Pacing τ
  legacyDocumentType : Text
  /-- Whether closing the session closes the connection. -/
  ownsBackend : Bool

/-- The pacing that settings give. -/
def Settings.pacing (settings : Settings) : Pacing Float :=
  ⟨settings.healthTimeout, settings.firstPoll, settings.longestPoll⟩

/-- The session with some settings over a backend. -/
def Session.over (backend : Backend α) (settings : Settings) (ownsBackend : Bool) :
    Session α Float where
  backend := backend
  pacing := settings.pacing
  legacyDocumentType := settings.legacyDocumentType
  ownsBackend := ownsBackend

end EngineGateway
