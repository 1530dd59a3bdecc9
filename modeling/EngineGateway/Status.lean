import EngineGateway.Json.Value

/-!
# Statuses

By the status of its answer an engine says what became of a request. A status is a whole number.
Where recorded data holds another value in its place that value is kept, and it means what the
number means that it is equal to, if there is one.
-/

namespace EngineGateway

/-- The status of an answer. -/
abbrev Status : Type := Json

namespace Status

/-- The status of a success of which nothing more is said. -/
def success : Status := .int 200

/-- The status of what is not there. -/
def missing : Status := .int 404

/-- Whether a status tells of success. -/
def isSuccess (status : Status) : Bool := status.whole?.any fun n => 200 ≤ n && n < 300

/-- Whether a status says that what was asked for is not there. -/
def isMissing (status : Status) : Bool := status.whole? == some 404

/-- The successes are the numbers from 200 on, below 300. -/
theorem isSuccess_int (n : Int) : isSuccess (.int n) = (200 ≤ n && n < 300) := rfl

/-- What is not there is no success. -/
theorem isSuccess_of_isMissing {status : Status} (missing : status.isMissing = true) :
    status.isSuccess = false := by
  have number : status.whole? = some 404 := by simpa [isMissing] using missing
  simp [isSuccess, number]

end Status

end EngineGateway
