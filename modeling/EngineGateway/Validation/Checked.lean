import EngineGateway.Json.Value

/-!
# Values with complaints

The outcome of looking at data from outside: the value it stands for, or all that is wrong with it.
Unlike a computation that stops at its first error, two checks that stand side by side are both
made, and the complaints of the first come before those of the second.
-/

namespace EngineGateway

/-- One step on the way from a value to a part of it. -/
inductive Step where
  | key (name : String)
  | index (position : Nat)
  deriving Repr, DecidableEq

/-- What can be wrong with a value. -/
inductive Expectation where
  | present
  | text
  | unicodeText
  | wholeNumber
  | wholeNumberText
  | noFraction
  | wholeNumberSize
  | finite
  | number
  | numberText
  | yesNo
  | yesNoReadable
  | dictionary
  | list
  | record (model : String)
  | oneOf (choices : List String)
  | positive
  | nonNegative
  | unfrozen
  deriving Repr, DecidableEq

/-- A complaint: an expectation that the value at the end of a path does not meet. -/
structure Complaint where
  path : List Step
  expected : Expectation
  deriving Repr, DecidableEq

/-- A value, or the complaints about what should have been one. -/
inductive Checked (α : Type) where
  | passed (value : α)
  | failed (complaints : List Complaint)
  deriving Repr

namespace Checked

/-- Both checks are made, and all their complaints are kept in order. -/
def ap (f : Checked (α → β)) (x : Checked α) : Checked β :=
  match f, x with
  | .passed f, .passed x => .passed (f x)
  | .passed _, .failed later => .failed later
  | .failed early, .passed _ => .failed early
  | .failed early, .failed later => .failed (early ++ later)

instance : Applicative Checked where
  pure := .passed
  seq f x := ap f (x ())

/-- A complaint about the value itself. -/
def refuse (expected : Expectation) : Checked α := .failed [⟨[], expected⟩]

/-- A further check of a value that has passed; it is not made for one that has not. -/
def andThen (x : Checked α) (next : α → Checked β) : Checked β :=
  match x with
  | .passed value => next value
  | .failed complaints => .failed complaints

/-- What a check of a part says about the whole: its complaints lie one step further on. -/
def under (step : Step) : Checked α → Checked α
  | .passed value => .passed value
  | .failed complaints => .failed (complaints.map fun c => { c with path := step :: c.path })

/-- All items of a list checked, each under its position from `start` on. -/
def eachFrom (start : Nat) (check : Json → Checked α) : List Json → Checked (List α)
  | [] => .passed []
  | item :: rest =>
    List.cons <$> under (.index start) (check item) <*> eachFrom (start + 1) check rest

/-- The complaints, if there are any. -/
def complaints : Checked α → List Complaint
  | .passed _ => []
  | .failed complaints => complaints

/-- Checks side by side keep each other's complaints. -/
theorem complaints_ap (f : Checked (α → β)) (x : Checked α) :
    (ap f x).complaints = f.complaints ++ x.complaints := by
  cases f <;> cases x <;> simp [ap, complaints]

/-- A list whose items all pass has passed. -/
theorem eachFrom_map {check : Json → Checked α} {write : β → Json} {value : β → α} {items : List β}
    (passes : ∀ item ∈ items, check (write item) = .passed (value item)) (start : Nat) :
    eachFrom start check (items.map write) = .passed (items.map value) := by
  induction items generalizing start with
  | nil => rfl
  | cons item rest inductionHypothesis =>
    have first := passes item List.mem_cons_self
    have others := inductionHypothesis (fun x member => passes x (List.mem_cons_of_mem _ member))
      (start + 1)
    simp only [List.map_cons, eachFrom, first, others]
    rfl

end Checked

end EngineGateway
