import EngineGateway.Proofs.Conversation.Leading

/-!
# How talks end

A talk ends in a value or in a failure. `Ends` says of which kind the value is and which failures
are allowed, if a property of the conversation holds, and that the property holds again at the end.
Which failures are allowed may depend on the conversation in which the talk ends: a failure is no
fault of the session where the conversation has a turn that could not be made. As with `Leads`,
there is one rule for each way in which talks are put together.
-/

namespace EngineGateway.Talk

variable {α τ β γ : Type}

/-- An outcome that is a value of the kind `good`, or a failure that is allowed in the conversation,
and a property of the conversation. -/
def Ended (kept : Conversation α τ → Prop) (good : β → Prop)
    (allowed : Failure → Conversation α τ → Prop) (outcome : Except Failure β)
    (c : Conversation α τ) : Prop :=
  kept c ∧
    match outcome with
    | .ok value => good value
    | .error failure => allowed failure c

/-- From every conversation with a property a talk leads to one that has it too, and ends in a value
that is `good` or in a failure that is allowed there. -/
def Ends (kept : Conversation α τ → Prop) (good : β → Prop)
    (allowed : Failure → Conversation α τ → Prop) (talk : Talk α τ β) : Prop :=
  Leads kept talk (Ended kept good allowed)

section

variable {before kept : Conversation α τ → Prop} {good : β → Prop} {better : γ → Prop}
  {allowed : Failure → Conversation α τ → Prop} {talk : Talk α τ β}

/-- Of a value less may be said. -/
theorem Ends.weaken (ends : Ends kept good allowed talk) {fair : β → Prop}
    (fairly : ∀ value, good value → fair value) : Ends kept fair allowed talk := by
  refine Leads.weaken ends (fun _ holds => holds) fun outcome c reached => ⟨reached.1, ?_⟩
  cases outcome with
  | ok value => exact fairly value reached.2
  | error failure => exact reached.2

/-- Two talks in a row end as the second one does, or fail as the first one. For the first one more
may be known of the conversation. -/
theorem Ends.after {next : β → Talk α τ γ} (first : Leads before talk (Ended kept good allowed))
    (rest : ∀ value, good value → Ends kept better allowed (next value)) :
    Leads before (talk >>= next) (Ended kept better allowed) := by
  refine Leads.bind first (fun value c reached => ?_) fun failure c reached => reached
  exact rest value reached.2 c reached.1

/-- Two talks in a row of which nothing more is known. -/
theorem Ends.bind {next : β → Talk α τ γ} (first : Ends kept good allowed talk)
    (rest : ∀ value, good value → Ends kept better allowed (next value)) :
    Ends kept better allowed (talk >>= next) := Ends.after first rest

theorem Ends.pure {value : β} (holds : good value) :
    Ends kept good allowed (pure value : Talk α τ β) := fun _ keeps => ⟨keeps, holds⟩

theorem Ends.throw {failure : Failure} (permitted : ∀ c, allowed failure c) :
    Ends kept good allowed (throw failure : Talk α τ β) := fun c keeps => ⟨keeps, permitted c⟩

/-- An outcome that needs no conversation has to be good or allowed itself. -/
theorem Ends.outcome {result : Except Failure β} (values : ∀ value, result = .ok value → good value)
    (failures : ∀ failure, result = .error failure → ∀ c, allowed failure c) :
    Ends kept good allowed (Talk.outcome result) := by
  cases result with
  | ok value => exact Ends.pure (values value rfl)
  | error failure => exact Ends.throw (failures failure rfl)

/-- Looking at a conversation always succeeds. -/
theorem Ends.get : Ends kept (fun _ => True) allowed (get : Talk α τ (Conversation α τ)) :=
  fun _ keeps => ⟨keeps, trivial⟩

/-- Changing a conversation always succeeds; the change has to keep the property. -/
theorem Ends.modify {change : Conversation α τ → Conversation α τ}
    (keeps : ∀ c, kept c → kept (change c)) :
    Ends kept (fun _ => True) allowed (modify change : Talk α τ Unit) :=
  fun c holds => ⟨keeps c holds, trivial⟩

/-- So does looking at the clock. -/
theorem Ends.clock : Ends kept (fun _ => True) allowed (clock : Talk α τ τ) :=
  fun _ keeps => ⟨keeps, trivial⟩

/-- Saying something always succeeds. -/
theorem Ends.say (undisturbed : Undisturbed kept) (level : LogLevel) (text : Text) :
    Ends kept (fun _ => True) allowed (say level text : Talk α τ Unit) :=
  fun c keeps => ⟨undisturbed c _ c.sleeps c.now keeps, trivial⟩

/-- So does sleeping. -/
theorem Ends.sleep [Seconds τ] (undisturbed : Undisturbed kept) (time : τ) :
    Ends kept (fun _ => True) allowed (sleep time : Talk α τ Unit) :=
  fun c keeps => ⟨undisturbed c c.log _ _ keeps, trivial⟩

/-- A choice ends as the way does that is taken. -/
theorem Ends.ite {condition : Prop} [Decidable condition] {other : Talk α τ β}
    (holding : condition → Ends kept good allowed talk)
    (failing : ¬condition → Ends kept good allowed other) :
    Ends kept good allowed (if condition then talk else other) := by
  by_cases holds : condition
  · rw [if_pos holds]
    exact holding holds
  · rw [if_neg holds]
    exact failing holds

/-- After an error that the engine reported, what is done about it has to end well. -/
theorem Ends.onReport {handle : Status → Json → Talk α τ β} (action : Ends kept good allowed talk)
    (handled : ∀ status payload, (∃ c, allowed (.reported status payload) c) →
      Ends kept good allowed (handle status payload)) :
    Ends kept good allowed (onReport talk handle) := by
  intro c keeps
  have middle := action c keeps
  rw [run_onReport]
  cases ran : talk.run.run c with
  | mk outcome after =>
    rw [ran] at middle
    cases outcome with
    | ok value => exact middle
    | error failure =>
      cases failure with
      | reported status payload => exact handled status payload ⟨after, middle.2⟩ after middle.1
      | _ => exact middle

end

end EngineGateway.Talk
