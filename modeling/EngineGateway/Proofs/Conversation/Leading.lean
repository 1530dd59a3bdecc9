import EngineGateway.Session.Conversation

/-!
# Where talks lead

A talk is judged by the conversations that it leads to. `Leads` says so of one talk, with what holds
before it and what holds of its outcome and of the conversation behind it; `Keeps` is the case of a
property that holds on both sides whatever comes of the talk. The judgements follow the way in which
talks are put together, so that a property of an operation comes down to the same property of the
calls that the operation makes.

Saying something, sleeping and asking are the only primitive steps. A property is undisturbed if it
looks neither at what was said nor at the time, so that only asking can matter to it.
-/

namespace EngineGateway.Talk

variable {α τ β γ : Type}

/-- From every conversation that satisfies `before`, a talk leads to an outcome and a conversation
that satisfy `behind`. -/
def Leads (before : Conversation α τ → Prop) (talk : Talk α τ β)
    (behind : Except Failure β → Conversation α τ → Prop) : Prop :=
  ∀ c, before c → behind (talk.run.run c).1 (talk.run.run c).2

/-- A talk keeps a property, whether it succeeds or fails. -/
def Keeps (kept : Conversation α τ → Prop) (talk : Talk α τ β) : Prop :=
  Leads kept talk fun _ => kept

/-- A property that looks neither at what was said nor at the time. -/
def Undisturbed (kept : Conversation α τ → Prop) : Prop :=
  ∀ c log sleeps now, kept c → kept { c with log := log, sleeps := sleeps, now := now }

section

variable {before before' kept : Conversation α τ → Prop} {talk : Talk α τ β}
  {behind behind' : Except Failure β → Conversation α τ → Prop}

/-- More may be assumed before a talk, and less concluded behind it. -/
theorem Leads.weaken (leads : Leads before talk behind) (assumed : ∀ c, before' c → before c)
    (concluded : ∀ outcome c, behind outcome c → behind' outcome c) :
    Leads before' talk behind' :=
  fun c holds => concluded _ _ (leads c (assumed c holds))

/-- Two talks in a row. What the first leads to by failing has to be enough for both. -/
theorem Leads.bind {next : β → Talk α τ γ} {final : Except Failure γ → Conversation α τ → Prop}
    (first : Leads before talk behind)
    (rest : ∀ value, Leads (behind (.ok value)) (next value) final)
    (failed : ∀ failure c, behind (.error failure) c → final (.error failure) c) :
    Leads before (talk >>= next) final := by
  intro c holds
  have middle := first c holds
  rw [run_bind]
  cases ran : talk.run.run c with
  | mk outcome after =>
    rw [ran] at middle
    cases outcome with
    | ok value => exact rest value after middle
    | error failure => exact failed failure after middle

/-- A talk that leads to a property, followed by one that keeps it. -/
theorem Leads.followed {next : β → Talk α τ γ} (first : Leads before talk fun _ => kept)
    (rest : ∀ value, Keeps kept (next value)) : Leads before (talk >>= next) fun _ => kept :=
  first.bind rest fun _ _ holds => holds

/-- An outcome that needs no conversation leaves everything as it is. -/
theorem Leads.outcome {result : Except Failure β} (holds : ∀ c, before c → behind result c) :
    Leads before (Talk.outcome result) behind := by
  intro c assumed
  cases result <;> exact holds c assumed

/-- A talk that keeps a property, and one that leads on from it. What the first leaves by failing
has to be enough. -/
theorem Leads.preceded {next : β → Talk α τ γ} (first : Keeps before talk)
    (rest : ∀ value, Leads before (next value) fun _ => kept) (enough : ∀ c, before c → kept c) :
    Leads before (talk >>= next) fun _ => kept :=
  Leads.bind first rest fun _ c holds => enough c holds

/-- An outcome that needs no conversation, and what follows if it is a value. -/
theorem Leads.outcome_bind {result : Except Failure β} {next : β → Talk α τ γ}
    (rest : ∀ value, result = .ok value → Leads before (next value) fun _ => kept)
    (enough : ∀ c, before c → kept c) :
    Leads before (Talk.outcome result >>= next) fun _ => kept := by
  cases result with
  | ok value => exact fun c holds => rest value rfl c holds
  | error failure => exact enough

/-- A choice leads where both ways lead. -/
theorem Leads.ite {condition : Prop} [Decidable condition] {other : Talk α τ β}
    (holding : condition → Leads before talk behind)
    (failing : ¬condition → Leads before other behind) :
    Leads before (if condition then talk else other) behind := by
  by_cases holds : condition
  · rw [if_pos holds]
    exact holding holds
  · rw [if_neg holds]
    exact failing holds

/-- What follows an error that the engine reported leads on from what it leads to by itself. -/
theorem Leads.onReport {handle : Status → Json → Talk α τ β}
    (action : Leads before talk fun _ => kept)
    (handled : ∀ status payload, Keeps kept (handle status payload)) :
    Leads before (onReport talk handle) fun _ => kept := by
  intro c holds
  have middle := action c holds
  rw [run_onReport]
  cases ran : talk.run.run c with
  | mk outcome after =>
    rw [ran] at middle
    cases outcome with
    | ok value => exact middle
    | error failure =>
      cases failure with
      | reported status payload => exact handled status payload after middle
      | _ => exact middle

end

section

variable {kept : Conversation α τ → Prop} {talk : Talk α τ β}

/-- Talks in a row keep what each of them keeps. -/
theorem Keeps.bind {next : β → Talk α τ γ} (first : Keeps kept talk)
    (rest : ∀ value, Keeps kept (next value)) : Keeps kept (talk >>= next) :=
  first.followed rest

theorem Keeps.pure (value : β) : Keeps kept (pure value : Talk α τ β) := fun _ holds => holds

theorem Keeps.throw (failure : Failure) : Keeps kept (throw failure : Talk α τ β) :=
  fun _ holds => holds

theorem Keeps.outcome (result : Except Failure β) : Keeps kept (Talk.outcome result) :=
  Leads.outcome fun _ holds => holds

/-- Looking at a conversation changes nothing. -/
theorem Keeps.get : Keeps kept (get : Talk α τ (Conversation α τ)) := fun _ holds => holds

/-- Neither does looking at the clock. -/
theorem Keeps.clock : Keeps kept (clock : Talk α τ τ) := fun _ holds => holds

/-- A choice keeps what both ways keep. -/
theorem Keeps.ite {condition : Prop} [Decidable condition] {other : Talk α τ β}
    (holding : condition → Keeps kept talk) (failing : ¬condition → Keeps kept other) :
    Keeps kept (if condition then talk else other) :=
  Leads.ite holding failing

/-- What is said does not disturb. -/
theorem Keeps.say (undisturbed : Undisturbed kept) (level : LogLevel) (text : Text) :
    Keeps kept (say level text) := fun c holds => undisturbed c _ c.sleeps c.now holds

/-- Sleep does not disturb. -/
theorem Keeps.sleep [Seconds τ] (undisturbed : Undisturbed kept) (time : τ) :
    Keeps kept (sleep time) := fun c holds => undisturbed c c.log _ _ holds

/-- What follows an error that the engine reported keeps what it keeps by itself. -/
theorem Keeps.onReport {handle : Status → Json → Talk α τ β} (action : Keeps kept talk)
    (handled : ∀ status payload, Keeps kept (handle status payload)) :
    Keeps kept (onReport talk handle) :=
  Leads.onReport action handled

end

/-- What holds before a talk and what holds behind it, where the talk is one call with nothing but
words around it: neither is disturbed, and without the call the second follows from the first. -/
structure Stride (before kept : Conversation α τ → Prop) : Prop where
  early : Undisturbed before
  late : Undisturbed kept
  enough : ∀ c, before c → kept c

/-- To keep a property is the stride from it to itself. -/
theorem Undisturbed.stride {kept : Conversation α τ → Prop} (undisturbed : Undisturbed kept) :
    Stride kept kept := ⟨undisturbed, undisturbed, fun _ holds => holds⟩

/-- A conversation that goes on from some turns and some requests. -/
def Grown (turns : List Turn) (sent : List Request) (c : Conversation α τ) : Prop :=
  turns <+: c.turns ∧ sent <+: c.sent

/-- A talk that takes back nothing that was asked or sent before it. -/
def Grows (talk : Talk α τ β) : Prop := ∀ turns sent, Keeps (Grown turns sent) talk

/-- The turns before a talk are the first ones behind it. -/
theorem Grows.begins {talk : Talk α τ β} (grows : Grows talk) (c : Conversation α τ) :
    c.turns <+: (talk.run.run c).2.turns :=
  (grows c.turns c.sent c ⟨List.prefix_refl _, List.prefix_refl _⟩).1

/-- Asking adds one turn, and a request at most. -/
theorem grows_ask [Seconds τ] (backend : Backend α) (call : Call) :
    Grows (ask backend call : Talk α τ call.Reply) := by
  intro turns sent c grown
  obtain ⟨pending, now, asked⟩ := after_ask backend call c
  rw [asked]
  exact ⟨grown.1.trans (List.prefix_append _ _), grown.2.trans (List.prefix_append _ _)⟩

/-- Closing adds a request at most. -/
theorem grows_close (backend : Backend α) : Grows (close backend : Talk α τ Unit) :=
  fun _ _ _ grown => ⟨grown.1, grown.2.trans (List.prefix_append _ _)⟩

end EngineGateway.Talk
