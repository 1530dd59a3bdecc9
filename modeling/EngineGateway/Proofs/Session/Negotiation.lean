import EngineGateway.Proofs.Session.Detection
import EngineGateway.Proofs.Session.ObjectAnswer
import EngineGateway.Proofs.Version.Overlong

/-!
# Finding out what the engine can do

A session finds out the version and then what the engine can do. The engine's description of itself
either names a version (`Version.Names`) or is of no use, and a description that is of no use is
called so. What the engine can do follows from a version that is named, whatever it is, but from one
that is overlong and not of the fork: there the second step fails with a number that is too long,
after the first one has succeeded, and it does so every time.
-/

namespace EngineGateway

open Session Talk

/-- A description names a version: its block `version` has a text for a number in which the version
is read. -/
inductive Version.Names : Json → Version → Prop where
  | intro {fields block : Fields} {number : Text} {version : Version}
      (described : fields.get? "version" = some (.obj block))
      (numbered : block.get? "number" = some (.str number))
      (read : Version.parse number ((block.get? "distribution").bind Json.text?) = .ok version) :
    Names (.obj fields) version

/-- It follows from a version what the engine can do: its numbers are not looked at, or each of them
can be counted. -/
def Version.Negotiable (version : Version) : Prop :=
  version.distribution = Capabilities.forkDistribution ∨ ¬version.Overlong

/-- A failure in which a version cannot be compared, for a number with so many digits that it is
none. -/
inductive Failure.IsUncountable : Failure → Prop where
  | intro {digits : Nat} (long : Decimal.digitLimit < digits) :
    IsUncountable (.badVersion (.tooLong digits))

/-! ### Descriptions -/

section

variable {payload : Json} {version : Version}

/-- A value with fields is an object. -/
theorem Json.fields?_eq_some_iff {fields : Fields} :
    payload.fields? = some fields ↔ payload = .obj fields := by
  constructor
  · intro held
    cases payload with
    | obj inner => rw [Option.some.inj held]
    | _ => cases held
  · rintro rfl
    rfl

/-- The parts of a description from which a version is read. -/
theorem Version.infoParts?_eq_some_iff {number : Json} {distribution : Option Text} :
    infoParts? payload = some (number, distribution) ↔
      ∃ fields block : Fields, payload = .obj fields ∧
        fields.get? "version" = some (.obj block) ∧ block.get? "number" = some number ∧
        (block.get? "distribution").bind Json.text? = distribution := by
  constructor
  · intro found
    simp only [infoParts?, infoBlock?, Option.bind_eq_bind, Option.bind_eq_some_iff] at found
    obtain ⟨block, ⟨fields, outer, described, held, inner⟩, part, numbered, same⟩ := found
    obtain ⟨rfl, rfl⟩ := Prod.mk.inj (Option.some.inj same)
    obtain rfl := Json.fields?_eq_some_iff.1 inner
    exact ⟨fields, block, Json.fields?_eq_some_iff.1 outer, held, numbered, rfl⟩
  · rintro ⟨fields, block, rfl, held, numbered, rfl⟩
    simp only [infoParts?, infoBlock?, Json.fields?, held, numbered, Option.bind_eq_bind,
      Option.bind_some]
    rfl

/-- A version is found in exactly the descriptions that name it. -/
theorem Version.ofInfo_eq_ok_iff : ofInfo payload = .ok version ↔ Names payload version := by
  constructor
  · intro found
    unfold ofInfo at found
    split at found
    next number distribution parts =>
      obtain ⟨fields, block, rfl, held, numbered, rfl⟩ := infoParts?_eq_some_iff.1 parts
      split at found
      next named read =>
        obtain rfl := Except.ok.inj found
        exact .intro held numbered read
      next => cases found
    next => cases found
  · rintro ⟨held, numbered, read⟩
    have parts := infoParts?_eq_some_iff.2 ⟨_, _, rfl, held, numbered, rfl⟩
    rw [ofInfo, parts]
    simp only [read]

/-- Every other description is said to be of no use. -/
theorem Version.ofInfo_of_unnamed (unnamed : ¬∃ version, Names payload version) :
    ∃ fault, ofInfo payload = .error (.malformedInfo fault) := by
  unfold ofInfo
  split
  next number distribution parts =>
    split
    next version read =>
      obtain ⟨fields, block, rfl, held, numbered, rfl⟩ := infoParts?_eq_some_iff.1 parts
      exact absurd ⟨version, .intro held numbered read⟩ unnamed
    next fault _ => exact ⟨.badVersion fault, rfl⟩
  next => exact ⟨.noVersion payload, rfl⟩

/-- What follows from a version as an outcome: a value if it is negotiable, and otherwise a version
that cannot be compared. -/
theorem capabilitiesOf_cases (version : Version) :
    (version.Negotiable ∧ ∃ able, capabilitiesOf version = .ok able) ∨
      (¬version.Negotiable ∧
        ∃ failure, failure.IsUncountable ∧ capabilitiesOf version = .error failure) := by
  by_cases negotiable : version.Negotiable
  · obtain ⟨able, follows⟩ := Capabilities.ofVersion_eq_ok_iff.2 negotiable
    exact .inl ⟨negotiable, able, capabilitiesOf_eq_ok follows⟩
  · obtain ⟨numbered, overlong⟩ := not_or.1 negotiable
    obtain ⟨digits, long, refused⟩ :=
      Capabilities.ofVersion_of_overlong numbered (not_not.1 overlong)
    exact .inr ⟨negotiable, _, .intro long, capabilitiesOf_eq_error refused⟩

/-- A number that is too long is no trouble on the way to the engine. -/
theorem Failure.IsUncountable.not_isConnectionError {failure : Failure}
    (uncountable : failure.IsUncountable) : ¬failure.IsConnectionError := by
  cases uncountable
  exact not_false

end

/-! ### Two steps -/

variable {α τ : Type}

/-- What becomes of finding out, by the version that is named: what the engine can do, an answer
that is of no use, or a number that is too long. -/
structure Negotiates (named : Version → Prop) (outcome : Except Failure Capabilities) : Prop where
  able : (∃ able, outcome = .ok able) ↔ ∃ version, named version ∧ version.Negotiable
  useless : BlamesEngine outcome ↔ ¬∃ version, named version
  uncountable : (∃ failure, outcome = .error failure ∧ failure.IsUncountable) ↔
    ∃ version, named version ∧ ¬version.Negotiable

/-- With a version that is named, what follows from it decides. -/
theorem negotiates_of_named {named : Version → Prop} {version : Version} (isNamed : named version)
    (only : ∀ other, named other → other = version) :
    Negotiates named (capabilitiesOf version) := by
  have among (p : Version → Prop) : p version ↔ ∃ other, named other ∧ p other := by
    constructor
    · exact fun holds => ⟨version, isNamed, holds⟩
    · rintro ⟨other, isOther, holds⟩
      exact only other isOther ▸ holds
  have known : ∃ other, named other := ⟨version, isNamed⟩
  obtain ⟨negotiable, able, follows⟩ | ⟨stuck, failure, uncountable, failed⟩ :=
    capabilitiesOf_cases version
  · rw [follows]
    constructor
    · exact (iff_of_true ⟨able, rfl⟩ negotiable).trans (among Version.Negotiable)
    · exact iff_of_false nofun (not_not.2 known)
    · refine (iff_of_false ?_ (not_not.2 negotiable)).trans (among fun v => ¬v.Negotiable)
      rintro ⟨failure, same, -⟩
      cases same
  · rw [failed]
    constructor
    · refine (iff_of_false ?_ stuck).trans (among Version.Negotiable)
      rintro ⟨able, same⟩
      cases same
    · refine iff_of_false ?_ (not_not.2 known)
      rintro ⟨other, same, blames⟩
      obtain rfl := Except.error.inj same
      exact uncountable.not_isConnectionError blames
    · exact (iff_of_true ⟨failure, rfl, uncountable⟩ stuck).trans (among fun v => ¬v.Negotiable)

/-- With no version that is named, an answer of no use is complained about. -/
theorem negotiates_of_unnamed {named : Version → Prop} (unnamed : ¬∃ version, named version)
    (fault : InfoFault) : Negotiates named (.error (.malformedInfo fault)) := by
  constructor
  · refine iff_of_false ?_ fun ⟨version, isNamed, _⟩ => unnamed ⟨version, isNamed⟩
    rintro ⟨able, same⟩
    cases same
  · exact iff_of_true ⟨_, rfl, trivial⟩ unnamed
  · refine iff_of_false ?_ fun ⟨version, isNamed, _⟩ => unnamed ⟨version, isNamed⟩
    rintro ⟨failure, same, uncountable⟩
    obtain rfl := Except.error.inj same
    cases uncountable

/-- Finds out the version, and then what the engine can do. -/
def Session.negotiate [Seconds τ] (session : Session α τ) : Talk α τ Capabilities := do
  let _ ← session.detectVersion
  session.capabilities

section

variable [Seconds τ] {session : Session α τ} {c : Conversation α τ}

/-- A session that knows a version derives from it what the engine can do, or has done so. -/
theorem Knows.capabilities_of_known (knows : Knows session c) {version : Version}
    (known : c.memory.version = some version) :
    (session.capabilities.run.run c).1 = capabilitiesOf version := by
  cases derived : c.memory.capabilities with
  | some able =>
    obtain ⟨other, told, follows⟩ := knows.capabilities able derived
    obtain rfl := Option.some.inj (known.symm.trans told)
    rw [run_capabilities_of_known session derived]
    exact (capabilitiesOf_eq_ok follows).symm
  | none =>
    rw [run_capabilities_of_unknown session derived, run_detectVersion_of_known session known]
    cases follows : capabilitiesOf version <;> simp only [follows]

/-- Where the first step finds out a version, the second one derives from it what the engine can
do; where it fails, there is no second one. -/
theorem Knows.run_negotiate (knows : Knows session c) :
    (session.negotiate.run.run c).1 =
      (session.detectVersion.run.run c).1.bind capabilitiesOf := by
  obtain ⟨informed, remembered⟩ := Knows.leads_detectVersion c knows
  unfold Session.negotiate
  rw [run_bind]
  cases ran : session.detectVersion.run.run c with
  | mk outcome after =>
    rw [ran] at informed remembered
    cases outcome with
    | error failure => rfl
    | ok version => exact informed.capabilities_of_known remembered

/-- The answer to the question who the engine is decides what is found out. -/
theorem detectVersion_of_answered (unknown : c.memory.version = none) {payload : Json}
    (answered : ((Talk.ask session.backend .info).run.run c).1 = .ok payload) :
    (session.detectVersion.run.run c).1 = Version.ofInfo payload := by
  rw [run_detectVersion_of_unknown session unknown]
  cases ran : (Talk.ask session.backend .info).run.run c with
  | mk reply after =>
    rw [ran] at answered
    subst answered
    cases told : Version.ofInfo payload <;> simp only [told]

/-- Every answer to the question who the engine is leads to a verdict: it names a version, or it is
of no use. -/
theorem Knows.negotiates (knows : Knows session c) (unknown : c.memory.version = none)
    {payload : Json} (answered : ((Talk.ask session.backend .info).run.run c).1 = .ok payload) :
    Negotiates (Version.Names payload) (session.negotiate.run.run c).1 := by
  rw [knows.run_negotiate, detectVersion_of_answered unknown answered]
  by_cases named : ∃ version, Version.Names payload version
  · obtain ⟨version, isNamed⟩ := named
    have told := Version.ofInfo_eq_ok_iff.2 isNamed
    rw [told]
    refine negotiates_of_named isNamed fun other isOther => ?_
    exact Except.ok.inj ((Version.ofInfo_eq_ok_iff.2 isOther).symm.trans told)
  · obtain ⟨fault, useless⟩ := Version.ofInfo_of_unnamed named
    rw [useless]
    exact negotiates_of_unnamed named fault

/-- An engine that reports an error has not said who it is. -/
theorem Knows.run_negotiate_of_reported (knows : Knows session c)
    (unknown : c.memory.version = none) {status : Status} {payload : Json}
    (refused : ((Talk.ask session.backend .info).run.run c).1 =
      .error (.reported status payload)) :
    (session.negotiate.run.run c).1 = .error (.malformedInfo (.refused status payload)) := by
  rw [knows.run_negotiate, run_detectVersion_of_unknown session unknown]
  cases ran : (Talk.ask session.backend .info).run.run c with
  | mk reply after =>
    rw [ran] at refused
    subst refused
    rfl

/-- A version that was found out decides from then on, whatever is done in between. -/
theorem Knows.negotiates_later (knows : Knows session c) {version : Version}
    (found : (session.detectVersion.run.run c).1 = .ok version) (later : List (Operation τ)) :
    Negotiates (· = version) (session.capabilities.run.run
      (session.after later (session.detectVersion.run.run c).2)).1 := by
  obtain ⟨informed, remembered⟩ := Knows.leads_detectVersion c knows
  rw [found] at remembered
  have told : learned (session.detectVersion.run.run c).2.turns = some version :=
    informed.version.symm.trans remembered
  rw [(informed.after later).capabilities_of_known (informed.version_after told later)]
  exact negotiates_of_named rfl fun _ same => same

end

/-- Finding out the version and then what the engine can do fails in one way only, but for overlong
versions. In every session, over every backend and after any course of operations, as long as the
version is not known: an answer to the question who the engine is leads to what it can do if and
only if it names a negotiable version, and to a failure that says that the engine was not reached or
that its answer is of no use if and only if it names none; an error that the engine reports does so,
too.
A version that is not negotiable leads to a number that is too long. And once the version was found
out, what the engine can do is found out at any later time if and only if the version is negotiable,
and again fails with such a number if it is not. -/
theorem negotiation_fails_in_one_way_but_for_overlong_versions {α τ : Type} [Seconds τ]
    (session : Session α τ) (answers : List (Timed α τ)) (now : τ)
    (operations : List (Operation τ)) :
    let c := session.after operations (.start answers now)
    let reply := ((Talk.ask session.backend .info).run.run c).1
    let outcome := (session.negotiate.run.run c).1
    (learned c.turns = none →
      (∀ payload, reply = .ok payload → Negotiates (Version.Names payload) outcome) ∧
      ∀ status payload, reply = .error (.reported status payload) → BlamesEngine outcome) ∧
    ∀ version, (session.detectVersion.run.run c).1 = .ok version → ∀ later,
      Negotiates (· = version) (session.capabilities.run.run
        (session.after later (session.detectVersion.run.run c).2)).1 := by
  intro c reply outcome
  have knows : Knows session c := (Knows.start session answers now).after operations
  refine ⟨fun untold => ?_, fun version found => knows.negotiates_later found⟩
  have unknown : c.memory.version = none := knows.version.trans untold
  refine ⟨fun payload => knows.negotiates unknown, fun status payload refused => ?_⟩
  exact ⟨_, knows.run_negotiate_of_reported unknown refused, trivial⟩

/-! ### A pre-release with too many digits -/

/-- A version whose pre-release is one number with a digit too many. -/
def longPreRelease : Version.Inscription where
  front := []
  spelling := ⟨['8'], ['0'], some ['0'], some Version.SemanticVersion.longNumber⟩
  back := []

/-- The description of an engine of this version. -/
def longDescription : Json :=
  .obj [("version", .obj [("number", .str (Text.ofChars longPreRelease.spelling.chars))])]

/-- The version is read, but it is overlong. -/
theorem longPreRelease_makes :
    longPreRelease.Makes (Text.ofChars longPreRelease.spelling.chars) ∧
      longPreRelease.spelling.Short ∧ (longPreRelease.spelling.meaning none).Overlong := by
  have ones : ∀ c ∈ Version.SemanticVersion.longNumber, c = '1' :=
    fun _ => List.eq_of_mem_replicate
  have numeric : Version.IsDigitRun Version.SemanticVersion.longNumber := by
    refine ⟨List.cons_ne_nil _ _, fun c member => ?_⟩
    rw [ones c member]
    decide
  have wellFormed : longPreRelease.spelling.WellFormed := by
    refine ⟨by decide, by decide, by decide, ?_⟩
    rintro pre ⟨⟩
    refine ⟨numeric.1, fun c member => ?_⟩
    rw [ones c member]
    decide
  refine ⟨⟨List.forall_mem_nil _, wellFormed, List.forall_mem_nil _, ?_⟩, ?_, ?_⟩
  · change _ = Text.ofChars (longPreRelease.spelling.chars ++ [])
    rw [List.append_nil]
  · change ∀ run ∈ [['8'], ['0'], ['0']], run.length ≤ Decimal.digitLimit
    decide
  · refine ⟨_, rfl, _, numeric, ?_, ?_⟩
    · have same := Version.preReleaseChars_ofChars Version.SemanticVersion.longNumber
      exact same.symm ▸ List.infix_rfl
    · have length : Version.SemanticVersion.longNumber.length = Decimal.digitLimit + 1 :=
        List.length_replicate
      exact length ▸ Nat.lt_succ_self Decimal.digitLimit

/-- An engine that describes itself so is known by its version, but what it can do is not found out,
neither at once nor later. -/
theorem overlong_pre_release_is_not_negotiated :
    let session := throughClient
    let start : Conversation Client.Answer Float := .start [⟨.value longDescription, 0⟩] 0
    let version := longPreRelease.spelling.meaning none
    (session.detectVersion.run.run start).1 = .ok version ∧
      (∃ failure, (session.negotiate.run.run start).1 = .error failure ∧
        failure.IsUncountable) ∧
      ¬BlamesEngine (session.negotiate.run.run start).1 ∧
      ∃ failure, (session.capabilities.run.run
        (session.after [] (session.detectVersion.run.run start).2)).1 = .error failure ∧
          failure.IsUncountable := by
  intro session start version
  obtain ⟨made, short, overlong⟩ := longPreRelease_makes
  have names : Version.Names longDescription version :=
    .intro rfl rfl (made.parse_of_short short none)
  have stuck : ¬version.Negotiable := not_or.2 ⟨by decide, not_not.2 overlong⟩
  have answered : ((Talk.ask session.backend .info).run.run start).1 = .ok longDescription :=
    (Backend.meets_start ⟨_, rfl⟩).asked
  have found : (session.detectVersion.run.run start).1 = .ok version :=
    (detectVersion_of_answered rfl answered).trans (Version.ofInfo_eq_ok_iff.2 names)
  obtain ⟨first, later⟩ := negotiation_fails_in_one_way_but_for_overlong_versions session
    [⟨.value longDescription, 0⟩] 0 []
  have verdict := (first rfl).1 longDescription answered
  refine ⟨found, verdict.uncountable.2 ⟨version, names, stuck⟩, ?_, ?_⟩
  · exact fun blames => verdict.useless.1 blames ⟨version, names⟩
  · exact (later version found []).uncountable.2 ⟨version, rfl, stuck⟩

end EngineGateway
