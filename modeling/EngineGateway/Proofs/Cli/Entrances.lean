import EngineGateway.Cli.JsonArgument
import EngineGateway.Proofs.Session.IndexSettings

/-!
# Two ways in for an object

A JSON object comes in as text in two places: as an argument of the command line and as the settings
of a new index. Both take a blank text for none and read any other as JSON, and they agree on every
text that holds an object or no JSON at all. They part at a text of any other value. The argument is
refused, and the settings are handed on as they are, so a list, a text or a number goes out to the
engine for the settings of an index.
-/

namespace EngineGateway.Cli

/-- A text does not lead to a file. -/
def IsInline (written : Text) : Prop := ∀ path, written.points ≠ .char '@' :: path

/-- A text is JSON, but of a value that is no object. -/
def HoldsOther (written : Text) : Prop :=
  ∃ value, Json.read written = .ok value ∧ ∀ fields, value ≠ .obj fields

/-- In a text too many arrays and objects stand inside each other to be read. -/
def IsTooDeep (written : Text) : Prop :=
  written.isBlankText = false ∧ Json.read written = .error .tooDeep

/-- A failure says of a text that it is not of the form that it should have. -/
inductive Misformed : Failure → Prop where
  | malformed (fault : Json.Fault) (line column offset : Nat) :
    Misformed (.unreadable (.malformed fault line column offset))
  | tooLong (digits : Nat) : Misformed (.unreadable (.tooLong digits))
  | notObject (argument : Text) : Misformed (.argumentNotObject argument)

/-- An argument and settings come to the same: to nothing, to one object, or to a complaint about
the form of the text. -/
inductive Agree : Except Failure (Option Fields) → Except Failure Json → Prop where
  | nothing : Agree (.ok none) (.ok .null)
  | object (fields : Fields) : Agree (.ok (some fields)) (.ok (.obj fields))
  | refused {failure other : Failure} (misformed : Misformed failure)
    (alsoMisformed : Misformed other) : Agree (.error failure) (.error other)

section

variable (files : Files) {written : Text}

/-- A text that does not lead to a file is the argument's own. -/
theorem argumentText_of_inline (inline : IsInline written) :
    argumentText files written = .ok written := by
  unfold argumentText
  split
  next path leads => exact absurd leads (inline path)
  next => rfl

/-- A blank text is nothing, as an argument and as settings. -/
theorem entrances_of_blank (blank : written.isBlankText = true) :
    objectArgument files (.str written) = .ok none ∧
      Index.settingsBody (.str written) = .ok .null := by
  constructor
  · change writtenObject files written = _
    rw [writtenObject, if_pos blank]
  · rw [Index.settingsBody, if_pos blank]

/-- A text that is JSON is not blank. -/
theorem not_blank_of_read {value : Json} (read : Json.read written = .ok value) :
    ¬written.isBlankText = true := by
  intro blank
  obtain ⟨refusal, refused⟩ := Json.read_of_blank blank
  cases read.symm.trans refused

/-- An argument of any other text is what is read in it, if that is an object. -/
theorem objectArgument_of_solid (inline : IsInline written)
    (solid : ¬written.isBlankText = true) : objectArgument files (.str written) =
      match Json.read written with
      | .ok (.obj fields) => .ok (some fields)
      | .ok _ => .error (.argumentNotObject written)
      | .error error => .error (.unreadable error) := by
  change writtenObject files written = _
  rw [writtenObject, if_neg solid, argumentText_of_inline files inline]
  rfl

/-- Settings of any other text are what is read in it. -/
theorem settingsBody_of_solid (solid : ¬written.isBlankText = true) :
    Index.settingsBody (.str written) = Index.settingsOfText written := by
  rw [Index.settingsBody, if_neg solid]

/-- Text of an object is the object, as an argument and as settings. -/
theorem entrances_of_object (inline : IsInline written) {fields : Fields}
    (read : Json.read written = .ok (.obj fields)) :
    objectArgument files (.str written) = .ok (some fields) ∧
      Index.settingsBody (.str written) = .ok (.obj fields) := by
  constructor
  · rw [objectArgument_of_solid files inline (not_blank_of_read read), read]
  · exact (Index.Gives.text read).settingsBody_eq

/-- Text of another value is refused as an argument, but is that value as settings. -/
theorem entrances_of_other (inline : IsInline written) {value : Json}
    (read : Json.read written = .ok value) (other : ∀ fields, value ≠ .obj fields) :
    objectArgument files (.str written) = .error (.argumentNotObject written) ∧
      Index.settingsBody (.str written) = .ok value := by
  have solid := not_blank_of_read read
  constructor
  · rw [objectArgument_of_solid files inline solid, read]
    cases value with
    | obj fields => exact absurd rfl (other fields)
    | _ => rfl
  · rw [settingsBody_of_solid solid, Index.settingsOfText, read]

/-- What cannot be read is refused for the same reason in both places, unless it is blank. -/
theorem entrances_of_refused (inline : IsInline written) (solid : ¬written.isBlankText = true)
    {error : Json.ReadError} (refused : Json.read written = .error error) :
    objectArgument files (.str written) = .error (.unreadable error) ∧
      Index.settingsBody (.str written) = .error (.unreadable error) := by
  constructor
  · rw [objectArgument_of_solid files inline solid, refused]
  · rw [settingsBody_of_solid solid, Index.settingsOfText, refused]

/-- The two places agree on every text that holds no other value and can be read to its depth. -/
theorem agree_iff (inline : IsInline written) :
    Agree (objectArgument files (.str written)) (Index.settingsBody (.str written)) ↔
      ¬HoldsOther written ∧ ¬IsTooDeep written := by
  by_cases blank : written.isBlankText = true
  · obtain ⟨argument, settings⟩ := entrances_of_blank files blank
    rw [argument, settings]
    refine iff_of_true .nothing ⟨?_, ?_⟩
    · rintro ⟨value, read, -⟩
      exact not_blank_of_read read blank
    · rintro ⟨solid, -⟩
      exact Bool.false_ne_true (solid.symm.trans blank)
  · cases read : Json.read written with
    | ok value =>
      by_cases holds : ∃ fields, value = .obj fields
      · obtain ⟨fields, rfl⟩ := holds
        obtain ⟨argument, settings⟩ := entrances_of_object files inline read
        rw [argument, settings]
        refine iff_of_true (.object fields) ⟨?_, ?_⟩
        · rintro ⟨value, same, other⟩
          exact other fields (Except.ok.inj (same.symm.trans read))
        · rintro ⟨-, deep⟩
          cases read.symm.trans deep
      · have other : ∀ fields, value ≠ .obj fields := fun fields same => holds ⟨fields, same⟩
        obtain ⟨argument, settings⟩ := entrances_of_other files inline read other
        rw [argument, settings]
        refine iff_of_false nofun ?_
        rintro ⟨noOther, -⟩
        exact noOther ⟨value, read, other⟩
    | error error =>
      obtain ⟨argument, settings⟩ := entrances_of_refused files inline blank read
      have noOther : ¬HoldsOther written := by
        rintro ⟨value, same, -⟩
        cases read.symm.trans same
      rw [argument, settings]
      cases error with
      | malformed fault line column offset =>
        refine iff_of_true (.refused (.malformed ..) (.malformed ..)) ⟨noOther, ?_⟩
        rintro ⟨-, deep⟩
        cases read.symm.trans deep
      | tooLong digits =>
        refine iff_of_true (.refused (.tooLong digits) (.tooLong digits)) ⟨noOther, ?_⟩
        rintro ⟨-, deep⟩
        cases read.symm.trans deep
      | tooDeep =>
        refine iff_of_false ?_ fun ⟨_, shallow⟩ => shallow ⟨Bool.eq_false_iff.2 blank, read⟩
        rintro (_ | _ | ⟨misformed, -⟩)
        cases misformed

end

/-- The two places where an object comes in as text agree on every text that does not lead to a
file, unless it is JSON of another value or too deep to be read. JSON of another value is refused as
an argument; as the settings of an index it is taken, and in every session a new index with these
settings is asked for with exactly this value. A text that is too deep is refused in both places,
for its depth. -/
theorem entrances_agree_but_for_other_values (files : Files) {written : Text}
    (inline : IsInline written) :
    (Agree (objectArgument files (.str written)) (Index.settingsBody (.str written)) ↔
      ¬HoldsOther written ∧ ¬IsTooDeep written) ∧
    (∀ value, Json.read written = .ok value → (∀ fields, value ≠ .obj fields) →
      objectArgument files (.str written) = .error (.argumentNotObject written) ∧
      Index.settingsBody (.str written) = .ok value ∧
      ∀ (α τ : Type) [Seconds τ] (session : Session α τ) (name : Name) (keep : Bool)
        (c : Conversation α τ),
        ((session.createIndex name keep (.str written)).run.run c).2.sent =
          c.sent ++ session.backend.requestsOf c.closed (.createIndex name value)) ∧
    (IsTooDeep written →
      objectArgument files (.str written) = .error (.unreadable .tooDeep) ∧
      Index.settingsBody (.str written) = .error (.unreadable .tooDeep)) := by
  refine ⟨agree_iff files inline, ?_, ?_⟩
  · intro value read other
    obtain ⟨argument, settings⟩ := entrances_of_other files inline read other
    refine ⟨argument, settings, ?_⟩
    intro α τ _ session name keep c
    exact session.createIndex_sent name keep settings c
  · rintro ⟨solid, deep⟩
    exact entrances_of_refused files inline (Bool.eq_false_iff.1 solid) deep

/-- A list is refused as an argument, but goes out to the engine for the settings of an index. -/
theorem list_goes_out_for_settings :
    let written : Text := "[1]"
    IsInline written ∧
      ¬Agree (objectArgument {} (.str written)) (Index.settingsBody (.str written)) ∧
      objectArgument {} (.str written) = .error (.argumentNotObject written) ∧
      ((directly.createIndex (.str "i") false (.str written)).run.run (.start [] 0)).2.sent =
        [.http "PUT" "/i" (some (.arr [.int 1]))] := by
  intro written
  have inline : IsInline written := by
    rintro path leads
    cases leads
  have read : Json.read written = .ok (.arr [.int 1]) := rfl
  have other : ∀ fields, Json.arr [.int 1] ≠ .obj fields := by
    intro fields same
    cases same
  obtain ⟨agree, taken, -⟩ := entrances_agree_but_for_other_values {} inline
  obtain ⟨argument, -, sent⟩ := taken _ read other
  refine ⟨inline, ?_, argument, ?_⟩
  · intro agrees
    exact (agree.1 agrees).1 ⟨_, read, other⟩
  · exact sent _ _ directly (.str "i") false (.start [] 0)

end EngineGateway.Cli
