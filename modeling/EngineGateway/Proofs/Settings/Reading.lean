import EngineGateway.Failure
import EngineGateway.Proofs.Decimal.Readings
import EngineGateway.Settings.Environment

/-!
# What settings are read from

Settings that pass their checks are exactly what their fields say, each field on its own. So the
settings of an environment are those of its variables: a variable that is set and not blank gives
its setting, by the number or the name that its text denotes, and every other setting is the
standard one.
-/

namespace EngineGateway

/-! ### Checks that passed -/

namespace Checked

variable {α β : Type}

/-- Two checks side by side have passed if both have. -/
theorem ap_eq_passed {f : Checked (α → β)} {x : Checked α} {result : β}
    (passes : (f <*> x) = .passed result) :
    ∃ make value, f = .passed make ∧ x = .passed value ∧ make value = result := by
  cases f with
  | failed complaints => cases x <;> cases passes
  | passed make =>
    cases x with
    | failed complaints => cases passes
    | passed value => exact ⟨make, value, rfl, rfl, Checked.passed.inj passes⟩

/-- What is made of a check has passed if the check has. -/
theorem map_eq_passed {make : α → β} {x : Checked α} {result : β}
    (passes : (make <$> x) = .passed result) :
    ∃ value, x = .passed value ∧ make value = result := by
  obtain ⟨_, value, same, passed, made⟩ := ap_eq_passed (f := .passed make) passes
  exact ⟨value, passed, Checked.passed.inj same ▸ made⟩

/-- A part has passed in its place if it has passed on its own. -/
theorem under_eq_passed {step : Step} {x : Checked α} {result : α}
    (passes : x.under step = .passed result) : x = .passed result := by
  cases x with
  | failed complaints => cases passes
  | passed value => exact passes

/-- What came of a check is what passed. -/
theorem eq_passed_of_toExcept {model : String} {x : Checked α} {result : α}
    (made : x.toExcept model = .ok result) : x = .passed result := by
  cases x with
  | failed complaints => cases made
  | passed value => exact congrArg passed (Except.ok.inj made)

end Checked

namespace Check

/-- A text that has to be a string to be read is one if it passed. -/
theorem exists_string_of_reading {α : Type} {text : Text} {read : String → Checked α} {value : α}
    (passes : reading text read = .passed value) :
    ∃ s, text.string? = some s ∧ read s = .passed value := by
  unfold reading at passes
  split at passes
  next s string => exact ⟨s, string, passes⟩
  next => cases passes

/-- A text passes as it is. -/
theorem eq_of_text {written value : Text} (passes : text (.str written) = .passed value) :
    value = written := (Checked.passed.inj passes).symm

section

variable {x value : Float} {written : Text}

/-- A number that passes a further check passes as it is. -/
theorem number_of_andThen {given : Json} {further : Float → Checked Float}
    (keeps : ∀ y z, further y = .passed z → z = y)
    (passes : (number given).andThen further = .passed value) : number given = .passed value := by
  unfold Checked.andThen at passes
  split at passes
  next y read => rw [read, keeps y value passes]
  next => cases passes

/-- A number above zero is a number. -/
theorem number_of_positive {given : Json} (passes : positive given = .passed value) :
    number given = .passed value := by
  refine number_of_andThen (fun y z kept => ?_) passes
  split at kept
  next => exact (Checked.passed.inj kept).symm
  next => cases kept

/-- A number that is not below zero is a number. -/
theorem number_of_nonNegative {given : Json} (passes : nonNegative given = .passed value) :
    number given = .passed value := by
  refine number_of_andThen (fun y z kept => ?_) passes
  split at kept
  next => exact (Checked.passed.inj kept).symm
  next => cases kept

/-- A float is the number that it is. -/
theorem eq_of_number_float (passes : number (.float x) = .passed value) : value = x :=
  (Checked.passed.inj passes).symm

/-- A text is the number that it denotes as a setting. -/
theorem denotes_of_number_str (passes : number (.str written) = .passed value) :
    Decimal.Denotes written value := by
  obtain ⟨s, string, read⟩ := exists_string_of_reading passes
  split at read
  next y denoted =>
    obtain rfl := Checked.passed.inj read
    exact .setting string denoted
  next => cases read

/-- A text of a number above zero denotes it. -/
theorem denotes_of_positive (passes : positive (.str written) = .passed value) :
    Decimal.Denotes written value := denotes_of_number_str (number_of_positive passes)

/-- So does a text of a number that is not below zero. -/
theorem denotes_of_nonNegative (passes : nonNegative (.str written) = .passed value) :
    Decimal.Denotes written value := denotes_of_number_str (number_of_nonNegative passes)

end

end Check

namespace Settings

/-- A text that passes as the name of a backend is its name. -/
theorem ofName?_of_backendOfJson {written : Text} {backend : BackendName}
    (passes : backendOfJson (.str written) = .passed backend) :
    BackendName.ofName? written = some backend := by
  obtain ⟨s, string, found⟩ := Check.exists_string_of_reading passes
  rw [Text.eq_ofString_of_string? string]
  split at found
  next choice named => exact named.trans (congrArg some (Checked.passed.inj found))
  next => cases found

/-- A field of settings: what passed its check if it is there, and else the standard. -/
inductive Fills {α : Type} (check : Json → Checked α) (standard : α) : Option Json → α → Prop where
  | given {written : Json} {value : α} (passes : check written = .passed value) :
    Fills check standard (some written) value
  | absent : Fills check standard none standard

/-- A field that passed is filled so. -/
theorem fills_of_optional {α : Type} {fields : Fields} {key : String} {standard value : α}
    {check : Json → Checked α}
    (passes : Check.optional fields key standard check = .passed value) :
    Fills check standard (fields.get? key) value := by
  unfold Check.optional at passes
  split at passes
  next written present =>
    rw [present]
    exact .given (Checked.under_eq_passed passes)
  next absent =>
    rw [absent, ← Checked.passed.inj passes]
    exact .absent

/-- Settings are what fields say. -/
structure AreIn (fields : Fields) (settings : Settings) : Prop where
  backend : Fills backendOfJson standard.backend (fields.get? "backend") settings.backend
  url : Fills Check.text standard.url (fields.get? "url") settings.url
  timeout : Fills Check.positive standard.timeout (fields.get? "timeout_s") settings.timeout
  verifyCerts :
    Fills Check.yesNo standard.verifyCerts (fields.get? "verify_certs") settings.verifyCerts
  healthTimeout : Fills Check.nonNegative standard.healthTimeout (fields.get? "health_timeout_s")
    settings.healthTimeout
  firstPoll : Fills Check.positive standard.firstPoll (fields.get? "health_poll_initial_s")
    settings.firstPoll
  longestPoll : Fills Check.positive standard.longestPoll (fields.get? "health_poll_max_s")
    settings.longestPoll
  legacyDocumentType : Fills Check.text standard.legacyDocumentType
    (fields.get? "legacy_document_type") settings.legacyDocumentType

/-- Settings that passed are what the fields say. -/
theorem areIn_of_ofJson {fields : Fields} {settings : Settings}
    (passes : ofJson (.obj fields) = .passed settings) : settings.AreIn fields := by
  obtain ⟨_, _, beforeEighth, eighth, rfl⟩ := Checked.ap_eq_passed passes
  obtain ⟨_, _, beforeSeventh, seventh, rfl⟩ := Checked.ap_eq_passed beforeEighth
  obtain ⟨_, _, beforeSixth, sixth, rfl⟩ := Checked.ap_eq_passed beforeSeventh
  obtain ⟨_, _, beforeFifth, fifth, rfl⟩ := Checked.ap_eq_passed beforeSixth
  obtain ⟨_, _, beforeFourth, fourth, rfl⟩ := Checked.ap_eq_passed beforeFifth
  obtain ⟨_, _, beforeThird, third, rfl⟩ := Checked.ap_eq_passed beforeFourth
  obtain ⟨_, _, beforeSecond, second, rfl⟩ := Checked.ap_eq_passed beforeThird
  obtain ⟨_, first, rfl⟩ := Checked.map_eq_passed beforeSecond
  constructor
  · exact fills_of_optional first
  · exact fills_of_optional second
  · exact fills_of_optional third
  · exact fills_of_optional fourth
  · exact fills_of_optional fifth
  · exact fills_of_optional sixth
  · exact fills_of_optional seventh
  · exact fills_of_optional eighth

/-! ### The variables of an environment -/

section

variable {table : List (String × String)} {given : String → Option Text} {setting : String}

/-- The fields that some variables give, each under the name of its setting. -/
def fieldsFrom (given : String → Option Text) (table : List (String × String)) : Fields :=
  table.filterMap fun (setting, rest) => (given rest).map fun text => (setting, .str text)

/-- A setting without a variable is in no field. -/
theorem get?_fieldsFrom_of_unlisted (unlisted : setting ∉ table.map Prod.fst) :
    (fieldsFrom given table).get? setting = none := by
  induction table with
  | nil => rfl
  | cons entry others inductionHypothesis =>
    obtain ⟨first, rest⟩ := entry
    rw [List.map_cons, List.mem_cons, not_or] at unlisted
    have later := inductionHypothesis unlisted.2
    have apart : Key.isName (first : Key) setting = false :=
      decide_eq_false fun same => unlisted.1 (Text.ofString_inj.1 same).symm
    cases told : given rest with
    | none => simpa [fieldsFrom, told] using later
    | some text => simpa [fieldsFrom, told, Fields.get?, apart] using later

/-- A setting with a variable is in the field that this variable gives. -/
theorem get?_fieldsFrom (distinct : (table.map Prod.fst).Nodup) {rest : String}
    (listed : (setting, rest) ∈ table) :
    (fieldsFrom given table).get? setting = (given rest).map .str := by
  induction table with
  | nil => cases listed
  | cons entry others inductionHypothesis =>
    obtain ⟨first, own⟩ := entry
    obtain ⟨single, distinctOthers⟩ := List.nodup_cons.1 distinct
    obtain here | later := List.mem_cons.1 listed
    · obtain ⟨rfl, rfl⟩ := Prod.mk.inj here
      have same : Key.isName (setting : Key) setting = true := decide_eq_true rfl
      cases told : given rest with
      | none => simpa [fieldsFrom, told] using get?_fieldsFrom_of_unlisted single
      | some text => simp [fieldsFrom, told, Fields.get?, same]
    · have found := inductionHypothesis distinctOthers later
      have apart : Key.isName (first : Key) setting = false := by
        refine decide_eq_false fun same => single ?_
        rw [Text.ofString_inj.1 same]
        exact List.mem_map.2 ⟨(setting, rest), later, rfl⟩
      cases told : given own with
      | none => simpa [fieldsFrom, told] using found
      | some text => simpa [fieldsFrom, told, Fields.get?, apart] using found

end

/-- What an environment gives for a setting: what its variable means if it is set, and else the
standard. -/
inductive FromEnvironment {ν β : Type} (set : Option ν) (means : ν → β → Prop) (standard : β) :
    β → Prop where
  | told {told : ν} {value : β} (isSet : set = some told) (meant : means told value) :
    FromEnvironment set means standard value
  | standard (unset : set = none) : FromEnvironment set means standard standard

/-- The text of a variable by the end of its name. -/
def told? (env : Environment) (rest : String) : Option Text :=
  variableText? env (variableStart ++ rest)

/-- Settings are those of an environment. -/
structure AreOf (env : Environment) (settings : Settings) : Prop where
  backend : FromEnvironment (told? env "BACKEND")
    (fun text backend => BackendName.ofName? text = some backend) standard.backend settings.backend
  url : FromEnvironment (told? env "URL") (fun text url => url = text) standard.url settings.url
  timeout : FromEnvironment (told? env "TIMEOUT_S") Decimal.Denotes standard.timeout
    settings.timeout
  verifyCerts : FromEnvironment ((env.get? (variableStart ++ "VERIFY_CERTS")).bind switchWord?) Eq
    standard.verifyCerts settings.verifyCerts
  healthTimeout : FromEnvironment (told? env "HEALTH_TIMEOUT_S") Decimal.Denotes
    standard.healthTimeout settings.healthTimeout
  firstPoll : FromEnvironment (told? env "HEALTH_POLL_INITIAL_S") Decimal.Denotes
    standard.firstPoll settings.firstPoll
  longestPoll : FromEnvironment (told? env "HEALTH_POLL_MAX_S") Decimal.Denotes
    standard.longestPoll settings.longestPoll
  legacyDocumentType : FromEnvironment (told? env "LEGACY_DOCUMENT_TYPE")
    (fun text type => type = text) standard.legacyDocumentType settings.legacyDocumentType

/-- A field that a variable gives is filled from the environment, if its check takes a text for what
it means. -/
theorem fromEnvironment_of_fills {α : Type} {check : Json → Checked α} {standard value : α}
    {told : Option Text} {means : Text → α → Prop}
    (reads : ∀ text value, check (.str text) = .passed value → means text value)
    (fills : Fills check standard (told.map .str) value) :
    FromEnvironment told means standard value := by
  cases told with
  | none =>
    cases fills
    exact .standard rfl
  | some text =>
    cases fills with
    | given passes => exact .told rfl (reads text value passes)

/-- A setting of an environment is in the field that its variable gives. -/
theorem get?_environmentFields (env : Environment) {setting rest : String}
    (listed : (setting, rest) ∈ textVariables) :
    (environmentFields env variableStart).get? setting = (told? env rest).map .str := by
  have found : (fieldsFrom (told? env) textVariables).get? setting = (told? env rest).map .str :=
    get?_fieldsFrom (by decide) listed
  have unswitched : ∀ entry ∈ textVariables, "verify_certs" ≠ entry.1 := by decide
  have apart : Key.isName ("verify_certs" : Key) setting = false :=
    decide_eq_false fun same => unswitched _ listed (Text.ofString_inj.1 same)
  rw [environmentFields, Fields.get?, apart]
  exact found

/-- The yes or no of an environment is always there. -/
theorem fromEnvironment_of_switch {env : Environment} {standard value : Bool}
    (fills : Fills Check.yesNo standard
      (some (.bool (switch env (variableStart ++ "VERIFY_CERTS") standard))) value) :
    FromEnvironment ((env.get? (variableStart ++ "VERIFY_CERTS")).bind switchWord?) Eq standard
      value := by
  cases fills with
  | given passes =>
    rw [← Checked.passed.inj passes, switch]
    cases (env.get? (variableStart ++ "VERIFY_CERTS")).bind switchWord? with
    | none => exact .standard rfl
    | some on => exact .told rfl rfl

/-- Settings that an environment gives are those of its variables. -/
theorem areOf_of_ofEnvironment {env : Environment} {settings : Settings}
    (passes : ofEnvironment env variableStart = .passed settings) : settings.AreOf env := by
  have filled := areIn_of_ofJson passes
  have field (setting rest : String) (listed : (setting, rest) ∈ textVariables) :=
    get?_environmentFields env listed
  constructor
  · have found := field "backend" "BACKEND" (by decide)
    exact fromEnvironment_of_fills (fun _ _ => ofName?_of_backendOfJson) (found ▸ filled.backend)
  · have found := field "url" "URL" (by decide)
    exact fromEnvironment_of_fills (fun _ _ => Check.eq_of_text) (found ▸ filled.url)
  · have found := field "timeout_s" "TIMEOUT_S" (by decide)
    exact fromEnvironment_of_fills (fun _ _ => Check.denotes_of_positive) (found ▸ filled.timeout)
  · exact fromEnvironment_of_switch filled.verifyCerts
  · have found := field "health_timeout_s" "HEALTH_TIMEOUT_S" (by decide)
    exact fromEnvironment_of_fills (fun _ _ => Check.denotes_of_nonNegative)
      (found ▸ filled.healthTimeout)
  · have found := field "health_poll_initial_s" "HEALTH_POLL_INITIAL_S" (by decide)
    exact fromEnvironment_of_fills (fun _ _ => Check.denotes_of_positive) (found ▸ filled.firstPoll)
  · have found := field "health_poll_max_s" "HEALTH_POLL_MAX_S" (by decide)
    exact fromEnvironment_of_fills (fun _ _ => Check.denotes_of_positive)
      (found ▸ filled.longestPoll)
  · have found := field "legacy_document_type" "LEGACY_DOCUMENT_TYPE" (by decide)
    exact fromEnvironment_of_fills (fun _ _ => Check.eq_of_text) (found ▸ filled.legacyDocumentType)

end Settings

end EngineGateway
