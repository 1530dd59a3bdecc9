import EngineGateway.Cli.Command
import EngineGateway.Proofs.Cli.Reading
import EngineGateway.Proofs.Settings.Reading

/-!
# Which setting wins

The settings of a command come in three layers: flags, the environment, and the standard. A flag
sets its part of the connection, and of several the last one counts; every other flag leaves the
part alone (`Flag.Governs`). So the last flag that was given for a part decides it (`Settled`), and
where there was none the environment does (`Prevails`), on the same terms as for the settings that
no flag is for.
-/

namespace EngineGateway.Cli

/-! ### The flags that were given -/

/-- A flag that was given: its full name, and the text that was given with it if it takes one. -/
structure Mention where
  name : String
  text? : Option Text := none

section

variable {σ β : Type}

/-- The flags that some tokens give, in order. -/
def mentions : List (Token σ) → List Mention
  | [] => []
  | .flag ⟨name, .takes ..⟩ (.equal text) :: rest => ⟨name, some text⟩ :: mentions rest
  | .flag ⟨name, .takes ..⟩ .nothing :: .word text :: rest => ⟨name, some text⟩ :: mentions rest
  | .flag ⟨name, .turns _⟩ .nothing :: rest => ⟨name, none⟩ :: mentions rest
  | _ :: rest => mentions rest

/-- The last flag of some names that was given. -/
def lastOf (names : List String) (given : List Mention) : Option Mention :=
  given.reverse.find? fun mention => names.contains mention.name

/-- A flag that was given counts if none of the names follows. -/
theorem lastOf_cons (names : List String) (mention : Mention) (rest : List Mention) :
    lastOf names (mention :: rest) = (lastOf names rest).or
      (if names.contains mention.name then some mention else none) := by
  rw [lastOf, List.reverse_cons, List.find?_append, lastOf, List.find?_singleton]

/-- What a part is in the end, from what it was at the start: what the last flag for it says, or
what it was if there was none. -/
inductive Settled (gives : Mention → β → Prop) (start : Option β) :
    Option Mention → Option β → Prop where
  | kept : Settled gives start none start
  | said {mention : Mention} {value : β} (meant : gives mention value) :
    Settled gives start (some mention) (some value)

/-- A flag leaves a part of the record of everything given alone. -/
def Effect.Leaves (part : σ → Option β) : Effect σ → Prop
  | .help => True
  | .takes _ set => ∀ value given, part (set value given) = part given
  | .turns set => ∀ given, part (set given) = part given

/-- A flag sets a part of the record if it has one of the names for it, and otherwise leaves it
alone. -/
inductive Flag.Governs (names : List String) (part : σ → Option β) (gives : Mention → β → Prop) :
    Flag σ → Prop where
  | help (name : String) : Governs names part gives ⟨name, .help⟩
  | takes {name : String} {read : Text → Option Json} {set : Json → σ → σ}
    (named : names.contains name = true)
    (puts : ∀ text value, value = .arr [] ∨ read text = some value →
      ∀ given, ∃ b, part (set value given) = some b ∧ gives ⟨name, some text⟩ b) :
    Governs names part gives ⟨name, .takes read set⟩
  | turns {name : String} {set : σ → σ} (named : names.contains name = true)
    (puts : ∀ given, ∃ b, part (set given) = some b ∧ gives ⟨name, none⟩ b) :
    Governs names part gives ⟨name, .turns set⟩
  | leaves {name : String} {effect : Effect σ} (apart : names.contains name = false)
    (same : effect.Leaves part) : Governs names part gives ⟨name, effect⟩

variable {names : List String} {part : σ → Option β} {gives : Mention → β → Prop}

/-- A value that stands in one word with its flag is the empty list or was read. -/
theorem read_of_attachedValue {read : Text → Option Json} {text : Text} {value : Json}
    (taken : attachedValue read text = some value) : value = .arr [] ∨ read text = some value := by
  unfold attachedValue at taken
  split at taken
  · exact .inl (Option.some.inj taken).symm
  · exact .inr taken

/-- What a flag with a value does to a part. -/
theorem Flag.Governs.step_takes {name : String} {read : Text → Option Json} {set : Json → σ → σ}
    (governs : Flag.Governs names part gives ⟨name, .takes read set⟩) {text : Text} {value : Json}
    (possible : value = .arr [] ∨ read text = some value) (given : σ) :
    Settled gives (part given) (if names.contains name then some ⟨name, some text⟩ else none)
      (part (set value given)) := by
  cases governs with
  | takes named puts =>
    obtain ⟨b, put, meant⟩ := puts text value possible given
    rw [if_pos named, put]
    exact .said meant
  | leaves apart same =>
    rw [apart, same value given]
    exact .kept

/-- What a switch does to a part. -/
theorem Flag.Governs.step_turns {name : String} {set : σ → σ}
    (governs : Flag.Governs names part gives ⟨name, .turns set⟩) (given : σ) :
    Settled gives (part given) (if names.contains name then some ⟨name, none⟩ else none)
      (part (set given)) := by
  cases governs with
  | turns named puts =>
    obtain ⟨b, put, meant⟩ := puts given
    rw [if_pos named, put]
    exact .said meant
  | leaves apart same =>
    rw [apart, same given]
    exact .kept

/-- What follows settles a part again, or leaves it as it was settled before. -/
theorem Settled.trans {start middle final : Option β} {first later : Option Mention}
    (before : Settled gives start first middle) (after : Settled gives middle later final) :
    Settled gives start (later.or first) final := by
  cases after with
  | kept => exact before
  | said meant => exact .said meant

/-- The last flag for a part among the tokens that were read settles it. -/
theorem settled_of_readTokens {reading reached : Reading σ} {list : List (Token σ)}
    (governs : ∀ flag attached, Token.flag flag attached ∈ list →
      Flag.Governs names part gives flag)
    (came : readTokens reading list = .ok reached) :
    Settled gives (part reading.given) (lastOf names (mentions list)) (part reached.given) := by
  fun_induction readTokens reading list with
  | case1 reading =>
    cases came
    exact .kept
  | case2 reading text rest inductionHypothesis | case3 reading rest inductionHypothesis
  | case4 reading rest inductionHypothesis =>
    exact inductionHypothesis (fun flag attached member => governs flag attached (.tail _ member))
      came
  | case6 reading name set rest inductionHypothesis =>
    have turned := (governs _ _ (.head _)).step_turns reading.given
    have others := inductionHypothesis
      (fun flag attached member => governs flag attached (.tail _ member)) came
    rw [mentions, lastOf_cons]
    exact turned.trans others
  | case8 reading name read set text rest value taken inductionHypothesis =>
    have changed := (governs _ _ (.head _)).step_takes (read_of_attachedValue taken) reading.given
    have others := inductionHypothesis
      (fun flag attached member => governs flag attached (.tail _ member)) came
    rw [mentions, lastOf_cons]
    exact changed.trans others
  | case10 reading name read set text rest value taken inductionHypothesis =>
    have changed := (governs _ _ (.head _)).step_takes (.inr taken) reading.given
    have others := inductionHypothesis
      (fun flag attached member => governs flag attached (.tail _ (.tail _ member))) came
    rw [mentions, lastOf_cons]
    exact changed.trans others
  | _ => cases came

end

/-! ### The parts of a connection -/

/-- A part of a connection that flags and the environment both give. -/
inductive Part where
  | backend
  | url
  | timeout
  | verifyCerts
  | healthTimeout

namespace Part

/-- The names of the flags for a part. -/
def names : Part → List String
  | .backend => ["--backend"]
  | .url => ["--backend-url"]
  | .timeout => ["--timeout-s"]
  | .verifyCerts => ["--verify-certs", "--no-verify-certs"]
  | .healthTimeout => ["--health-timeout-s"]

/-- A part among everything given. -/
def among : Part → Given → Option Json
  | .backend, given => given.backend
  | .url, given => given.url
  | .timeout, given => given.timeout
  | .verifyCerts, given => given.verifyCerts.map .bool
  | .healthTimeout, given => given.healthTimeout

/-- A part of a connection. -/
def of : Part → Connection → Json
  | .backend, connection => connection.backend
  | .url, connection => connection.url
  | .timeout, connection => connection.timeout
  | .verifyCerts, connection => .bool connection.verifyCerts
  | .healthTimeout, connection => connection.healthTimeout

/-- A part in settings. -/
def within : Part → Settings → Json
  | .backend, settings => .str settings.backend.name
  | .url, settings => .str settings.url
  | .timeout, settings => .float settings.timeout
  | .verifyCerts, settings => .bool settings.verifyCerts
  | .healthTimeout, settings => .float settings.healthTimeout

/-- What a flag with a value says: what is read in its text, or the empty list. -/
def Takes (read : Text → Option Json) (mention : Mention) (value : Json) : Prop :=
  value = .arr [] ∨ ∃ text, mention.text? = some text ∧ read text = some value

/-- What a flag for a part says. -/
def Gives : Part → Mention → Json → Prop
  | .backend => Takes fun text => (BackendName.ofName? text).map fun _ => .str text
  | .url => Takes fun text => some (.str text)
  | .timeout | .healthTimeout => Takes fun text => (Decimal.argumentFloat? text).map .float
  | .verifyCerts => fun mention value => value = .bool (mention.name == "--verify-certs")

/-- A flag with a value sets its own part. -/
theorem governs_readFlag {name : String} {read : Text → Option Json}
    {set : Option Json → Given → Given} {part : Given → Option Json}
    (puts : ∀ value given, part (set (some value) given) = some value) :
    (readFlag name read set).Governs [name] part (Takes read) := by
  refine .takes (List.contains_iff_mem.2 List.mem_cons_self) fun text value possible given => ?_
  refine ⟨value, puts value given, ?_⟩
  exact possible.imp id fun found => ⟨text, rfl, found⟩

/-- Each flag of the connection sets its own part and leaves the others alone. -/
theorem connectionFlags_govern (part : Part) :
    ∀ flag ∈ connectionFlags, flag.Governs part.names part.among part.Gives := by
  intro flag member
  simp only [connectionFlags, helpFlags, switchFlags, List.mem_append, List.mem_cons,
    List.not_mem_nil, or_false] at member
  obtain (((rfl | rfl) | rfl | rfl | rfl) | rfl | rfl) | rfl | rfl | rfl := member
  · exact .help _
  · exact .help _
  · cases part
    case backend => exact governs_readFlag fun _ _ => rfl
    all_goals exact .leaves rfl fun _ _ => rfl
  · cases part
    case url => exact governs_readFlag fun _ _ => rfl
    all_goals exact .leaves rfl fun _ _ => rfl
  · cases part
    case timeout => exact governs_readFlag fun _ _ => rfl
    all_goals exact .leaves rfl fun _ _ => rfl
  · cases part
    case verifyCerts => exact .turns rfl fun _ => ⟨.bool true, rfl, rfl⟩
    all_goals exact .leaves rfl fun _ => rfl
  · cases part
    case verifyCerts => exact .turns rfl fun _ => ⟨.bool false, rfl, rfl⟩
    all_goals exact .leaves rfl fun _ => rfl
  · cases part
    case healthTimeout => exact governs_readFlag fun _ _ => rfl
    all_goals exact .leaves rfl fun _ _ => rfl
  · cases part <;> exact .leaves rfl fun _ _ => rfl
  · cases part <;> exact .leaves rfl fun _ _ => rfl

/-- The flags of the commands leave the connection alone. -/
theorem form_governs (part : Part) : ∀ form ∈ commandForms, ∀ flag ∈ form.flags,
    flag.Governs part.names part.among part.Gives := by
  intro form listed flag member
  simp only [commandForms, List.mem_cons, List.not_mem_nil, or_false] at listed
  obtain rfl | rfl | rfl | rfl | rfl | rfl | rfl | rfl := listed <;>
    simp only [switchFlags, List.mem_append, List.mem_cons, List.not_mem_nil, or_false] at member
  · obtain ((rfl | rfl) | rfl | rfl) | rfl | rfl := member
    · cases part <;> exact .leaves rfl fun _ _ => rfl
    · cases part <;> exact .leaves rfl fun _ _ => rfl
    all_goals cases part <;> exact .leaves rfl fun _ => rfl
  · obtain rfl | rfl := member <;> cases part <;> exact .leaves rfl fun _ _ => rfl
  · obtain rfl := member
    cases part <;> exact .leaves rfl fun _ _ => rfl
  · obtain rfl | rfl | rfl | rfl := member <;> cases part <;> exact .leaves rfl fun _ _ => rfl
  · obtain rfl | rfl | rfl | rfl | rfl := member <;>
      cases part <;> exact .leaves rfl fun _ _ => rfl
  · obtain rfl | rfl := member <;> cases part <;> exact .leaves rfl fun _ _ => rfl
  · obtain rfl := member
    cases part <;> exact .leaves rfl fun _ _ => rfl

/-- Where nothing was given, no part was. -/
theorem among_nothing (part : Part) : part.among {} = none := by
  cases part <;> rfl

/-- A part of the connection is what was given, or what it is in the settings of the environment. -/
theorem of_connection (part : Part) (given : Given) (settings : Settings) :
    part.of (given.connection settings) = (part.among given).getD (part.within settings) := by
  cases part
  case verifyCerts =>
    change Json.bool (given.verifyCerts.getD settings.verifyCerts) =
      (given.verifyCerts.map Json.bool).getD (.bool settings.verifyCerts)
    cases given.verifyCerts <;> rfl
  all_goals rfl

end Part

/-- What was not given before the first flag may as well have been what stands for it. -/
theorem Settled.getD {β : Type} {gives : Mention → β → Prop} {last : Option Mention}
    {final : Option β} (settled : Settled gives none last final) (start : β) :
    Settled gives (some start) last (some (final.getD start)) := by
  cases settled with
  | kept => exact .kept
  | said meant => exact .said meant

/-- In an invocation that is read each part of the connection is what the last flag for it gives, or
what it is in the settings of the environment. -/
theorem settled_of_read {settings : Settings} {words : List Text} {invocation : Invocation}
    (came : read settings words = .invocation invocation) :
    ∃ form after list, Reaches words form after ∧
      tokens (connectionFlags ++ form.flags) after = some list ∧
      ∀ part : Part, Settled part.Gives (some (part.within settings))
        (lastOf part.names (mentions list)) (some (part.of invocation.connection)) := by
  obtain ⟨form, extras, after, reaches, read⟩ := reaches_of_readFrom came
  unfold CommandForm.read at read
  split at read
  case h_1 => cases read
  case h_2 => cases read
  case h_3 reading found =>
    unfold readFlags at found
    split at found
    case h_1 => cases found
    case h_2 list taken =>
      refine ⟨form, after, list, reaches, taken, fun part => ?_⟩
      have governs : ∀ flag attached, Token.flag flag attached ∈ list →
          flag.Governs part.names part.among part.Gives := by
        intro flag attached member
        obtain common | own := List.mem_append.1 (mem_of_tokens taken member)
        · exact part.connectionFlags_govern flag common
        · exact part.form_governs form reaches.listed flag own
      have settled := settled_of_readTokens governs found
      rw [part.among_nothing] at settled
      split at read
      case h_1 => cases read
      case h_2 command built =>
        split at read
        · cases read
        · cases read
          rw [part.of_connection]
          exact settled.getD (part.within settings)

/-! ### The layers -/

/-- What the text of a flag means. -/
def Mention.Means {β : Type} (means : Text → β → Prop) (mention : Mention) (value : β) : Prop :=
  ∃ text, mention.text? = some text ∧ means text value

/-- A setting is what the last flag for it gives, and without a flag what is beneath. -/
inductive Prevails {β : Type} (last : Option Mention) (gives : Mention → β → Prop)
    (beneath : β → Prop) : β → Prop where
  | flag {mention : Mention} {value : β} (given : last = some mention)
    (meant : gives mention value) : Prevails last gives beneath value
  | below {value : β} (bare : last = none) (under : beneath value) :
    Prevails last gives beneath value

/-- Settings have each value from its topmost layer: the flags that were given, the environment, and
the standard. -/
structure Layered (given : List Mention) (env : Environment) (settings : Settings) : Prop where
  backend : Prevails (lastOf ["--backend"] given)
    (Mention.Means fun text backend => BackendName.ofName? text = some backend)
    (Settings.FromEnvironment (Settings.told? env "BACKEND")
      (fun text backend => BackendName.ofName? text = some backend) Settings.standard.backend)
    settings.backend
  url : Prevails (lastOf ["--backend-url"] given) (Mention.Means fun text url => url = text)
    (Settings.FromEnvironment (Settings.told? env "URL") (fun text url => url = text)
      Settings.standard.url)
    settings.url
  timeout : Prevails (lastOf ["--timeout-s"] given) (Mention.Means Decimal.Denotes)
    (Settings.FromEnvironment (Settings.told? env "TIMEOUT_S") Decimal.Denotes
      Settings.standard.timeout)
    settings.timeout
  verifyCerts : Prevails (lastOf ["--verify-certs", "--no-verify-certs"] given)
    (fun mention on => on = (mention.name == "--verify-certs"))
    (Settings.FromEnvironment
      ((env.get? (Settings.variableStart ++ "VERIFY_CERTS")).bind Settings.switchWord?) Eq
      Settings.standard.verifyCerts)
    settings.verifyCerts
  healthTimeout : Prevails (lastOf ["--health-timeout-s"] given) (Mention.Means Decimal.Denotes)
    (Settings.FromEnvironment (Settings.told? env "HEALTH_TIMEOUT_S") Decimal.Denotes
      Settings.standard.healthTimeout)
    settings.healthTimeout
  firstPoll : Settings.FromEnvironment (Settings.told? env "HEALTH_POLL_INITIAL_S")
    Decimal.Denotes Settings.standard.firstPoll settings.firstPoll
  longestPoll : Settings.FromEnvironment (Settings.told? env "HEALTH_POLL_MAX_S") Decimal.Denotes
    Settings.standard.longestPoll settings.longestPoll
  legacyDocumentType : Settings.FromEnvironment (Settings.told? env "LEGACY_DOCUMENT_TYPE")
    (fun text type => type = text) Settings.standard.legacyDocumentType settings.legacyDocumentType

section

variable {β : Type} {check : Json → Checked β} {value : β}

/-- A part that was settled and passes its check has its value from the topmost layer. -/
theorem prevails_of_settled {part : Part} {start final : Json} {last : Option Mention}
    {gives : Mention → β → Prop} {beneath : β → Prop}
    (settled : Settled part.Gives (some start) last (some final))
    (passes : check final = .passed value) (kept : check start = .passed value → beneath value)
    (meant : ∀ mention json, part.Gives mention json → check json = .passed value →
      gives mention value) : Prevails last gives beneath value := by
  cases settled with
  | kept => exact .below rfl (kept passes)
  | said given => exact .flag rfl (meant _ _ given passes)

/-- What a flag with a value gives means what its text means, if the empty list does not pass. -/
theorem means_of_takes {read : Text → Option Json} {means : Text → β → Prop} {mention : Mention}
    {json : Json} (refuses : check (.arr []) ≠ .passed value)
    (reads : ∀ text json, read text = some json → check json = .passed value → means text value)
    (taken : Part.Takes read mention json) (passes : check json = .passed value) :
    mention.Means means value := by
  obtain rfl | ⟨text, given, found⟩ := taken
  · exact absurd passes refuses
  · exact ⟨text, given, reads text json found passes⟩

/-- A field that is there passed its check. -/
theorem passes_of_fills {standard : β} {written : Json}
    (fills : Settings.Fills check standard (some written) value) :
    check written = .passed value := by
  cases fills with
  | given passes => exact passes

end

/-- The number that a flag gives is the one that its text denotes. -/
theorem denotes_of_argument {text : Text} {json : Json} {value : Float}
    (found : (Decimal.argumentFloat? text).map Json.float = some json)
    (number : Check.number json = .passed value) : Decimal.Denotes text value := by
  obtain ⟨x, read, rfl⟩ := Option.map_eq_some_iff.1 found
  rw [Check.eq_of_number_float number]
  exact .argument read

/-- Settings that are built from a connection have each value from its topmost layer. -/
theorem layered_of_settled {env : Environment} {environment settings : Settings}
    {connection : Connection} {given : List Mention} (below : environment.AreOf env)
    (settled : ∀ part : Part, Settled part.Gives (some (part.within environment))
      (lastOf part.names given) (some (part.of connection)))
    (built : settingsFor environment connection = .ok settings) : Layered given env settings := by
  have filled := Settings.areIn_of_ofJson (Checked.eq_passed_of_toExcept built)
  constructor
  · refine prevails_of_settled (settled .backend) (passes_of_fills filled.backend) ?_ ?_
    · intro passes
      have found := Settings.ofName?_of_backendOfJson passes
      rw [BackendName.ofName?_name] at found
      exact Option.some.inj found ▸ below.backend
    · refine fun mention json => means_of_takes nofun fun text json found passes => ?_
      obtain ⟨_, -, rfl⟩ := Option.map_eq_some_iff.1 found
      exact Settings.ofName?_of_backendOfJson passes
  · refine prevails_of_settled (settled .url) (passes_of_fills filled.url) ?_ ?_
    · exact fun passes => Check.eq_of_text passes ▸ below.url
    · refine fun mention json => means_of_takes nofun fun text json found passes => ?_
      obtain rfl := Option.some.inj found
      exact Check.eq_of_text passes
  · refine prevails_of_settled (settled .timeout) (passes_of_fills filled.timeout) ?_ ?_
    · intro passes
      exact Check.eq_of_number_float (Check.number_of_positive passes) ▸ below.timeout
    · refine fun mention json => means_of_takes nofun fun text json found passes => ?_
      exact denotes_of_argument found (Check.number_of_positive passes)
  · refine prevails_of_settled (settled .verifyCerts) (passes_of_fills filled.verifyCerts) ?_ ?_
    · exact fun passes => Checked.passed.inj passes ▸ below.verifyCerts
    · rintro mention json rfl passes
      exact (Checked.passed.inj passes).symm
  · refine prevails_of_settled (settled .healthTimeout) (passes_of_fills filled.healthTimeout) ?_ ?_
    · intro passes
      exact Check.eq_of_number_float (Check.number_of_nonNegative passes) ▸ below.healthTimeout
    · refine fun mention json => means_of_takes nofun fun text json found passes => ?_
      exact denotes_of_argument found (Check.number_of_nonNegative passes)
  · have passes := Check.number_of_positive (passes_of_fills filled.firstPoll)
    exact Check.eq_of_number_float passes ▸ below.firstPoll
  · have passes := Check.number_of_positive (passes_of_fills filled.longestPoll)
    exact Check.eq_of_number_float passes ▸ below.longestPoll
  · exact Check.eq_of_text (passes_of_fills filled.legacyDocumentType) ▸ below.legacyDocumentType

/-- Settings come from their topmost layer. For every environment whose settings are accepted and
every command line that is understood, if the settings of its command can be built, then each of
them is what the last flag for it means that was given behind the command, in full or shortened; or
else what its variable means, if that is set and not blank, or is a word for yes or no where one is
wanted; or else the standard. For the settings that have no flag the variable decides whatever flags
are given. A text means one number only, be it with a flag or in a variable (`Denotes.unique`). -/
theorem settings_come_from_topmost_layer {env : Environment} {environment settings : Settings}
    {words : List Text} {invocation : Invocation}
    (accepted : Settings.ofEnvironment env Settings.variableStart = .passed environment)
    (understood : read environment words = .invocation invocation)
    (built : settingsFor environment invocation.connection = .ok settings) :
    ∃ form after list, Reaches words form after ∧
      tokens (connectionFlags ++ form.flags) after = some list ∧
      Layered (mentions list) env settings := by
  obtain ⟨form, after, list, reaches, taken, settled⟩ := settled_of_read understood
  have below : environment.AreOf env := Settings.areOf_of_ofEnvironment accepted
  exact ⟨form, after, list, reaches, taken, layered_of_settled below settled built⟩

/-- An environment in which three settings are given, and a fourth is blank. -/
def environmentLayer : Environment :=
  [("CRAWLER_INDEX_BACKEND", " http "), ("CRAWLER_INDEX_URL", " "),
    ("CRAWLER_INDEX_TIMEOUT_S", "5"), ("CRAWLER_INDEX_VERIFY_CERTS", "off")]

/-- A command line on which one flag is given twice, the second time shortened, and another once. -/
def flagLayer : List Text := ["version", "--timeout-s", "7", "--time=8", "--verify-certs"]

/-- The settings of this environment. -/
def beneathFlags : Settings := { backend := .http, timeout := 5, verifyCerts := false }

/-- The connection that this command line asks for in it. -/
def flaggedConnection : Connection :=
  { Given.connection {} beneathFlags with timeout := .float 8, verifyCerts := true }

/-- Each layer decides some of the settings of a command. -/
theorem each_layer_decides_some_settings :
    Settings.ofEnvironment environmentLayer Settings.variableStart = .passed beneathFlags ∧
      read beneathFlags flagLayer = .invocation ⟨flaggedConnection, .version⟩ ∧
      settingsFor beneathFlags flaggedConnection = .ok { backend := .http, timeout := 8 } ∧
      ∃ list : List (Token Given),
        Layered (mentions list) environmentLayer { backend := .http, timeout := 8 } := by
  let given : Fields :=
    [("verify_certs", Json.bool false), ("backend", .str "http"), ("timeout_s", .str "5")]
  have fields : Settings.environmentFields environmentLayer Settings.variableStart = given := rfl
  have accepted : Settings.ofEnvironment environmentLayer Settings.variableStart =
      .passed beneathFlags := by
    rw [Settings.ofEnvironment, fields]
    rfl
  have understood : read beneathFlags flagLayer = .invocation ⟨flaggedConnection, .version⟩ :=
    rfl
  have built : settingsFor beneathFlags flaggedConnection =
      .ok { backend := .http, timeout := 8 } := rfl
  obtain ⟨form, after, list, -, -, layered⟩ :=
    settings_come_from_topmost_layer accepted understood built
  exact ⟨accepted, understood, built, list, layered⟩

end EngineGateway.Cli
