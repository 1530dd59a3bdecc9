import EngineGateway.Cli.Invocation

/-!
# Reading a command line

Words are read from left to right: what stands behind tokens that were read does not change what
they gave (`readTokens_append`), so a value that its flag cannot be given ends the reading wherever
it is met (`Misgiven.refused`). And what every flag of a table keeps of the record of everything
given, the reading of all words keeps (`readFlags_keeps`); that is how it is known which numbers an
invocation can hold (`read_numeric`).
-/

namespace EngineGateway.Cli

section

variable {σ : Type} {flags : List (Flag σ)}

/-! ### Values that cannot be read -/

/-- Tokens that were read in full leave the rest to be read from where they led. -/
theorem readTokens_append {reading reached : Reading σ} {earlier : List (Token σ)}
    (came : readTokens reading earlier = .ok reached) (later : List (Token σ)) :
    readTokens reading (earlier ++ later) = readTokens reached later := by
  fun_induction readTokens reading earlier with
  | case1 reading =>
    cases came
    rfl
  | case2 reading text rest inductionHypothesis | case3 reading rest inductionHypothesis
  | case4 reading rest inductionHypothesis | case6 reading name set rest inductionHypothesis =>
    exact inductionHypothesis came
  | case8 reading name read set text rest value taken inductionHypothesis =>
    rw [List.cons_append, readTokens, taken]
    exact inductionHypothesis came
  | case10 reading name read set text rest value taken inductionHypothesis =>
    rw [List.cons_append, List.cons_append, readTokens, taken]
    exact inductionHypothesis came
  -- in all other cases reading ends early, and so nothing was read in full
  | _ => cases came

/-- A flag with a value that it cannot be given, in the same word or in the next one. -/
inductive Unreadable : List (Token σ) → Prop where
  | attached {name : String} {read : Text → Option Json} {set : Json → σ → σ} {text : Text}
    (unread : attachedValue read text = none) :
    Unreadable [.flag ⟨name, .takes read set⟩ (.equal text)]
  | apart {name : String} {read : Text → Option Json} {set : Json → σ → σ} {text : Text}
    (unread : read text = none) : Unreadable [.flag ⟨name, .takes read set⟩ .nothing, .word text]

/-- Words in which a flag is met with a value that it cannot be given. -/
inductive Misgiven (flags : List (Flag σ)) (empty : σ) (words : List Text) : Prop where
  | met {earlier value later : List (Token σ)} {reading : Reading σ}
    (taken : tokens flags words = some (earlier ++ (value ++ later)))
    (came : readTokens { given := empty } earlier = .ok reading) (unreadable : Unreadable value)

/-- A value that its flag cannot be given ends the reading. -/
theorem Misgiven.refused {empty : σ} {words : List Text} (misgiven : Misgiven flags empty words) :
    readFlags flags empty words = .error .refused := by
  obtain ⟨taken, came, unreadable⟩ := misgiven
  rw [readFlags, taken]
  dsimp only
  rw [readTokens_append came]
  cases unreadable with
  | attached unread => rw [List.singleton_append, readTokens, unread]
  | apart unread => rw [List.cons_append, List.singleton_append, readTokens, unread]

/-! ### What flags keep -/

/-- A flag keeps a property of the record of everything given, whatever value it is given. -/
def Effect.Keeps (kept : σ → Prop) : Effect σ → Prop
  | .help => True
  | .takes read set =>
    ∀ value, (value = .arr [] ∨ ∃ text, read text = some value) →
      ∀ given, kept given → kept (set value given)
  | .turns set => ∀ given, kept given → kept (set given)

/-- A word that is no flag in full may stand for flags of the table only. -/
theorem mem_of_mem_candidates {word : Text} {flag : Flag σ} {attached : Attached}
    (member : Token.flag flag attached ∈ candidates flags word) : flag ∈ flags := by
  have among (keeps : Flag σ → Bool) (behind : Attached)
      (found : Token.flag flag attached ∈ (flags.filter keeps).map (Token.flag · behind)) :
      flag ∈ flags := by
    obtain ⟨other, other_mem, same⟩ := List.mem_map.1 found
    obtain rfl := (Token.flag.inj same).1
    exact (List.mem_filter.1 other_mem).1
  unfold candidates at member
  split at member
  · exact among _ _ member
  · exact among _ _ member
  · cases member

/-- A word is taken for a flag of the table only. -/
theorem mem_of_classify {word : Text} {flag : Flag σ} {attached : Attached}
    (taken : classify flags word = some (.flag flag attached)) : flag ∈ flags := by
  unfold classify at taken
  split at taken
  case h_2 => cases taken
  dsimp only at taken
  split at taken
  case h_1 found =>
    cases taken
    exact List.mem_of_find?_eq_some found
  case h_2 found =>
    cases taken
    exact List.mem_of_find?_eq_some found
  split at taken
  case h_1 token only =>
    obtain rfl := Option.some.inj taken
    exact mem_of_mem_candidates (only ▸ List.mem_singleton_self _)
  case h_2 => cases taken
  case h_3 => split at taken <;> cases taken

/-- Words are taken for flags of the table only. -/
theorem mem_of_tokens {words : List Text} {list : List (Token σ)}
    (taken : tokens flags words = some list) {flag : Flag σ} {attached : Attached}
    (member : .flag flag attached ∈ list) : flag ∈ flags := by
  induction words generalizing list with
  | nil =>
    cases taken
    cases member
  | cons word rest inductionHypothesis =>
    rw [tokens] at taken
    by_cases separates : (word == separatorWord) = true
    · rw [if_pos separates] at taken
      cases taken
      simp at member
    · rw [if_neg separates] at taken
      obtain ⟨token, first, others⟩ := Option.bind_eq_some_iff.1 taken
      obtain ⟨tail, next, same⟩ := Option.bind_eq_some_iff.1 others
      cases same
      rcases List.mem_cons.1 member with rfl | later
      · exact mem_of_classify first
      · exact inductionHypothesis next later

/-- What all flags among some tokens keep, their reading keeps. -/
theorem readTokens_keeps {kept : σ → Prop} {reading reached : Reading σ} {list : List (Token σ)}
    (keeps : ∀ flag attached, Token.flag flag attached ∈ list → flag.effect.Keeps kept)
    (start : kept reading.given) (came : readTokens reading list = .ok reached) :
    kept reached.given := by
  fun_induction readTokens reading list with
  | case1 reading =>
    cases came
    exact start
  | case2 reading text rest inductionHypothesis | case3 reading rest inductionHypothesis
  | case4 reading rest inductionHypothesis =>
    exact inductionHypothesis (fun flag attached member => keeps flag attached (.tail _ member))
      start came
  | case6 reading name set rest inductionHypothesis =>
    have turned : kept (set reading.given) := keeps _ _ (.head _) reading.given start
    exact inductionHypothesis (fun flag attached member => keeps flag attached (.tail _ member))
      turned came
  | case8 reading name read set text rest value taken inductionHypothesis =>
    have possible : value = .arr [] ∨ ∃ text, read text = some value := by
      unfold attachedValue at taken
      split at taken
      · cases taken
        exact .inl rfl
      · exact .inr ⟨text, taken⟩
    have changed : kept (set value reading.given) :=
      keeps _ _ (.head _) value possible reading.given start
    exact inductionHypothesis (fun flag attached member => keeps flag attached (.tail _ member))
      changed came
  | case10 reading name read set text rest value taken inductionHypothesis =>
    have changed : kept (set value reading.given) :=
      keeps _ _ (.head _) value (.inr ⟨text, taken⟩) reading.given start
    exact inductionHypothesis
      (fun flag attached member => keeps flag attached (.tail _ (.tail _ member))) changed came
  | _ => cases came

/-- What all flags of a table keep, the reading of words keeps. -/
theorem readFlags_keeps {kept : σ → Prop} (keeps : ∀ flag ∈ flags, flag.effect.Keeps kept)
    {empty : σ} (start : kept empty) {words : List Text} {reading : Reading σ}
    (came : readFlags flags empty words = .ok reading) : kept reading.given := by
  unfold readFlags at came
  split at came
  · cases came
  · rename_i list taken
    exact readTokens_keeps (fun flag attached member => keeps flag (mem_of_tokens taken member))
      start came

end

/-! ### The numbers of an invocation -/

/-- What a flag for a number gives: a number of its kind, or the empty list. -/
def IsGiven {ν : Type} (write : ν → Json) (value : Json) : Prop :=
  value = .arr [] ∨ ∃ number, value = write number

/-- The numbers among everything given are those that their flags give. -/
structure Given.Numeric (given : Given) : Prop where
  timeout : ∀ value ∈ given.timeout, IsGiven .float value
  healthTimeout : ∀ value ∈ given.healthTimeout, IsGiven .float value
  size : ∀ value ∈ given.size, IsGiven .int value

/-- Where nothing is given, no number is. -/
theorem Given.Numeric.empty : Given.Numeric {} where
  timeout := by simp
  healthTimeout := by simp
  size := by simp

/-- The number of results that a command asks for. -/
def Command.size? : Command → Option Json
  | .search _ _ _ size | .storedFields _ _ _ size _ => some size
  | _ => none

/-- The numbers of an invocation are those that flags give. -/
structure Invocation.Numeric (invocation : Invocation) : Prop where
  timeout : IsGiven .float invocation.connection.timeout
  healthTimeout : IsGiven .float invocation.connection.healthTimeout
  size : ∀ size ∈ invocation.command.size?, IsGiven .int size

/-- What a flag for a number makes of a text is a number of its kind. -/
theorem IsGiven.of_flag {ν : Type} {write : ν → Json} {read? : Text → Option ν} {value : Json}
    (gave : value = .arr [] ∨ ∃ text, (read? text).map write = some value) :
    IsGiven write value := by
  rcases gave with empty | ⟨text, read⟩
  · exact .inl empty
  · obtain ⟨number, -, same⟩ := Option.map_eq_some_iff.1 read
    exact .inr ⟨number, same.symm⟩

/-- A flag that leaves the numbers alone keeps what is known of them. -/
theorem Given.Numeric.of_same {given other : Given} (numeric : given.Numeric)
    (timeout : other.timeout = given.timeout)
    (healthTimeout : other.healthTimeout = given.healthTimeout)
    (size : other.size = given.size) : other.Numeric where
  timeout := timeout ▸ numeric.timeout
  healthTimeout := healthTimeout ▸ numeric.healthTimeout
  size := size ▸ numeric.size

/-- The flag for a number of results gives one. -/
theorem sizeFlag_keeps_numeric : sizeFlag.effect.Keeps Given.Numeric := by
  intro value gave given numeric
  exact { numeric with size := fun _ same => Option.some.inj same ▸ .of_flag gave }

/-- The flags of the connection give numbers where numbers belong. -/
theorem connectionFlags_keep_numeric :
    ∀ flag ∈ connectionFlags, flag.effect.Keeps Given.Numeric := by
  intro flag member
  simp only [connectionFlags, helpFlags, switchFlags, List.mem_append, List.mem_cons,
    List.not_mem_nil, or_false] at member
  obtain (((rfl | rfl) | rfl | rfl | rfl) | rfl | rfl) | rfl | rfl | rfl := member
  · trivial
  · trivial
  · exact fun _ _ _ numeric => numeric.of_same rfl rfl rfl
  · exact fun _ _ _ numeric => numeric.of_same rfl rfl rfl
  · intro value gave given numeric
    exact { numeric with timeout := fun _ same => Option.some.inj same ▸ .of_flag gave }
  · exact fun _ numeric => numeric.of_same rfl rfl rfl
  · exact fun _ numeric => numeric.of_same rfl rfl rfl
  · intro value gave given numeric
    exact { numeric with healthTimeout := fun _ same => Option.some.inj same ▸ .of_flag gave }
  · exact fun _ _ _ numeric => numeric.of_same rfl rfl rfl
  · exact fun _ _ _ numeric => numeric.of_same rfl rfl rfl

/-- The flags of every command give numbers where numbers belong. -/
theorem form_keeps_numeric : ∀ form ∈ commandForms, ∀ flag ∈ form.flags,
    flag.effect.Keeps Given.Numeric := by
  intro form listed flag member
  simp only [commandForms, List.mem_cons, List.not_mem_nil, or_false] at listed
  obtain rfl | rfl | rfl | rfl | rfl | rfl | rfl | rfl := listed <;>
    simp only [switchFlags, List.mem_append, List.mem_cons, List.not_mem_nil, or_false] at member
  -- all but the flag for a number of results leave the numbers alone
  · obtain ((rfl | rfl) | rfl | rfl) | rfl | rfl := member
    · exact fun _ _ _ numeric => numeric.of_same rfl rfl rfl
    · exact fun _ _ _ numeric => numeric.of_same rfl rfl rfl
    all_goals exact fun _ numeric => numeric.of_same rfl rfl rfl
  · obtain rfl | rfl := member <;> exact fun _ _ _ numeric => numeric.of_same rfl rfl rfl
  · obtain rfl := member
    exact fun _ _ _ numeric => numeric.of_same rfl rfl rfl
  · obtain rfl | rfl | rfl | rfl := member
    case inr.inr.inr => exact sizeFlag_keeps_numeric
    all_goals exact fun _ _ _ numeric => numeric.of_same rfl rfl rfl
  · obtain rfl | rfl | rfl | rfl | rfl := member
    case inr.inr.inr.inl => exact sizeFlag_keeps_numeric
    all_goals exact fun _ _ _ numeric => numeric.of_same rfl rfl rfl
  · obtain rfl | rfl := member <;> exact fun _ _ _ numeric => numeric.of_same rfl rfl rfl
  · obtain rfl := member
    exact fun _ _ _ numeric => numeric.of_same rfl rfl rfl

/-- A value that was not given is the default, and a default is a number of the kind. -/
theorem IsGiven.getD {ν : Type} {write : ν → Json} {given : Option Json}
    (gave : ∀ value ∈ given, IsGiven write value) (default : ν) :
    IsGiven write (given.getD (write default)) := by
  cases given with
  | none => exact .inr ⟨default, rfl⟩
  | some value => exact gave value rfl

/-- The number of results that a command asks for is the one that was given, or the standard one. -/
theorem size_of_build {form : CommandForm} (listed : form ∈ commandForms) {given : Given}
    {command : Command} (built : form.build given = some command) :
    ∀ size ∈ command.size?, size = given.size.getD standardSize := by
  intro size asked
  simp only [commandForms, List.mem_cons, List.not_mem_nil, or_false] at listed
  obtain rfl | rfl | rfl | rfl | rfl | rfl | rfl | rfl := listed <;>
    simp only [Option.bind_eq_bind, Option.bind_eq_some_iff, Option.pure_def,
      Option.some.injEq] at built
  case inr.inr.inr.inr.inl =>
    obtain ⟨index, -, rfl⟩ := built
    exact (Option.some.inj asked).symm
  case inr.inr.inr.inr.inr.inl =>
    obtain ⟨index, -, field, -, rfl⟩ := built
    exact (Option.some.inj asked).symm
  -- no other command asks for a number of results
  · subst built
    cases asked
  · obtain ⟨index, -, rfl⟩ := built
    cases asked
  · obtain ⟨index, -, rfl⟩ := built
    cases asked
  · obtain ⟨index, -, rfl⟩ := built
    cases asked
  · obtain ⟨id, -, definition, -, rfl⟩ := built
    cases asked
  · obtain ⟨id, -, rfl⟩ := built
    cases asked

/-- The invocation that the flags after a command give has the numbers that flags give. -/
theorem CommandForm.read_numeric {form : CommandForm} (listed : form ∈ commandForms)
    {settings : Settings} {extras : Bool} {words : List Text} {invocation : Invocation}
    (came : form.read settings extras words = .invocation invocation) : invocation.Numeric := by
  unfold CommandForm.read at came
  split at came
  case h_1 => cases came
  case h_2 => cases came
  case h_3 reading taken =>
    have keeps : ∀ flag ∈ connectionFlags ++ form.flags, flag.effect.Keeps Given.Numeric :=
      List.forall_mem_append.2 ⟨connectionFlags_keep_numeric, form_keeps_numeric form listed⟩
    have numeric : reading.given.Numeric := readFlags_keeps keeps .empty taken
    split at came
    case h_1 => cases came
    case h_2 command built =>
      split at came
      · cases came
      · cases came
        exact
          { timeout := .getD numeric.timeout _
            healthTimeout := .getD numeric.healthTimeout _
            size := fun size asked =>
              size_of_build listed built size asked ▸ .getD numeric.size 10 }

/-! ### From the first word to a command -/

/-- The way from the first word to the command, past words that nothing takes. -/
inductive Reaches : List Text → CommandForm → List Text → Prop where
  | here {word name : Text} {rest : List Text} {form : CommandForm}
    (apart : word ≠ separatorWord)
    (taken : classify noFlags word = some (.word name))
    (found : (commandForms.find? fun form => form.name == name) = some form) :
    Reaches (word :: rest) form rest
  | past {word : Text} {rest after : List Text} {form : CommandForm}
    (apart : word ≠ separatorWord)
    (taken : classify noFlags word = some .unknown) (further : Reaches rest form after) :
    Reaches (word :: rest) form after

/-- What is reached is one of the commands. -/
theorem Reaches.listed {words after : List Text} {form : CommandForm}
    (reaches : Reaches words form after) : form ∈ commandForms := by
  induction reaches with
  | here apart taken found => exact List.mem_of_find?_eq_some found
  | past apart taken further inductionHypothesis => exact inductionHypothesis

/-- Where the way leads to a command, the flags after it are read. -/
theorem Reaches.readFrom_eq {words after : List Text} {form : CommandForm}
    (reaches : Reaches words form after) (settings : Settings) (extras : Bool) :
    ∃ extras', readFrom settings extras words = form.read settings extras' after := by
  induction reaches generalizing extras with
  | here apart taken found =>
    refine ⟨extras, ?_⟩
    simp only [readFrom, beq_eq_false_iff_ne.2 apart, taken, found, Bool.false_eq_true, if_false]
  | past apart taken further inductionHypothesis =>
    obtain ⟨extras', same⟩ := inductionHypothesis true
    refine ⟨extras', ?_⟩
    simp only [readFrom, beq_eq_false_iff_ne.2 apart, taken, same, Bool.false_eq_true, if_false]

/-- Where an invocation is read, a command was reached. -/
theorem reaches_of_readFrom {settings : Settings} {extras : Bool} {words : List Text}
    {invocation : Invocation} (came : readFrom settings extras words = .invocation invocation) :
    ∃ form extras' after, Reaches words form after ∧
      form.read settings extras' after = .invocation invocation := by
  fun_induction readFrom settings extras words with
  | case6 extras word rest apart name taken form found =>
    exact ⟨form, extras, rest, .here (fun same => apart (beq_iff_eq.2 same)) taken found, came⟩
  | case8 extras word rest apart taken inductionHypothesis =>
    obtain ⟨form, extras', after, reaches, read⟩ := inductionHypothesis came
    exact ⟨form, extras', after, .past (fun same => apart (beq_iff_eq.2 same)) taken reaches, read⟩
  | _ => cases came

/-- The numbers of an invocation that is read are those that flags give. -/
theorem read_numeric {settings : Settings} {words : List Text} {invocation : Invocation}
    (came : read settings words = .invocation invocation) : invocation.Numeric := by
  obtain ⟨form, extras, after, reaches, given⟩ := reaches_of_readFrom came
  exact form.read_numeric reaches.listed given

/-- Words of a command line that lead to a command, and behind it to a flag with a value that it
cannot be given. -/
inductive Unread (words : List Text) : Prop where
  | behind {form : CommandForm} {after : List Text} (reaches : Reaches words form after)
    (misgiven : Misgiven (connectionFlags ++ form.flags) {} after)

/-- A command line with a value that its flag cannot be given is refused. -/
theorem Unread.refused {words : List Text} (unread : Unread words) (settings : Settings) :
    read settings words = .refused := by
  obtain ⟨reaches, misgiven⟩ := unread
  obtain ⟨extras, same⟩ := reaches.readFrom_eq settings false
  rw [read, same, CommandForm.read, misgiven.refused]

end EngineGateway.Cli
