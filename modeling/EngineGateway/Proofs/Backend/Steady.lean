import EngineGateway.Proofs.Rest.Query
import EngineGateway.Proofs.Rest.Wire
import EngineGateway.Proofs.Session.Look

/-!
# The time in a question for health

A question for the health of an index says how long the engine may hold it back. That time is a
number in the question and nothing more: whether the question can be asked, and what an answer to it
means, does not depend on it. Over such a backend two waits that ask for different times can be
compared by what is answered. All three backends are so.
-/

namespace EngineGateway

variable {α β : Type}

/-- A text that says for how long an engine may hold a question back. -/
def Span.Written (text : String) : Prop :=
  ∃ count : Int, 0 ≤ count ∧ millisecondsText count = .ok text

/-- Two results agree if they are the same, or if both are failures that do not lie with the engine.
-/
def Agree (result other : Except Failure β) : Prop :=
  result = other ∨ ∃ failure another, result = .error failure ∧ other = .error another ∧
    failure.isEngineFailure = false ∧ another.isEngineFailure = false

/-- A backend for which the time in a question for health is a mere number. -/
structure Backend.Steady (backend : Backend α) : Prop where
  /-- A question can be written, or not, with any time as with any other. -/
  encode : ∀ name hold other, Span.Written hold → Span.Written other →
    (fun _ => ()) <$> backend.encode (healthCall name hold) =
      (fun _ => ()) <$> backend.encode (healthCall name other)
  /-- An answer means the same whatever the time was. -/
  decode : ∀ name hold other answer, Span.Written hold → Span.Written other →
    @Agree Json (backend.decode (healthCall name hold) answer)
      (backend.decode (healthCall name other) answer)

/-- A question can be written with both of two times, or with neither for one reason. -/
theorem Backend.Steady.encode_cases {backend : Backend α} (steady : backend.Steady) (name : Name)
    {hold other : String} (written : Span.Written hold) (also : Span.Written other) :
    (∃ failure, backend.encode (healthCall name hold) = .error failure ∧
        backend.encode (healthCall name other) = .error failure) ∨
      ∃ request another, backend.encode (healthCall name hold) = .ok request ∧
        backend.encode (healthCall name other) = .ok another := by
  have alike := steady.encode name hold other written also
  cases first : backend.encode (healthCall name hold) with
  | error failure =>
    cases second : backend.encode (healthCall name other) with
    | error another =>
      rw [first, second] at alike
      cases alike
      exact Or.inl ⟨failure, rfl, rfl⟩
    | ok another =>
      rw [first, second] at alike
      cases alike
  | ok request =>
    cases second : backend.encode (healthCall name other) with
    | ok another => exact Or.inr ⟨request, another, rfl, rfl⟩
    | error another =>
      rw [first, second] at alike
      cases alike

/-- The characters of a time are digits and the letters of its unit, and there are few of them. -/
theorem Span.Written.chars {text : String} (written : Span.Written text) :
    text.toList.length ≤ Decimal.digitLimit + 2 ∧ ∀ c ∈ text.toList, c.isAlphanum = true := by
  obtain ⟨count, nonnegative, told⟩ := written
  obtain ⟨n, rfl⟩ := Int.eq_ofNat_of_zero_le nonnegative
  have short : (n : Int).natAbs < Nat.pow 10 Decimal.digitLimit := by
    by_contra long
    rw [millisecondsText, if_neg long] at told
    cases told
  cases Span.text_of_written told
  have spelled : (toString (n : Int) ++ "ms").toList = Nat.toDigits 10 n ++ ['m', 's'] := by
    rw [String.toList_append]
    exact congrArg (· ++ ['m', 's']) Nat.toList_repr
  rw [spelled]
  constructor
  · have digits : (Nat.toDigits 10 n).length ≤ Decimal.digitLimit :=
      (Decimal.length_toDigits_le_iff (by decide)).2 short
    rw [List.length_append]
    exact Nat.add_le_add_right digits 2
  · intro c member
    obtain digit | letter := List.mem_append.1 member
    · have ascii : c.isDigit = true := Nat.isDigit_of_mem_toDigits (by decide) (by decide) digit
      simp [Char.isAlphanum, ascii]
    · have unit : ['m', 's'].all Char.isAlphanum = true := by decide
      exact List.all_eq_true.1 unit c letter

namespace Rest

/-- Unreserved characters stand in a form as they are. -/
theorem formEncode?_of_unreserved {cs : List Char}
    (free : ∀ c ∈ cs, Text.Percent.isUnreserved c = true) :
    formEncode? (.ofChars cs) = some cs := by
  have each : (Text.pointsOf cs).mapM formPoint? = some (cs.map fun c => [c]) := by
    induction cs with
    | nil => rfl
    | cons c rest inductionHypothesis =>
      have others := inductionHypothesis fun x member => free x (List.mem_cons_of_mem _ member)
      have first : formPoint? (.char c) = some [c] := by
        have unreserved := free c List.mem_cons_self
        unfold formPoint?
        split
        case h_1 blank =>
          cases blank
          cases unreserved
        case h_2 =>
          exact congrArg some (Text.Percent.encodeChar_of_keep unreserved)
      simp only [Text.pointsOf, List.map_cons, List.mapM_cons, first] at others ⊢
      rw [others]
      rfl
  unfold formEncode? Text.ofChars
  rw [each, Option.map_some, ← List.flatMap_def, List.flatMap_singleton']

/-- The query by which a question says how long it may be held back. -/
def holdQuery (hold : String) : List Char := "timeout=".toList ++ hold.toList

/-- The parameters of a question for health spell this query. -/
theorem formQuery_hold {hold : String} (written : Span.Written hold) :
    formQuery [("timeout", .str hold)] = .ok (holdQuery hold) := by
  have free : "timeout".toList.all Text.Percent.isUnreserved = true := by decide
  have name : formEncode? "timeout" = some "timeout".toList :=
    formEncode?_of_unreserved (List.all_eq_true.1 free)
  have time : formEncode? hold = some hold.toList := by
    refine formEncode?_of_unreserved fun c member => ?_
    simp [Text.Percent.isUnreserved, written.chars.2 c member]
  have pairs : formPairs [("timeout", .str hold)] = [(("timeout" : Text), (hold : Text))] := rfl
  unfold formQuery
  rw [pairs]
  simp only [List.mapM_cons, formPair?, name, time]
  rfl

/-- It is plain. -/
theorem plain_holdQuery {hold : String} (written : Span.Written hold) :
    PlainQuery (holdQuery hold) := by
  obtain ⟨short, alphanum⟩ := written.chars
  have stands : ∀ c ∈ holdQuery hold, c = '=' ∨ c.isAlphanum = true := by
    intro c member
    obtain named | timed := List.mem_append.1 member
    · have letters : ("timeout=".toList.all fun c => c == '=' || c.isAlphanum) = true := by decide
      simpa using List.all_eq_true.1 letters c named
    · exact Or.inr (alphanum c timed)
  constructor
  case short =>
    have counted : (holdQuery hold).length = 8 + hold.toList.length := List.length_append
    rw [counted]
    exact (Nat.add_le_add_left short 8).trans (by decide)
  case stands =>
    intro c member
    obtain rfl | alphanum := stands c member
    · rfl
    · have inPath := standsInPath_of_isAlphanum alphanum
      exact (Bool.and_eq_true_iff.1 inPath).1
  case endless =>
    intro c member
    obtain rfl | alphanum := stands c member
    · decide
    · constructor <;> rintro rfl <;> cases alphanum

/-- A question for health goes to a path with the name in it, and says the time as a parameter. -/
theorem plan_of_health (name : Name) (hold : String) :
    plan (healthCall name hold) = indexSegment name >>= fun part =>
      .ok { planFor "GET" ("/_cluster/health/" ++ part) with
        parameters := .obj [("timeout", .str hold)] } := rfl

/-- The address of a question for health is the same for every time, but for the query. -/
theorem address_of_health (engine : Address) (name : Name) :
    ∃ place : Except Failure Address, ∀ hold, Span.Written hold →
      (plan (healthCall name hold)).bind (Plan.address engine) =
        (fun given => given.asking (holdQuery hold)) <$> place := by
  refine ⟨indexSegment name >>= fun part =>
    (join engine (Text.ofString ("/_cluster/health/" ++ part))).mapError .badAddress >>=
      fun address => (address.withQuery (some [])).mapError .badAddress, fun hold written => ?_⟩
  have parameters : ∀ address : Address,
      address.withParameters (some [("timeout", .str hold)]) =
        (fun given => given.asking (holdQuery hold)) <$> address.withQuery (some []) := by
    intro address
    have asked : address.withParameters (some [("timeout", .str hold)]) =
        formQuery [("timeout", .str hold)] >>= fun query => address.withQuery (some query) := rfl
    rw [asked, formQuery_hold written, ← address.withQuery_of_plain (plain_holdQuery written)]
    rfl
  have addressed : ∀ part : String, Plan.address engine
      { planFor "GET" ("/_cluster/health/" ++ part) with
        parameters := .obj [("timeout", .str hold)] } =
      (join engine (Text.ofString ("/_cluster/health/" ++ part))).mapError .badAddress >>=
        fun address => (address.withParameters (some [("timeout", .str hold)])).mapError
          .badAddress := fun _ => rfl
  rw [plan_of_health, map_bind]
  cases indexSegment name with
  | error failure => rfl
  | ok part =>
    change Plan.address engine _ = _ <$> (_ >>= _)
    rw [addressed, map_bind]
    refine bind_congr fun address => ?_
    rw [parameters]
    cases address.withQuery (some []) <;> rfl

/-- The request for the health is a question to the host of its address, and has no body. -/
theorem encode_of_health (engine : Address) (name : Name) (hold : String) :
    (backend engine).encode (healthCall name hold) =
      (plan (healthCall name hold)).bind (Plan.address engine) >>= fun address =>
        checkHost address.host >>= fun _ =>
          .ok (.http "GET" (String.ofList address.target) none) := by
  change (plan (healthCall name hold)).bind (Plan.request engine) = _
  rw [plan_of_health]
  cases indexSegment name <;> rfl

/-- What an answer to it means does not depend on the time, apart from its address. -/
theorem decode_of_health (name : Name) (hold other : String) (answer : Answer) :
    (decode (healthCall name hold) answer : Except Failure Json) =
      decode (healthCall name other) answer := by
  have expected : ∀ response, expectObject (healthCall name hold) response =
      expectObject (healthCall name other) response := by
    intro response
    unfold expectObject
    rw [plan_of_health, plan_of_health]
    cases indexSegment name <;> rfl
  unfold decode
  cases respond answer with
  | error failure => rfl
  | ok response => exact expected response

/-- Whether an answer to it can be used does not either, apart from the words. -/
theorem addressFault?_of_health (engine : Address) (name : Name) {hold other : String}
    (written : Span.Written hold) (also : Span.Written other) :
    addressFault? engine (healthCall name hold) = addressFault? engine (healthCall name other) ∨
      ∃ url another, addressFault? engine (healthCall name hold) = some (.unknownScheme url) ∧
        addressFault? engine (healthCall name other) = some (.unknownScheme another) := by
  obtain ⟨place, addressed⟩ := address_of_health engine name
  unfold addressFault?
  rw [addressed hold written, addressed other also]
  cases place with
  | error failure => exact Or.inl rfl
  | ok address => exact address.fault?_asking (plain_holdQuery written) (plain_holdQuery also)

/-- The way over HTTP is steady. -/
theorem backend_steady (engine : Address) : (backend engine).Steady where
  encode name hold other written also := by
    obtain ⟨place, addressed⟩ := address_of_health engine name
    rw [encode_of_health, encode_of_health, addressed hold written, addressed other also]
    cases place with
    | error failure => rfl
    | ok address =>
      change (fun _ => ()) <$> (checkHost address.host >>= _) =
        (fun _ => ()) <$> (checkHost address.host >>= _)
      cases checkHost address.host <;> rfl
  decode name hold other answer written also := by
    change @Agree Json (receive engine (healthCall name hold) answer)
      (receive engine (healthCall name other) answer)
    unfold receive
    obtain same | ⟨url, another, useless, uselessToo⟩ :=
      addressFault?_of_health engine name written also
    · rw [same]
      split
      · exact Or.inl rfl
      · exact Or.inl (decode_of_health name hold other _)
    · rw [useless, uselessToo]
      cases answer with
      | failed kind text => exact Or.inl (decode_of_health name hold other _)
      | answered status octets => exact Or.inr ⟨_, _, rfl, rfl, rfl, rfl⟩

end Rest

namespace Client

/-- The Elasticsearch library is a steady way. -/
theorem Elasticsearch.backend_steady (known : List Text) :
    (Elasticsearch.backend known).Steady where
  encode _ _ _ _ _ := rfl
  decode _ _ _ _ _ _ := Or.inl rfl

/-- The OpenSearch library is a steady way. -/
theorem Opensearch.backend_steady (known : List Text) :
    (Opensearch.backend known).Steady where
  encode _ _ _ _ _ := rfl
  decode _ _ _ _ _ _ := Or.inl rfl

end Client

end EngineGateway
