import EngineGateway.Client.Elasticsearch
import EngineGateway.Client.Opensearch
import EngineGateway.Proofs.Json.Blank
import EngineGateway.Proofs.Rest.Reaching
import EngineGateway.Proofs.Rest.Wire
import EngineGateway.Proofs.Session.Asking
import EngineGateway.Proofs.Session.Searching

/-!
# The settings of an index on their way

The settings of a new index are given as an object or as JSON text of it, and the backends hand them
over in three ways: as the body of an HTTP request, as one argument of a library's call, and as all
its arguments but the name of the index. `Creates` says what a client is to receive. Whichever form
is given, exactly one request goes out, the same for both, and its settings are exactly the object.

Not every backend can carry every object. Over HTTP the settings and the name have to be written in
octets, and the name has to stay in its segment; where the keys of the settings become the names of
arguments, none of them may be the one under which the name of the index goes (`CanCreate`).
-/

namespace EngineGateway

open Session Talk

variable {α τ : Type}

/-! ### The two forms of settings -/

/-- Settings are given as an object, or as JSON text of it. -/
inductive Index.Gives (settings : Fields) : Json → Prop where
  | object : Gives settings (.obj settings)
  | text {written : Text} (read : Json.read written = .ok (.obj settings)) :
    Gives settings (.str written)

/-- In either form they stand for the object. A text that can be read does not count as blank. -/
theorem Index.Gives.settingsBody_eq {settings : Fields} {given : Json}
    (gives : Index.Gives settings given) : settingsBody given = .ok (.obj settings) := by
  cases gives with
  | object => exact settingsBody_obj settings
  | @text written read =>
    have legible : ¬written.isBlankText = true := by
      intro blank
      obtain ⟨refusal, refused⟩ := Json.read_of_blank blank
      cases read.symm.trans refused
    rw [settingsBody, if_neg legible, settingsOfText, read]

/-! ### What a backend can carry, and what its client receives -/

/-- What it takes to create an index over HTTP: a complete address of the engine without a query, an
address for the request, settings that can be written, and a name that stays where it stands. -/
structure Rest.CanCreate (engine : Address) (index : Text) (settings : Fields) : Prop where
  connected : ∃ url, base url = .ok engine
  complete : engine.isAbsolute = true
  bare : engine.query = none
  addressed : ∃ address,
    (plan (.createIndex (.str index) (.obj settings))).bind (Plan.address engine) = .ok address ∧
      checkHost address.host = .ok ()
  sendable : Sendable (.obj settings)
  stays : index ≠ "." ∧ index ≠ ".."

/-- What it takes on each backend. -/
inductive Backend.CanCreate : {α : Type} → Backend α → Text → Fields → Prop where
  | http {engine : Rest.Address} {index : Text} {settings : Fields}
    (able : Rest.CanCreate engine index settings) : CanCreate (Rest.backend engine) index settings
  | elasticsearch (known : List Text) (index : Text) {settings : Fields}
    (free : settings.has "index" = false) :
    CanCreate (Client.Elasticsearch.backend known) index settings
  | opensearch (known : List Text) (index : Text) (settings : Fields) :
    CanCreate (Client.Opensearch.backend known) index settings

/-- A request creates an index of a name, and what the client receives as its settings is exactly an
object: the body of the request, the argument for a body, or all arguments besides the name. -/
inductive Backend.Creates (index : Text) (settings : Fields) :
    {α : Type} → Backend α → Request → Prop where
  | http {engine : Rest.Address} {target : String}
    (named : Rest.namesBelow? engine.target (Rest.pathOf target.toList) = some [index]) :
    Creates index settings (Rest.backend engine) (.http "PUT" target (some (.obj settings)))
  | elasticsearch (known : List Text) :
    Creates index settings (Client.Elasticsearch.backend known)
      (.named "indices.create" (("index", .str index) :: settings))
  | opensearch (known : List Text) :
    Creates index settings (Client.Opensearch.backend known)
      (.named "indices.create" [("index", .str index), ("body", .obj settings)])

/-- A single name stays in its segment unless it is one or two points. -/
theorem Rest.separate_singleton {name : Text} (stays : name ≠ "." ∧ name ≠ "..") :
    Separate [name] := by
  constructor
  · intro other member
    obtain rfl := List.mem_singleton.1 member
    exact stays
  · intro headless
    exact headless.2 rfl

/-- Settings whose keys are texts are the body of the request over HTTP. -/
theorem Rest.CanCreate.written {engine : Address} {index : Text} {settings : Fields}
    (able : CanCreate engine index settings) (texts : ∀ field ∈ settings, field.1.isText = true) :
    ∃ target, (backend engine).encode (.createIndex (.str index) (.obj settings)) =
      .ok (.http "PUT" target (some (.obj settings))) := by
  obtain ⟨address, built, checked⟩ := able.addressed
  obtain ⟨planned, method, isPlan, sent, written⟩ :=
    encode_of_addressed built checked able.sendable
  obtain ⟨segment, -, same⟩ := bind_eq_ok.1 isPlan
  obtain rfl := Except.ok.inj same
  obtain rfl : "PUT" = method := Except.ok.inj sent
  have body : bodyOf (.obj settings) = some (.obj settings) :=
    congrArg (some ∘ Json.obj) (Fields.respelled_of_forall texts Json.spelledKey)
  exact ⟨String.ofList address.target, body ▸ written⟩

/-- Settings whose keys are texts other than the one for the name become arguments. -/
theorem Client.Elasticsearch.encode_createIndex {settings : Fields}
    (texts : ∀ field ∈ settings, field.1.isText = true) (free : settings.has "index" = false)
    (index : Text) : encode (.createIndex (.str index) (.obj settings)) =
      .ok (.named "indices.create" (("index", .str index) :: settings)) := by
  have all : (settings.all fun field => field.1.isText) = true := List.all_eq_true.2 texts
  cases settings with
  | nil => rfl
  | cons field rest =>
    have present : Json.truthy (.obj (field :: rest)) = true := rfl
    simp only [encode, present, if_true, spread, free, all, Bool.not_true, Bool.or_self,
      Bool.false_eq_true, if_false]

/-- Where a backend can create an index with some settings, there is a request for it, and the
client receives the settings in it. -/
theorem Backend.CanCreate.encode_eq {backend : Backend α} {index : Text} {settings : Fields}
    (able : backend.CanCreate index settings)
    (texts : ∀ field ∈ settings, field.1.isText = true) :
    ∃ request, backend.Creates index settings request ∧
      backend.encode (.createIndex (.str index) (.obj settings)) = .ok request := by
  cases able with
  | http able =>
    obtain ⟨url, connected⟩ := able.connected
    obtain ⟨target, written⟩ := able.written texts
    have named := (Rest.namesBelow?_iff_separate connected able.complete able.bare
      (.createIndex index (.obj settings)) written).2 (Rest.separate_singleton able.stays)
    exact ⟨_, .http named, written⟩
  | elasticsearch known index free =>
    exact ⟨_, .elasticsearch known,
      Client.Elasticsearch.encode_createIndex texts free index⟩
  | opensearch known index => exact ⟨_, .opensearch known, rfl⟩

/-! ### One request for both forms -/

/-- Over an open connection a call that can be written makes its request. -/
theorem Backend.requestsOf_of_open {backend : Backend α} {closed : Bool} {call : Call}
    {request : Request} (written : backend.encode call = .ok request)
    (passable : (backend.closesForGood && closed) = false) :
    backend.requestsOf closed call = [request] := by
  simp [requestsOf, written, passable]

/-- The creation of an index sends what the one call for it makes, whatever comes of it. -/
theorem Session.createIndex_sent [Seconds τ] (session : Session α τ) (name : Name) (keep : Bool)
    {given body : Json} (read : Index.settingsBody given = .ok body) (c : Conversation α τ) :
    ((session.createIndex name keep given).run.run c).2.sent =
      c.sent ++ session.backend.requestsOf c.closed (.createIndex name body) := by
  let kept (d : Conversation α τ) : Prop :=
    d.sent = c.sent ++ session.backend.requestsOf c.closed (.createIndex name body)
  have asked : Leads (· = c) (ask session.backend (.createIndex name body)) fun _ => kept := by
    rintro d rfl
    obtain ⟨pending, now, after⟩ := after_ask session.backend (.createIndex name body) d
    rw [after]
  exact Session.leads_createIndex read (fun _ _ _ _ holds => holds) keep asked c rfl

/-- Forms of settings that stand for the same body lead to the same end. -/
theorem Session.createIndex_congr [Seconds τ] (session : Session α τ) (name : Name) (keep : Bool)
    {given other : Json} (same : Index.settingsBody given = Index.settingsBody other) :
    session.createIndex name keep given = session.createIndex name keep other := by
  unfold createIndex
  rw [same]

/-- The settings of an index arrive as they are. On every backend that can create an index with
them, over a connection that is open, exactly one request goes out, whether an index that is there
already is to be kept or not, and whether the settings are given as the object or as any JSON text
of it; the request creates the index of that name, and the client receives exactly the object as its
settings. All else that comes of the two forms is the same as well. -/
theorem settings_arrive_unchanged [Seconds τ] {session : Session α τ} {index : Text}
    {settings : Fields} (able : session.backend.CanCreate index settings)
    (texts : ∀ field ∈ settings, field.1.isText = true) {c : Conversation α τ}
    (passable : (session.backend.closesForGood && c.closed) = false) :
    ∃ request, session.backend.Creates index settings request ∧
      ∀ keep given, Index.Gives settings given →
        ((session.createIndex (.str index) keep given).run.run c).2.sent = c.sent ++ [request] ∧
        (session.createIndex (.str index) keep given).run.run c =
          (session.createIndex (.str index) keep (.obj settings)).run.run c := by
  obtain ⟨request, creates, written⟩ := able.encode_eq texts
  refine ⟨request, creates, ?_⟩
  intro keep given gives
  have body := gives.settingsBody_eq
  constructor
  · rw [Session.createIndex_sent session _ keep body c,
      Backend.requestsOf_of_open written passable]
  · have same := body.trans (Index.settingsBody_obj settings).symm
    rw [Session.createIndex_congr session (.str index) keep same]

/-- Text of settings arrives as the object over HTTP, under a name with a slash in it. -/
theorem text_arrives_as_its_object :
    let settings : Fields := [("mappings", .obj [])]
    let written : Text := "\x7b\"mappings\": \x7b\x7d\x7d"
    Json.read written = .ok (.obj settings) ∧
      ∃ request, directly.backend.Creates "a/b" settings request ∧
        ((directly.createIndex (.str "a/b") false (.str written)).run.run (.start [] 0)).2.sent =
          [request] := by
  intro settings written
  have read : Json.read written = .ok (.obj settings) := by cbv
  have able : directly.backend.CanCreate "a/b" settings :=
    .http ⟨⟨"http://engine", rfl⟩, rfl, rfl, ⟨_, rfl, rfl⟩, ⟨rfl, rfl, rfl⟩, by decide⟩
  have texts : ∀ field ∈ settings, field.1.isText = true := by
    intro field member
    obtain rfl := List.mem_singleton.1 member
    rfl
  have passable : (directly.backend.closesForGood &&
      (Conversation.start [] 0 : Conversation Rest.Answer Float).closed) = false := rfl
  obtain ⟨request, creates, sent⟩ := settings_arrive_unchanged able texts passable
  exact ⟨read, request, creates, (sent false _ (.text read)).1⟩

/-- Some settings never arrive. Over HTTP an object with half a pair in it has no octets, and a
connection that was closed takes none; where the settings become arguments, there is no call with a
second argument under the name's own key. -/
theorem some_settings_never_arrive :
    let half : Json := .obj [("x", .str ⟨[.half 0xD800]⟩)]
    let own : Json := .obj [("index", .obj [])]
    half.isFinite = true ∧ own.isFinite = true ∧
      ((directly.createIndex (.str "i") false half).run.run (.start [] 0)).2.sent = [] ∧
      ((directly.createIndex (.str "i") false own).run.run
        { pending := [], now := 0, closings := [0] }).2.sent = [] ∧
      ((throughClient.createIndex (.str "i") false own).run.run (.start [] 0)).2.sent = [] :=
  ⟨rfl, rfl, rfl, rfl, rfl⟩

end EngineGateway
