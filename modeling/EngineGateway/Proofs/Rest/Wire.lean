import EngineGateway.Proofs.Rest.Segments
import EngineGateway.Proofs.Rest.Steps
import EngineGateway.Proofs.Text.Digits
import Mathlib.Data.List.Count

/-!
# Paths on the wire

A request's path is appended to the path of the engine's address, and the whole is brought into its
form once more. The form leaves the segments of names alone: their characters all stand for
themselves. But steps of one and two points are resolved, and a path that begins with two slashes
names a host. So the names on the wire are the names that were meant exactly if none of them is one
or two points and none but a single one is empty where the path begins (`Separate`).
-/

namespace EngineGateway.Rest

open Text

/-- The path of a target: what stands before the query. -/
def pathOf (target : List Char) : List Char := target.takeWhile (· != '?')

/-- Names of which the first is empty and not the only one. Their path begins with two slashes. -/
def Headless (names : List Text) : Prop := names.head? = some "" ∧ names.length ≠ 1

/-- Names that stay in their segments. -/
def Separate (names : List Text) : Prop :=
  (∀ name ∈ names, name ≠ "." ∧ name ≠ "..") ∧ ¬Headless names

/-- A letter or digit stands for itself in a path. -/
theorem standsInPath_of_isAlphanum {c : Char} (digit : c.isAlphanum = true) :
    standsInPath c = true := by
  have differs {d : Char} (other : d.isAlphanum = false) : c ≠ d := by
    rintro rfl
    simp [digit] at other
  have visible : isVisible c = true := by
    have bounds := bounds_of_isAlphanum digit
    simp only [isVisible, Bool.and_eq_true, decide_eq_true_eq]
    omega
  simp [standsInPath, standsInQuery, visible, differs]

/-- A character of a segment stands for itself in a path. -/
theorem standsInPath_of_isSegmentChar {c : Char} (inSegment : isSegmentChar c = true) :
    standsInPath c = true := by
  simp only [isSegmentChar, Percent.isUnreserved, Bool.or_eq_true, beq_iff_eq] at inSegment
  rcases inSegment with (((((((digit | rfl) | rfl) | rfl) | rfl) | rfl) | rfl) | rfl)
  · exact standsInPath_of_isAlphanum digit
  all_goals decide

/-- Whatever is in the form of a path stands for itself there. -/
theorem standsInPath_of_mem_encoded {points : List Point} {form : List Char}
    (formed : encoded standsInPath points = .ok form) {c : Char} (member : c ∈ form) :
    standsInPath c = true := by
  unfold encoded at formed
  split at formed
  case h_1 cs written =>
    obtain rfl := Except.ok.inj formed
    obtain ⟨ds, rfl⟩ := Percent.eq_pointsOf_of_encodePoints? written
    rw [Percent.encodePoints?_pointsOf, Option.some.injEq] at written
    rcases Percent.mem_encodeChars (written ▸ member) with ⟨_, kept⟩ | rfl | digit
    · exact kept
    · decide
    · exact standsInPath_of_isAlphanum digit
  case h_2 => simp at formed

/-- A path whose characters all stand for themselves is its own form. -/
theorem pointsOf_encoded {points : List Point} {form : List Char}
    (formed : encoded standsInPath points = .ok form)
    (stand : ∀ c, .char c ∈ points → standsInPath c = true) : pointsOf form = points := by
  unfold encoded at formed
  split at formed
  case h_1 cs written =>
    obtain rfl := Except.ok.inj formed
    obtain ⟨ds, rfl⟩ := Percent.eq_pointsOf_of_encodePoints? written
    rw [Percent.encodePoints?_pointsOf, Option.some.injEq] at written
    rw [← written, Percent.encodeChars_of_forall fun c member => stand c ?_]
    exact List.mem_map.2 ⟨c, member, rfl⟩
  case h_2 => simp at formed

/-- A path is encoded step by step. -/
theorem splitBy_encodeChars (cs : List Char) :
    splitBy (· == '/') (Percent.encodeChars standsInPath cs) =
      (splitBy (· == '/') cs).map (Percent.encodeChars standsInPath) := by
  have kept : standsInPath '/' = true := by decide
  have joined := Percent.encodeChars_joinWith kept (splitBy (· == '/') cs)
  rw [joinWith_splitBy] at joined
  rw [joined]
  refine splitBy_joinWith (by simp [splitBy_ne_nil]) fun part member inside => ?_
  obtain ⟨step, isStep, rfl⟩ := List.mem_map.1 member
  rcases Percent.mem_encodeChars inside with ⟨within, _⟩ | same | digit
  · have separates := not_separator_of_mem_splitBy isStep within
    simp at separates
  · exact absurd same (by decide)
  · exact absurd digit (by decide)

/-- The form of a settled path is settled. -/
theorem settled_encoded {points : List Point} {form : List Char}
    (formed : encoded standsInPath points = .ok form) (settled : Settled points) :
    Settled (pointsOf form) := by
  unfold encoded at formed
  split at formed
  case h_1 cs written =>
    obtain rfl := Except.ok.inj formed
    obtain ⟨ds, rfl⟩ := Percent.eq_pointsOf_of_encodePoints? written
    rw [Percent.encodePoints?_pointsOf, Option.some.injEq] at written
    subst written
    intro step member dots
    rw [splitBy_pointsOf, splitBy_encodeChars, List.map_map] at member
    obtain ⟨part, isPart, rfl⟩ := List.mem_map.1 member
    -- A form of one or two points holds no percent sign, so it is the step itself.
    have plain : '%' ∉ Percent.encodeChars standsInPath part := by
      intro inside
      have point : Point.char '%' ∈ pointsOf (Percent.encodeChars standsInPath part) :=
        List.mem_map.2 ⟨'%', inside, rfl⟩
      rcases dots with same | same <;> simp only [Function.comp_apply] at same <;>
        rw [same] at point <;> simp at point
    rw [Function.comp_apply, Percent.encodeChars_of_not_mem plain] at dots
    refine settled (pointsOf part) ?_ dots
    rw [splitBy_pointsOf]
    exact List.mem_map.2 ⟨part, isPart, rfl⟩
  case h_2 => simp at formed

/-- What an address takes over from the reference that it is the form of. -/
structure Formed (r : Reference) (address : Address) : Prop where
  scheme : address.scheme = r.scheme.map Char.toLower
  path : ∃ placed : Bool, (r.scheme ≠ [] → placed = true) ∧
    encoded standsInPath (if placed then resolve r.path else r.path) = .ok address.path
  bare : r.scheme = [] → r.authority = [] → encoded standsInPath r.path = .ok address.path
  query : address.query = none ↔ r.query = none

/-- A part that is missing has no form, and no other part has none. -/
theorem mapM_encoded_eq_none {keep : Char → Bool} {part : Option (List Point)}
    {form : Option (List Char)} (formed : part.mapM (encoded keep) = .ok form) :
    form = none ↔ part = none := by
  cases part with
  | none =>
    obtain rfl := Except.ok.inj formed
    simp
  | some points =>
    simp only [Option.mapM_some, Functor.map, Except.map] at formed
    split at formed
    · simp at formed
    · obtain rfl := Except.ok.inj formed
      simp

/-- An address is the form of its reference. -/
theorem formed_of_address {r : Reference} {address : Address} (read : r.address = .ok address) :
    Formed r address := by
  simp only [Reference.address, bind_eq_ok] at read
  obtain ⟨user, asks, host, named, port, numbered, read⟩ := read
  split at read
  · simp [bind, Except.bind, throw, throwThe, MonadExceptOf.throw] at read
  · simp only [bind_eq_ok] at read
    obtain ⟨path, resolved, query, asked, fragment, _, same⟩ := read
    obtain rfl := Except.ok.inj same
    refine ⟨rfl, ⟨_, fun scheme => ?_, resolved⟩, fun scheme authority => ?_,
      mapM_encoded_eq_none asked⟩
    · simp [List.isEmpty_eq_false_iff.2 scheme]
    · rw [authority] at asks named numbered
      rw [scheme] at numbered
      obtain rfl : [] = user := Except.ok.inj asks
      obtain rfl : [] = host := Except.ok.inj named
      obtain rfl : none = port := Except.ok.inj numbered
      simpa [scheme] using resolved

/-- The address of an engine: complete, without a query, in its form, and ending in a slash. -/
structure Serves (engine : Address) : Prop where
  scheme : engine.scheme ≠ []
  query : engine.query = none
  stands : ∀ c ∈ engine.path, standsInPath c = true
  settled : Settled (pointsOf engine.path)

/-- A path without a question mark is all of a target. -/
theorem splitAt_of_stands {path : List Char} (stands : ∀ c ∈ path, standsInPath c = true) :
    splitAt '?' path = (path, none) :=
  splitAt_of_not_mem fun member => absurd (stands '?' member) (by decide)

/-- An address with a scheme whose form was made has a settled path of characters that stand for
themselves. -/
theorem Formed.serves {r : Reference} {address : Address} (formed : Formed r address)
    (scheme : address.scheme ≠ []) (query : address.query = none) : Serves address := by
  obtain ⟨placed, named, resolved⟩ := formed.path
  have placed : placed = true := named fun none => scheme (by rw [formed.scheme, none]; rfl)
  rw [placed, if_pos rfl] at resolved
  exact ⟨scheme, query, fun c member => standsInPath_of_mem_encoded resolved member,
    settled_encoded resolved (settled_resolve r.path)⟩

/-- An address with another target of characters that stand for themselves. -/
theorem serves_of_withTarget {address changed : Address} {target : List Char}
    (scheme : address.scheme ≠ []) (stands : ∀ c ∈ target, standsInPath c = true)
    (made : address.withTarget target = .ok changed) :
    Serves changed ∧ pointsOf changed.path = resolve (pointsOf target) := by
  simp only [Address.withTarget, splitAt_of_stands stands] at made
  unfold Reference.changed at made
  split at made
  case isFalse => simp at made
  case isTrue =>
    have formed := formed_of_address made
    have named : changed.scheme ≠ [] := by
      rw [formed.scheme]
      simpa [Address.reference] using scheme
    have bare : changed.query = none := formed.query.2 rfl
    refine ⟨formed.serves named bare, ?_⟩
    obtain ⟨placed, placing, resolved⟩ := formed.path
    have placed : placed = true := placing scheme
    rw [placed, if_pos rfl] at resolved
    refine pointsOf_encoded resolved fun c member => ?_
    rcases mem_resolve member with slash | within
    · rw [Point.char.inj slash]
      decide
    · obtain ⟨d, among, same⟩ := List.mem_map.1 within
      exact Point.char.inj same ▸ stands d among

/-- A text that is an address has the form of its parts. -/
theorem formed_of_read {text : Text} {address : Address} (read : Address.read text = .ok address) :
    Formed (Reference.ofPoints text.points) address := by
  unfold Address.read at read
  split at read
  · simp at read
  · split at read
    · simp at read
    · exact formed_of_address read

/-- Nothing is split off where there is no mark. -/
theorem eq_of_splitAt {α : Type} [BEq α] {mark : α} {list front : List α}
    (cut : splitAt mark list = (front, none)) : front = list := by
  unfold splitAt at cut
  split at cut
  · simp at cut
  · exact (Prod.mk.inj cut).1.symm

/-- The form of a path that ends in a slash ends in a slash. -/
theorem encoded_concat_slash {front : List Point} {form : List Char}
    (formed : encoded standsInPath (front ++ [.char '/']) = .ok form) :
    ∃ start, form = start ++ ['/'] := by
  unfold encoded at formed
  split at formed
  case h_1 cs written =>
    obtain rfl := Except.ok.inj formed
    obtain ⟨ds, whole⟩ := Percent.eq_pointsOf_of_encodePoints? written
    obtain ⟨start, last, rfl, begins, ends⟩ := List.append_eq_map_iff.1 whole
    obtain ⟨c, rfl, same⟩ := List.map_eq_singleton_iff.1 ends
    rw [whole, Percent.encodePoints?_pointsOf, Option.some.injEq, Percent.encodeChars_append,
      Point.char.inj same] at written
    exact ⟨_, written.symm⟩
  case h_2 => simp at formed

/-- A target without a query is the path, or a slash. -/
theorem target_of_query {address : Address} (query : address.query = none) :
    address.target = if address.path.isEmpty then ['/'] else address.path := by
  rw [Address.target, query, Address.marked, List.append_nil]

/-- The address of an engine whose target has no query serves requests, and its target ends in a
slash. -/
theorem serves_of_base {url : Text} {engine : Address} (connected : base url = .ok engine)
    (scheme : engine.scheme ≠ []) (query : engine.query = none) :
    Serves engine ∧ ∃ front, engine.target = front ++ ['/'] := by
  simp only [base, bind_eq_ok] at connected
  obtain ⟨address, read, made⟩ := connected
  split at made
  case isTrue slash =>
    obtain rfl := Except.ok.inj made
    refine ⟨(formed_of_read read).serves scheme query, ?_⟩
    have last : address.target.getLast? = some '/' := by simpa using slash
    obtain ⟨front, whole⟩ := List.getLast?_eq_some_iff.1 last
    exact ⟨front, whole⟩
  case isFalse =>
    cases cut : splitAt '?' (address.target ++ ['/']) with
    | mk path rest =>
      simp only [Address.withTarget, cut, Reference.changed] at made
      split at made
      case isFalse => simp at made
      case isTrue =>
        have formed := formed_of_address made
        have missing : rest = none := by simpa using formed.query.1 query
        subst missing
        obtain rfl := eq_of_splitAt cut
        refine ⟨formed.serves scheme query, ?_⟩
        rw [target_of_query query]
        obtain ⟨placed, placing, resolved⟩ := formed.path
        have placed : placed = true := placing fun none => scheme (by rw [formed.scheme, none]; rfl)
        rw [placed, if_pos rfl] at resolved
        have points : pointsOf (address.target ++ ['/']) =
            pointsOf address.target ++ [.char '/'] := List.map_append
        simp only [points] at resolved
        rcases resolve_concat_slash (pointsOf address.target) with none | ⟨front, ends⟩
        · rw [none] at resolved
          have empty : engine.path = [] := (Except.ok.inj resolved).symm
          exact ⟨[], by simp [empty]⟩
        · rw [ends] at resolved
          obtain ⟨start, whole⟩ := encoded_concat_slash resolved
          exact ⟨start, by simp [whole]⟩

/-- A mark that does not stand for itself in a path is in none. -/
theorem not_mem_of_stands {path : List Char} (stands : ∀ c ∈ path, standsInPath c = true)
    (mark : Char) (other : standsInPath mark = false) : Point.char mark ∉ pointsOf path := by
  intro member
  obtain ⟨c, among, same⟩ := List.mem_map.1 member
  obtain rfl := Point.char.inj same
  exact Bool.false_ne_true (other.symm.trans (stands c among))

/-- A path with one slash in front is a path. -/
theorem ofPoints_of_slash {rest : List Char} (stands : ∀ c ∈ '/' :: rest, standsInPath c = true)
    (single : rest.head? ≠ some '/') :
    Reference.ofPoints (pointsOf ('/' :: rest)) = ⟨[], [], pointsOf ('/' :: rest), none, none⟩ := by
  have nameless : splitScheme (pointsOf ('/' :: rest)) = ([], pointsOf ('/' :: rest)) := rfl
  have placeless : splitAuthority (pointsOf ('/' :: rest)) = ([], pointsOf ('/' :: rest)) := by
    simp only [pointsOf, List.map_cons]
    unfold splitAuthority
    split
    case h_1 more same =>
      cases rest with
      | nil => simp at same
      | cons c others =>
        simp only [List.map_cons, List.cons.injEq, Point.char.injEq, true_and] at same
        exact absurd (by rw [same.1]; rfl) single
    case h_2 => rfl
  unfold Reference.ofPoints
  simp only [nameless, placeless, splitAt_of_not_mem (not_mem_of_stands stands '#' rfl),
    splitAt_of_not_mem (not_mem_of_stands stands '?' rfl)]

/-- A path with two slashes in front is a place, up to the next slash, and the rest a path. -/
theorem ofPoints_of_slashes {place rest : List Char} (stands : ∀ c ∈ rest, standsInPath c = true)
    (inside : ∀ c ∈ place, endsAuthority c = false) (ends : rest = [] ∨ rest.head? = some '/') :
    Reference.ofPoints (pointsOf ('/' :: '/' :: (place ++ rest))) =
      ⟨[], pointsOf place, pointsOf rest, none, none⟩ := by
  have nameless : splitScheme (pointsOf ('/' :: '/' :: (place ++ rest))) =
    ([], pointsOf ('/' :: '/' :: (place ++ rest))) := rfl
  have placed : splitAuthority (pointsOf ('/' :: '/' :: (place ++ rest))) =
      (pointsOf place, pointsOf rest) := by
    have goesOn : ∀ point ∈ pointsOf place, (!Point.passes endsAuthority point) = true := by
      intro point member
      obtain ⟨c, among, rfl⟩ := List.mem_map.1 member
      simp [Point.passes, Point.char?, inside c among]
    have stops : (pointsOf rest).takeWhile (!Point.passes endsAuthority ·) = [] ∧
        (pointsOf rest).dropWhile (!Point.passes endsAuthority ·) = pointsOf rest := by
      rcases ends with rfl | slash
      · exact ⟨rfl, rfl⟩
      · obtain ⟨more, rfl⟩ := List.head?_eq_some_iff.1 slash
        exact ⟨rfl, rfl⟩
    have whole : pointsOf ('/' :: '/' :: (place ++ rest)) =
      .char '/' :: .char '/' :: (pointsOf place ++ pointsOf rest) := by simp [pointsOf]
    rw [whole, splitAuthority, List.takeWhile_append_of_pos goesOn,
      List.dropWhile_append_of_pos goesOn, stops.1, stops.2, List.append_nil]
  unfold Reference.ofPoints
  simp only [nameless, placed, splitAt_of_not_mem (not_mem_of_stands stands '#' rfl),
    splitAt_of_not_mem (not_mem_of_stands stands '?' rfl)]

/-- Points of characters are the points of these characters only. -/
theorem pointsOf_inj {cs ds : List Char} (same : pointsOf cs = pointsOf ds) : cs = ds :=
  List.map_injective_iff.2 (fun _ _ equal => Point.char.inj equal) same

/-- The characters of the forms of names, joined, stand for themselves in a path. -/
theorem standsInPath_of_mem_joined {parts : List (List Char)} {names : List Text}
    (spelled : List.Forall₂ Spells parts names) {c : Char} (member : c ∈ joinWith '/' parts) :
    standsInPath c = true := by
  rcases mem_joinWith member with rfl | ⟨part, isPart, within⟩
  · decide
  · obtain ⟨name, _, spells⟩ := spells_of_mem spelled isPart
    exact standsInPath_of_isSegmentChar (spells.isSegmentChar_of_mem within)

/-- The forms of names are joined with one slash less than there are names. -/
theorem count_joined {parts : List (List Char)} {names : List Text}
    (spelled : List.Forall₂ Spells parts names) (present : parts ≠ []) :
    (joinWith '/' parts).count '/' + 1 = names.length := by
  have whole : ∀ part ∈ parts, '/' ∉ part := fun part member => by
    obtain ⟨name, _, spells⟩ := spells_of_mem spelled member
    exact spells.not_mem_slash
  rw [← length_splitBy, splitBy_joinWith present whole, spelled.length_eq]

/-- What is appended to the target of an engine for the path of a request. -/
def appended (request : Address) : List Char := request.target.dropWhile (· == '/')

/-- A path that does not begin with two slashes is appended as it is, without its slash. -/
theorem appended_of_slash {rest : List Char} (stands : ∀ c ∈ '/' :: rest, standsInPath c = true)
    (single : rest.head? ≠ some '/') {request : Address}
    (formed : Formed (Reference.ofPoints (pointsOf ('/' :: rest))) request) :
    request.scheme = [] ∧ appended request = rest := by
  rw [ofPoints_of_slash stands single] at formed
  have path : request.path = '/' :: rest := by
    refine pointsOf_inj (pointsOf_encoded (formed.bare rfl rfl) fun c member => ?_)
    obtain ⟨d, among, same⟩ := List.mem_map.1 member
    exact Point.char.inj same ▸ stands d among
  refine ⟨formed.scheme, ?_⟩
  have stops : rest.dropWhile (· == '/') = rest := by
    cases rest with
    | nil => rfl
    | cons c more =>
      have different : (c == '/') = false := by simpa using single
      rw [List.dropWhile_cons, different]
      rfl
  rw [appended, target_of_query (formed.query.2 rfl), path]
  exact stops

/-- Slashes among characters are slashes among points. -/
theorem count_pointsOf (cs : List Char) : (pointsOf cs).count (.char '/') = cs.count '/' :=
  List.count_map_of_injective cs Point.char (fun _ _ same => Point.char.inj same) '/'

/-- Of a path that begins with two slashes only what follows the place is appended. -/
theorem count_appended_of_slashes {place rest : List Char}
    (stands : ∀ c ∈ rest, standsInPath c = true) (inside : ∀ c ∈ place, endsAuthority c = false)
    (ends : rest = [] ∨ rest.head? = some '/') {request : Address}
    (formed : Formed (Reference.ofPoints (pointsOf ('/' :: '/' :: (place ++ rest)))) request) :
    request.scheme = [] ∧ (appended request).count '/' ≤ rest.count '/' := by
  rw [ofPoints_of_slashes stands inside ends] at formed
  refine ⟨formed.scheme, ?_⟩
  obtain ⟨placed, _, resolved⟩ := formed.path
  have bound : request.path.count '/' ≤ rest.count '/' := by
    rw [← count_pointsOf, ← count_pointsOf, pointsOf_encoded resolved fun c member => ?_]
    · split
      · exact count_resolve_le _
      · exact Nat.le_refl _
    · have within : Point.char c = .char '/' ∨ Point.char c ∈ pointsOf rest := by
        split at member
        · exact mem_resolve member
        · exact .inr member
      rcases within with slash | among
      · rw [Point.char.inj slash]
        decide
      · obtain ⟨d, isIn, same⟩ := List.mem_map.1 among
        exact Point.char.inj same ▸ stands d isIn
  rw [appended, target_of_query (formed.query.2 rfl)]
  split
  · exact Nat.zero_le _
  · exact Nat.le_trans ((List.dropWhile_sublist _).count_le '/') bound

/-- What is appended stands for itself. -/
theorem standsInPath_of_mem_appended {r : Reference} {request : Address} (formed : Formed r request)
    (query : request.query = none) {c : Char} (member : c ∈ appended request) :
    standsInPath c = true := by
  obtain ⟨placed, _, resolved⟩ := formed.path
  have among := (List.dropWhile_sublist _).subset member
  rw [target_of_query query] at among
  split at among
  · obtain rfl := List.mem_singleton.1 among
    decide
  · exact standsInPath_of_mem_encoded resolved among

/-- The empty form is that of the empty name only. -/
theorem Spells.eq_nil_iff {part : List Char} {name : Text} (spells : Spells part name) :
    part = [] ↔ name = "" :=
  spells.eq_self_iff (s := "") rfl

/-- The forms of names begin with a slash only if the names are headless. -/
theorem head?_joined {parts : List (List Char)} {names : List Text}
    (spelled : List.Forall₂ Spells parts names) (headed : ¬Headless names) :
    (joinWith '/' parts).head? ≠ some '/' := by
  cases spelled with
  | nil => simp [joinWith]
  | @cons first name rest others firstSpelled restSpelled =>
    cases first with
    | nil =>
      have empty := firstSpelled.eq_nil_iff.1 rfl
      cases restSpelled with
      | nil => simp [joinWith]
      | cons _ _ => exact absurd ⟨by rw [empty]; rfl, by simp⟩ headed
    | cons c more =>
      have other : c ≠ '/' := by
        rintro rfl
        exact firstSpelled.not_mem_slash List.mem_cons_self
      cases rest <;> simpa [joinWith] using other

/-- The forms of headless names are a slash, a form, and fewer slashes than there are names. -/
theorem joined_of_headless {parts : List (List Char)} {names : List Text}
    (spelled : List.Forall₂ Spells parts names) (headless : Headless names) :
    ∃ place rest, joinWith '/' parts = '/' :: (place ++ rest) ∧
      (∀ c ∈ place, isSegmentChar c = true) ∧ (∀ c ∈ rest, standsInPath c = true) ∧
      (rest = [] ∨ rest.head? = some '/') ∧ rest.count '/' + 1 < names.length := by
  obtain ⟨empty, several⟩ := headless
  cases spelled with
  | nil => simp at empty
  | @cons first name parts names firstSpelled restSpelled =>
    have blank : first = [] := firstSpelled.eq_nil_iff.2 (by simpa using empty)
    cases restSpelled with
    | nil => simp at several
    | @cons place _ more others placeSpelled moreSpelled =>
      have segment : ∀ c ∈ place, isSegmentChar c = true :=
        fun c member => placeSpelled.isSegmentChar_of_mem member
      cases moreSpelled with
      | nil => exact ⟨place, [], by simp [blank, joinWith], segment, by simp, .inl rfl, by simp⟩
      | @cons next _ later _ nextSpelled laterSpelled =>
        have tail := List.Forall₂.cons nextSpelled laterSpelled
        have slashes := count_joined tail (List.cons_ne_nil next later)
        refine ⟨place, '/' :: joinWith '/' (next :: later), by
          rw [blank, joinWith_cons_cons, joinWith_cons_cons, List.nil_append], segment, ?_,
          .inr rfl, ?_⟩
        · intro c member
          rcases List.mem_cons.1 member with rfl | within
          · decide
          · exact standsInPath_of_mem_joined tail within
        · rw [List.count_cons_self, slashes]
          simp

/-- A character of a segment does not end a place. -/
theorem endsAuthority_of_isSegmentChar {c : Char} (inSegment : isSegmentChar c = true) :
    endsAuthority c = false := by
  simp only [endsAuthority, Bool.or_eq_false_iff, beq_eq_false_iff_ne]
  refine ⟨⟨?_, ?_⟩, ?_⟩ <;> rintro rfl <;> exact absurd inSegment (by decide)

/-- The path of a request for some names, as it was read. -/
theorem formed_of_madeOf {path : String} {parts : List (List Char)}
    (written : path.toList = '/' :: joinWith '/' parts) {request : Address}
    (read : Address.read (.ofString path) = .ok request) :
    Formed (Reference.ofPoints (pointsOf ('/' :: joinWith '/' parts))) request := by
  rw [← written]
  exact formed_of_read read

/-- For names that are not headless their forms are appended. -/
theorem appended_of_headed {path : String} {parts : List (List Char)} {names : List Text}
    (spelled : List.Forall₂ Spells parts names)
    (written : path.toList = '/' :: joinWith '/' parts) (headed : ¬Headless names)
    {request : Address} (read : Address.read (.ofString path) = .ok request) :
    request.scheme = [] ∧ appended request = joinWith '/' parts := by
  refine appended_of_slash (fun c member => ?_) (head?_joined spelled headed)
    (formed_of_madeOf written read)
  rcases List.mem_cons.1 member with rfl | within
  · decide
  · exact standsInPath_of_mem_joined spelled within

/-- For headless names less is appended than there are names. -/
theorem appended_of_headless {path : String} {parts : List (List Char)} {names : List Text}
    (spelled : List.Forall₂ Spells parts names)
    (written : path.toList = '/' :: joinWith '/' parts) (headless : Headless names)
    {request : Address} (read : Address.read (.ofString path) = .ok request) :
    request.scheme = [] ∧ (∀ c ∈ appended request, standsInPath c = true) ∧
      (appended request).count '/' + 1 < names.length := by
  have formed := formed_of_madeOf written read
  obtain ⟨place, rest, joined, segment, stands, ends, few⟩ := joined_of_headless spelled headless
  rw [joined] at formed
  have inside := fun c member => endsAuthority_of_isSegmentChar (segment c member)
  obtain ⟨scheme, bound⟩ := count_appended_of_slashes stands inside ends formed
  have query : request.query = none := by
    refine formed.query.2 ?_
    rw [ofPoints_of_slashes stands inside ends]
  exact ⟨scheme, fun c member => standsInPath_of_mem_appended formed query member, by omega⟩

/-- Another query leaves the path as it is. -/
theorem path_of_withQuery {address changed : Address} (serves : Serves address)
    {query : Option (List Char)} (made : address.withQuery query = .ok changed) :
    changed.path = address.path := by
  unfold Address.withQuery Reference.changed at made
  split at made
  case isFalse => simp at made
  case isTrue =>
    obtain ⟨placed, placing, resolved⟩ := (formed_of_address made).path
    have placed : placed = true := placing serves.scheme
    rw [placed, if_pos rfl] at resolved
    have same := serves.settled.resolve_eq
    refine pointsOf_inj ((pointsOf_encoded resolved fun c member => ?_).trans same)
    obtain ⟨d, among, equal⟩ := List.mem_map.1 (same ▸ member)
    exact Point.char.inj equal ▸ serves.stands d among

/-- So do parameters. -/
theorem path_of_withParameters {address changed : Address} (serves : Serves address)
    {parameters : Option Fields} (made : address.withParameters parameters = .ok changed) :
    changed.path = address.path := by
  unfold Address.withParameters at made
  split at made
  · exact congrArg Address.path (Except.ok.inj made).symm
  · exact path_of_withQuery serves made
  · obtain ⟨query, _, made⟩ := bind_eq_ok.1 made
    exact path_of_withQuery serves made

/-- The path of a target is the path of its address, or a slash. -/
theorem pathOf_target {address : Address} (stands : ∀ c ∈ address.path, standsInPath c = true) :
    pathOf address.target = if address.path.isEmpty then ['/'] else address.path := by
  have all : ∀ c ∈ (if address.path.isEmpty then ['/'] else address.path), (c != '?') = true := by
    intro c member
    have stood : standsInPath c = true := by
      split at member
      · obtain rfl := List.mem_singleton.1 member
        decide
      · exact stands c member
    refine bne_iff_ne.2 ?_
    rintro rfl
    exact absurd stood (by decide)
  rw [pathOf, Address.target, List.takeWhile_append_of_pos all]
  cases address.query <;> simp [Address.marked]

/-- The target of an address that serves requests stands for itself in a path, and is settled. -/
theorem Serves.target {engine : Address} (serves : Serves engine) :
    (∀ c ∈ engine.target, standsInPath c = true) ∧ Settled (pointsOf engine.target) := by
  rw [target_of_query serves.query]
  split
  · refine ⟨fun c member => ?_, fun step member => ?_⟩
    · obtain rfl := List.mem_singleton.1 member
      decide
    · have steps : splitBy (· == .char '/') (pointsOf ['/']) = [[], []] := rfl
      rw [steps] at member
      simp only [List.mem_cons, List.not_mem_nil, or_false, or_self] at member
      simp [IsDots, member]
  · exact ⟨serves.stands, serves.settled⟩

/-- The path that a call's request is sent to: what its path comes to is appended to the target of
the engine, and the whole is resolved. -/
theorem path_of_address {engine : Address} (serves : Serves engine) {plan : Plan} {path : String}
    (planned : plan.path = .str path) {address : Address}
    (addressed : plan.address engine = .ok address) :
    ∃ request, Address.read (.ofString path) = .ok request ∧ (request.scheme = [] →
      (∀ c ∈ appended request, standsInPath c = true) →
        (∀ c ∈ address.path, standsInPath c = true) ∧
          pointsOf address.path = resolve (pointsOf (engine.target ++ appended request))) := by
  simp only [Plan.address, planned, bind_eq_ok, mapError_eq_ok] at addressed
  obtain ⟨text, same, place, placed, parameters, _, method, _, changed⟩ := addressed
  obtain rfl := Except.ok.inj same
  simp only [join, bind_eq_ok] at placed
  obtain ⟨request, read, placed⟩ := placed
  refine ⟨request, read, fun scheme stands => ?_⟩
  have relative : ¬request.isAbsolute = true := by simp [Address.isAbsolute, scheme]
  rw [if_neg relative] at placed
  have all : ∀ c ∈ engine.target ++ appended request, standsInPath c = true := by
    intro c member
    rcases List.mem_append.1 member with front | behind
    · exact serves.target.1 c front
    · exact stands c behind
  obtain ⟨placeServes, resolved⟩ := serves_of_withTarget serves.scheme all placed
  rw [path_of_withParameters placeServes changed]
  exact ⟨placeServes.stands, resolved⟩

/-- The form of a name is a step of points if the name is. -/
theorem Spells.isDots_iff {part : List Char} {name : Text} (spells : Spells part name) :
    IsDots (pointsOf part) ↔ name = "." ∨ name = ".." := by
  have one := spells.eq_self_iff (s := ".") rfl
  have two := spells.eq_self_iff (s := "..") rfl
  rw [← one, ← two]
  constructor
  · rintro (same | same)
    · exact .inl (pointsOf_inj same)
    · exact .inr (pointsOf_inj same)
  · rintro (rfl | rfl)
    · exact .inl rfl
    · exact .inr rfl

/-- The forms of names, joined, are settled if no name is one or two points. -/
theorem settled_joined_iff {parts : List (List Char)} {names : List Text}
    (spelled : List.Forall₂ Spells parts names) (present : parts ≠ []) :
    Settled (pointsOf (joinWith '/' parts)) ↔ ∀ name ∈ names, name ≠ "." ∧ name ≠ ".." := by
  have whole : ∀ part ∈ parts, '/' ∉ part := fun part member => by
    obtain ⟨name, _, spells⟩ := spells_of_mem spelled member
    exact spells.not_mem_slash
  rw [Settled, splitBy_pointsOf, splitBy_joinWith present whole]
  clear present whole
  induction spelled with
  | nil => simp
  | cons first others inductionHypothesis =>
    simp only [List.map_cons, List.forall_mem_cons, inductionHypothesis, first.isDots_iff, not_or]

/-- What stands in front of a joined path reads back as the names of which that is made. -/
theorem namesBelow?_append {front : List Char} {parts : List (List Char)} {names : List Text}
    (spelled : List.Forall₂ Spells parts names) (present : parts ≠ []) :
    namesBelow? front (front ++ joinWith '/' parts) = some names := by
  rw [namesBelow?, if_pos (List.isPrefixOf_iff_prefix.2 (List.prefix_append _ _)), List.drop_left]
  exact namesIn?_joinWith spelled present

/-- As many values are read as there are parts. -/
theorem length_of_mapM {α β : Type} {read : α → Option β} {parts : List α} {values : List β}
    (each : parts.mapM read = some values) : values.length = parts.length := by
  induction parts generalizing values with
  | nil =>
    obtain rfl := Option.some.inj each
    rfl
  | cons part rest inductionHypothesis =>
    simp only [List.mapM_cons, Option.bind_eq_bind, Option.bind_eq_some_iff] at each
    obtain ⟨value, _, others, more, same⟩ := each
    obtain rfl := Option.some.inj same
    simp [inductionHypothesis more]

/-- Names that are read behind a prefix are one more than the slashes there. -/
theorem count_of_namesBelow? {front path : List Char} {names : List Text}
    (read : namesBelow? front path = some names) :
    path.count '/' + 1 = front.count '/' + names.length ∧ front <+: path := by
  unfold namesBelow? at read
  split at read
  case isTrue begins =>
    obtain ⟨rest, rfl⟩ := List.isPrefixOf_iff_prefix.1 begins
    rw [List.drop_left] at read
    have lengths := length_of_mapM read
    rw [length_splitBy] at lengths
    rw [List.count_append, lengths]
    exact ⟨by omega, List.prefix_append _ _⟩
  case isFalse => simp at read

/-- Behind a target that ends in a slash, a single slash has one name, and that is empty. -/
theorem eq_of_namesBelow?_slash {front target : List Char} {names : List Text}
    (ends : target = front ++ ['/']) (read : namesBelow? target ['/'] = some names) :
    names = [Text.ofString ""] := by
  have begins := (count_of_namesBelow? read).2
  have short : front = [] := by
    have lengths := begins.length_le
    rw [ends, List.length_append, List.length_singleton] at lengths
    exact List.length_eq_zero_iff.1 (by omega)
  have empty : List.Forall₂ Spells [[]] [Text.ofString ""] :=
    .cons (Spells.self (s := "") rfl) .nil
  have own : namesBelow? ['/'] (['/'] ++ joinWith '/' [[]]) = some [Text.ofString ""] :=
    namesBelow?_append empty (by simp)
  rw [ends, short] at read
  exact Option.some.inj (read.symm.trans own)

/-- The names that a request's path spells behind the engine's target, for a request that appends
the forms of some names. -/
theorem namesBelow?_of_appended {front target path : List Char} {parts : List (List Char)}
    {names : List Text} (ends : target = front ++ ['/']) (settled : Settled (pointsOf target))
    (spelled : List.Forall₂ Spells parts names) (present : parts ≠ [])
    (resolved : pointsOf path = resolve (pointsOf (target ++ joinWith '/' parts))) :
    namesBelow? target (if path.isEmpty then ['/'] else path) = some names ↔
      ∀ name ∈ names, name ≠ "." ∧ name ≠ ".." := by
  have whole : pointsOf (target ++ joinWith '/' parts) =
      pointsOf front ++ .char '/' :: pointsOf (joinWith '/' parts) := by
    simp [ends, pointsOf]
  have begins : Settled (pointsOf front) := by
    have same : pointsOf target = pointsOf front ++ .char '/' :: [] := by simp [ends, pointsOf]
    exact (settled_append_slash.1 (same ▸ settled)).1
  have behind := settled_joined_iff spelled present
  constructor
  · intro read
    by_contra unsettled
    by_cases nothing : path = []
    · rw [nothing, List.isEmpty_nil, if_pos rfl] at read
      refine unsettled fun name member => ?_
      rw [eq_of_namesBelow?_slash ends read, List.mem_singleton] at member
      subst member
      decide
    · rw [if_neg (by simp [nothing])] at read
      have steps : ¬Settled (pointsOf (target ++ joinWith '/' parts)) := by
        rw [whole, settled_append_slash, behind]
        exact fun both => unsettled both.2
      have fewer := count_resolve_lt steps
        (by rw [← resolved]; exact fun none => nothing (pointsOf_inj none))
      have counted := (count_of_namesBelow? read).1
      have joined := count_joined spelled present
      rw [← resolved, count_pointsOf, count_pointsOf, List.count_append] at fewer
      omega
  · intro plain
    have all : Settled (pointsOf (target ++ joinWith '/' parts)) := by
      rw [whole]
      exact settled_append_slash.2 ⟨begins, behind.2 plain⟩
    rw [all.resolve_eq] at resolved
    rw [pointsOf_inj resolved, if_neg (by simp [ends])]
    exact namesBelow?_append spelled present

/-- A request that appends less than its names does not spell them. -/
theorem namesBelow?_ne_of_few {front target rest path : List Char} {names : List Text}
    (ends : target = front ++ ['/']) (few : rest.count '/' + 1 < names.length)
    (resolved : pointsOf path = resolve (pointsOf (target ++ rest))) :
    namesBelow? target (if path.isEmpty then ['/'] else path) ≠ some names := by
  intro read
  by_cases nothing : path = []
  · rw [nothing, List.isEmpty_nil, if_pos rfl] at read
    rw [eq_of_namesBelow?_slash ends read, List.length_singleton] at few
    omega
  · rw [if_neg (by simp [nothing])] at read
    have counted := (count_of_namesBelow? read).1
    have bound := count_resolve_le (pointsOf (target ++ rest))
    rw [← resolved, count_pointsOf, count_pointsOf, List.count_append] at bound
    omega

/-- The names that a call addresses are at least one. -/
theorem Addresses.ne_nil {call : Call} {names : List Text} (addresses : Addresses call names) :
    names ≠ [] := by
  cases addresses <;> simp

/-- The request for a call goes to the address of its plan. -/
theorem address_of_encode {engine : Address} {call : Call} {method : Text} {target : String}
    {body : Option Json} (written : (backend engine).encode call = .ok (.http method target body)) :
    ∃ planned address, plan call = .ok planned ∧ planned.address engine = .ok address ∧
      target.toList = address.target := by
  change (plan call >>= Plan.request engine) = .ok (.http method target body) at written
  obtain ⟨planned, isPlan, written⟩ := bind_eq_ok.1 written
  simp only [Plan.request, bind_eq_ok] at written
  obtain ⟨address, addressed, sent, _, _, _, _, _, same⟩ := written
  refine ⟨planned, address, isPlan, addressed, ?_⟩
  obtain ⟨_, rfl, _⟩ := Request.http.inj (Except.ok.inj same)
  exact String.toList_ofList

/-- The path of the request for a call, behind that of the engine, spells the names that the call
addresses exactly if they are separate. -/
theorem namesBelow?_iff_separate {url : Text} {engine : Address} (connected : base url = .ok engine)
    (complete : engine.isAbsolute = true) (bare : engine.query = none) {call : Call}
    {names : List Text} (addresses : Addresses call names) {method : Text} {target : String}
    {body : Option Json}
    (written : (backend engine).encode call = .ok (.http method target body)) :
    namesBelow? engine.target (pathOf target.toList) = some names ↔ Separate names := by
  have scheme : engine.scheme ≠ [] := by
    simp only [Address.isAbsolute, Bool.and_eq_true] at complete
    simpa using complete.1
  obtain ⟨serves, front, ends⟩ := serves_of_base connected scheme bare
  obtain ⟨planned, address, isPlan, addressed, same⟩ := address_of_encode written
  obtain ⟨path, isPath, parts, spelled, form⟩ := addresses.madeOf isPlan
  obtain ⟨request, read, leads⟩ := path_of_address serves isPath addressed
  have present : parts ≠ [] := by
    rintro rfl
    cases spelled
    exact addresses.ne_nil rfl
  rw [same]
  by_cases headless : Headless names
  · obtain ⟨relative, stands, few⟩ := appended_of_headless spelled form headless read
    obtain ⟨stand, resolved⟩ := leads relative stands
    rw [pathOf_target stand]
    have differs := namesBelow?_ne_of_few ends few resolved
    exact ⟨fun spells => absurd spells differs, fun separate => absurd headless separate.2⟩
  · obtain ⟨relative, joined⟩ := appended_of_headed spelled form headless read
    rw [joined] at leads
    obtain ⟨stand, resolved⟩ :=
      leads relative fun c member => standsInPath_of_mem_joined spelled member
    rw [pathOf_target stand,
      namesBelow?_of_appended ends serves.target.2 spelled present resolved]
    exact ⟨fun plain => ⟨plain, headless⟩, fun separate => separate.1⟩

/-- The names on the wire. For every engine's address without a query, the path of the request for a
call, behind the engine's own, spells the names that the call addresses exactly if they are
separate: no name is one or two points, and the first one is not empty if others follow. So calls
whose names are separate go to one path only if their names are the same. -/
theorem names_on_the_wire {url : Text} {engine : Address} (connected : base url = .ok engine)
    (complete : engine.isAbsolute = true) (bare : engine.query = none) {call : Call}
    {names : List Text} (addresses : Addresses call names) {method : Text} {target : String}
    {body : Option Json}
    (written : (backend engine).encode call = .ok (.http method target body)) :
    (namesBelow? engine.target (pathOf target.toList) = some names ↔ Separate names) ∧
      ∀ (otherCall : Call) (otherNames : List Text) (otherMethod : Text) (otherTarget : String)
        (otherBody : Option Json), Addresses otherCall otherNames →
        (backend engine).encode otherCall = .ok (.http otherMethod otherTarget otherBody) →
        Separate names → Separate otherNames →
        pathOf target.toList = pathOf otherTarget.toList → names = otherNames := by
  have spells := namesBelow?_iff_separate connected complete bare addresses written
  refine ⟨spells, ?_⟩
  intro otherCall otherNames otherMethod otherTarget otherBody others otherWritten separate
    otherSeparate same
  have first := spells.2 separate
  have second := (namesBelow?_iff_separate connected complete bare others otherWritten).2
    otherSeparate
  rw [same] at first
  exact Option.some.inj (first.symm.trans second)

/-- A document whose id is two points leaves its segment: its path is that of the index, and a write
goes where the index is created. -/
theorem two_points_leave_their_segment :
    ∃ engine, base "http://engine" = .ok engine ∧
      (backend engine).encode (.writeDocument (.str "i") (.str "..") (.obj []) .null) =
        .ok (.http "PUT" "/i" (some (.obj []))) ∧
      namesBelow? engine.target (pathOf "/i".toList) ≠
        some [Text.ofString "i", Text.ofString "_doc", Text.ofString ".."] := by
  let engine : Address :=
    { scheme := "http".toList, user := [], host := "engine".toList, port := none, path := []
      query := none, fragment := none }
  have connected : base "http://engine" = .ok engine := rfl
  have written : (backend engine).encode (.writeDocument (.str "i") (.str "..") (.obj []) .null) =
      .ok (.http "PUT" "/i" (some (.obj []))) := rfl
  refine ⟨engine, connected, written, fun spelled => ?_⟩
  have separate := (names_on_the_wire connected rfl rfl
    (.writeDocument "i" ".." (.obj []) .null) written).1.1 spelled
  exact (separate.1 ".." (by simp)).2 rfl

end EngineGateway.Rest
