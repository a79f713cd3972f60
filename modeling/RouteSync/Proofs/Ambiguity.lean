import RouteSync.Proofs.Messages

/-!
# Telling the responses to an action apart

The response to an action is a navigation, or a pair of the action's result and another pair. In the
one the build id stands in front, in the other it stands in front of the inner pair. A response is
ambiguous exactly if that does not tell the two apart: there is a string at both places, or at
neither. Any other response with a string in front is read as it is in a navigation. Limits are asked
only about the trees in flight data, and so have no say in which of the two a response is.
-/

namespace RouteSync.Envelope

/-! ### Pairs -/

/-- A value that is no pair is refused as such wherever a pair has to stand. -/
theorem pair_cases (v : Json) : (∃ first second, v = .array [first, second]) ∨
    ∃ problem, ∀ location, pairAt location v = .error (.route (.misshapen location problem)) := by
  cases v with
  | array items =>
    match items with
    | [first, second] => exact .inl ⟨first, second, rfl⟩
    | [] | [_] | _ :: _ :: _ :: _ => exact .inr ⟨_, fun _ => rfl⟩
  | _ => exact .inr ⟨_, fun _ => rfl⟩

theorem looksLikeResult_iff (v : Json) :
    looksLikeResult v = true ↔ ∃ front back, v = .array [front, back] ∧ front.kind = .string := by
  constructor
  · intro looks
    unfold looksLikeResult at looks
    split at looks
    · exact ⟨_, _, rfl, rfl⟩
    · cases looks
  · rintro ⟨front, back, rfl, kind⟩
    obtain ⟨text, rfl⟩ := (Json.kind_eq_string_iff front).1 kind
    rfl

/-- Flight data is no pair with a string in front, under any limits: the string would have to be a
data path. -/
theorem flightData_of_looksLikeResult (limits : Limits) {v : Json}
    (looks : looksLikeResult v = true) :
    FlightData.ofJsonWithin limits v = .error (.misshapen [] .dataPathExpected) := by
  obtain ⟨front, back, rfl, kind⟩ := (looksLikeResult_iff v).1 looks
  obtain ⟨text, rfl⟩ := (Json.kind_eq_string_iff front).1 kind
  rfl

/-- A pair whose second element is a pair too, with a string in front of both or of neither. -/
def Ambivalent (raw : Json) : Prop :=
  ∃ first front back, raw = .array [first, .array [front, back]] ∧
    (first.kind = .string ↔ front.kind = .string)

theorem ambivalent_pair_iff (first second : Json) :
    Ambivalent (.array [first, second]) ↔ ∃ front back, second = .array [front, back] ∧
      (first.kind = .string ↔ front.kind = .string) := by
  constructor
  · rintro ⟨_, front, back, equal, agree⟩
    cases equal
    exact ⟨front, back, rfl, agree⟩
  · rintro ⟨front, back, rfl, agree⟩
    exact ⟨first, front, back, rfl, agree⟩

/-! ### The two elements of a response to an action -/

/-- What is wrong with a navigation is wrong with it whatever was asked for. -/
theorem navigationOf_eq_error_iff (limits : Limits) (asked other : Context) (first second : Json)
    (fault : Fault) :
    navigationOf limits asked first second = .error fault ↔
      navigationOf limits other first second = .error fault := by
  cases first with
  | string buildId =>
    rw [navigationOf, navigationOf]
    cases FlightData.ofJsonWithin limits second with
    | ok data => simp only [bind, Except.bind, reduceCtorEq]
    | error fault => exact Iff.rfl
  | _ => exact Iff.rfl

/-- With a string in front a response is read as a navigation, unless the second element has a string
in front as well. -/
theorem actionOf_string (limits : Limits) (text : String) (second : Json) :
    actionOf limits (.string text) second =
      if looksLikeResult second then
        .error (.ambiguous (.stringResult (.misshapen [] .dataPathExpected)))
      else (navigationOf limits .action (.string text) second).mapError .route := by
  cases looks : looksLikeResult second with
  | true =>
    simp only [actionOf, navigationOf, flightData_of_looksLikeResult limits looks]
    simp [bind, Except.bind, looks]
  | false =>
    rw [actionOf]
    cases navigationOf limits .action (.string text) second with
    | ok envelope => rfl
    | error fault => simp [looks, Except.mapError]

/-- Without a string in front of either pair no element is a build id. -/
theorem actionOf_of_no_buildId (limits : Limits) {first front : Json} (back : Json)
    (noString : first.kind ≠ .string) (noBuildId : front.kind ≠ .string) :
    actionOf limits first (.array [front, back]) = .error (.ambiguous .noBuildId) := by
  cases first with
  | string text => exact absurd rfl noString
  | _ =>
    cases front with
    | string buildId => exact absurd rfl noBuildId
    | _ => rfl

/-- With a string in front of the second element alone a response brings a result, and is refused
only for its flight data. -/
theorem actionOf_of_buildId (limits : Limits) {first : Json} (buildId : String) (back : Json)
    (noString : first.kind ≠ .string) :
    actionOf limits first (.array [.string buildId, back]) =
      if back.kind = .null then .ok (actionResult first buildId none)
      else ((FlightData.ofJsonWithin limits back).map fun data =>
        actionResult first buildId (some data)).mapError .route := by
  cases first with
  | string text => exact absurd rfl noString
  | _ =>
    cases back with
    | null => rfl
    | _ =>
      simp only [actionOf, pairAt, ok_bind]
      split <;> simp_all [Json.kind, Except.map, Except.mapError]

/-- A result has to come with a pair. -/
theorem actionOf_of_pairAt {limits : Limits} {first second : Json} {fault : ExchangeFault}
    (noString : first.kind ≠ .string) (noPair : pairAt [.index 1] second = .error fault) :
    actionOf limits first second = .error fault := by
  cases first with
  | string text => exact absurd rfl noString
  | _ =>
    simp only [actionOf, noPair]
    rfl

/-- What is refused as part of a route is not refused as ambiguous. -/
theorem mapError_route_ne_ambiguous {α : Type} (result : Except Fault α) (why : Ambiguity) :
    result.mapError ExchangeFault.route ≠ .error (.ambiguous why) := by
  cases result <;> simp [Except.mapError]

/-- The response to an action is ambiguous if its second element is a pair too, and a string stands
in front of both pairs or of neither. -/
theorem actionOf_eq_ambiguous_iff (limits : Limits) (first second : Json) :
    (∃ why, actionOf limits first second = .error (.ambiguous why)) ↔
      Ambivalent (.array [first, second]) := by
  rw [ambivalent_pair_iff]
  -- The string in front decides which pair may hold the build id, so the inner pair comes second.
  by_cases kind : first.kind = .string
  · obtain ⟨text, rfl⟩ := (Json.kind_eq_string_iff first).1 kind
    have agrees : looksLikeResult second = true ↔ ∃ front back, second = .array [front, back] ∧
        ((Json.string text).kind = .string ↔ front.kind = .string) := by
      simp [looksLikeResult_iff, kind]
    rw [actionOf_string, ← agrees]
    cases looksLikeResult second with
    | true => simp
    | false => simpa using fun why => mapError_route_ne_ambiguous _ why
  · rcases pair_cases second with ⟨front, back, rfl⟩ | ⟨problem, refused⟩
    · by_cases inner : front.kind = .string
      · obtain ⟨buildId, rfl⟩ := (Json.kind_eq_string_iff front).1 inner
        rw [actionOf_of_buildId limits buildId back kind]
        by_cases missing : back.kind = .null
        · simp [missing, kind, inner]
        · simpa [missing, kind, inner] using fun why => mapError_route_ne_ambiguous _ why
      · rw [actionOf_of_no_buildId limits back kind inner]
        simp [kind, inner]
    · rw [actionOf_of_pairAt kind (refused _)]
      constructor
      · rintro ⟨why, equal⟩
        cases equal
      · rintro ⟨front, back, rfl, -⟩
        exact nomatch refused []

/-! ### Whole responses -/

variable {limits : Limits} {context : Context} {raw : Json}

/-- A response that is no pair is refused alike whatever was asked for. -/
theorem ofJsonWithin_of_pairAt {fault : ExchangeFault} (noPair : pairAt [] raw = .error fault) :
    ofJsonWithin limits context raw = .error fault := by
  rw [ofJsonWithin, noPair]
  rfl

theorem ofJsonWithin_navigation_pair (limits : Limits) (first second : Json) :
    ofJsonWithin limits .navigation (.array [first, second]) =
      (navigationOf limits .navigation first second).mapError .route := rfl

theorem ofJsonWithin_action_pair (limits : Limits) (first second : Json) :
    ofJsonWithin limits .action (.array [first, second]) = actionOf limits first second := rfl

/-- A navigation is read from a pair of its build id and its flight data, whatever was asked for. -/
theorem ofJsonWithin_eq_navigation_iff (buildId : String) (data : FlightData) :
    ofJsonWithin limits context raw = .ok (navigation context buildId data) ↔
      ∃ inner, raw = .array [.string buildId, inner] ∧
        FlightData.ofJsonWithin limits inner = .ok data := by
  constructor
  · intro read
    rcases ofJsonWithin_cases read with
      ⟨_, _, inner, pair, equal, carries⟩ | ⟨-, _, _, _, _, -, -, equal, -⟩
    · cases equal
      exact ⟨inner, pair, carries⟩
    · cases equal
  · rintro ⟨inner, rfl, carries⟩
    have found : navigationOf limits context (.string buildId) inner =
        .ok (navigation context buildId data) :=
      (navigationOf_eq_ok_iff ..).2 ⟨buildId, data, rfl, carries, rfl⟩
    cases context with
    | navigation =>
      rw [ofJsonWithin_navigation_pair, found]
      rfl
    | action => simp only [ofJsonWithin_action_pair, actionOf, found]

/-- A navigation reads a response as an action does that reads it as a navigation. -/
theorem ofJsonWithin_navigation_eq_ok_iff (e : Envelope) :
    ofJsonWithin limits .navigation raw = .ok e ↔ ∃ buildId data,
      e = navigation .navigation buildId data ∧
        ofJsonWithin limits .action raw = .ok (navigation .action buildId data) := by
  constructor
  · intro read
    rcases ofJsonWithin_cases read with ⟨buildId, data, inner, pair, rfl, carries⟩ | ⟨action, -⟩
    · exact ⟨buildId, data, rfl, (ofJsonWithin_eq_navigation_iff ..).2 ⟨inner, pair, carries⟩⟩
    · cases action
  · rintro ⟨buildId, data, rfl, read⟩
    rw [ofJsonWithin_eq_navigation_iff] at read ⊢
    exact read

/-- A result stands in front of its response, and is no string. -/
theorem first_of_ofJsonWithin_action {result : Json} {buildId : String} {data : Option FlightData}
    (read : ofJsonWithin limits .action raw = .ok (actionResult result buildId data)) :
    result.kind ≠ .string ∧ ∃ second, raw = .array [result, second] := by
  rcases ofJsonWithin_cases read with
    ⟨_, _, _, -, equal, -⟩ | ⟨-, _, _, _, _, pair, noString, equal, -⟩
  · cases equal
  · cases equal
    exact ⟨noString, _, pair⟩

/-- With a string in front a response that is not ambiguous fails as in a navigation. -/
theorem ofJsonWithin_navigation_of_action {text : String} {rest : List Json} {fault : ExchangeFault}
    (fails : ofJsonWithin limits .action (.array (.string text :: rest)) = .error fault)
    (clear : ∀ why, fault ≠ .ambiguous why) :
    ofJsonWithin limits .navigation (.array (.string text :: rest)) = .error fault := by
  rcases pair_cases (.array (.string text :: rest)) with ⟨first, second, equal⟩ | ⟨problem, refused⟩
  · cases equal
    rw [ofJsonWithin_action_pair, actionOf_string] at fails
    cases looks : looksLikeResult second with
    | true =>
      rw [looks] at fails
      cases fails
      exact absurd rfl (clear _)
    | false =>
      rw [looks, if_neg Bool.false_ne_true, mapError_eq_error_iff] at fails
      obtain ⟨inner, fails, rfl⟩ := fails
      rw [ofJsonWithin_navigation_pair, mapError_eq_error_iff]
      exact ⟨inner, (navigationOf_eq_error_iff ..).1 fails, rfl⟩
  · rw [ofJsonWithin_of_pairAt (refused _)] at fails ⊢
    exact fails

theorem ofJsonWithin_eq_ambiguous_iff (limits : Limits) (context : Context) (raw : Json) :
    (∃ why, ofJsonWithin limits context raw = .error (.ambiguous why)) ↔
      context = .action ∧ Ambivalent raw := by
  rcases pair_cases raw with ⟨first, second, rfl⟩ | ⟨problem, refused⟩
  · cases context with
    | navigation =>
      rw [ofJsonWithin_navigation_pair]
      simpa using fun why => mapError_route_ne_ambiguous _ why
    | action =>
      rw [ofJsonWithin_action_pair]
      simpa using actionOf_eq_ambiguous_iff limits first second
  · rw [ofJsonWithin_of_pairAt (refused _)]
    constructor
    · rintro ⟨why, equal⟩
      cases equal
    · rintro ⟨-, first, front, back, rfl, -⟩
      exact nomatch refused []

/-- An action's response is read as a navigation exactly if a navigation reads it so, each as the
answer to its own request, and as a result only if no string stands in front. With a string in front
it fails as in a navigation, or is ambiguous; and it is ambiguous exactly if it is a pair of pairs
with a string in front of both or of neither, whatever the limits are. -/
theorem action_agrees_navigation (limits : Limits) (raw : Json) :
    (∀ e, ofJsonWithin limits .navigation raw = .ok e ↔ ∃ buildId data,
      e = navigation .navigation buildId data ∧
        ofJsonWithin limits .action raw = .ok (navigation .action buildId data)) ∧
    (∀ context e, ofJsonWithin limits context raw = .ok e → e.asked = context) ∧
    (∀ result buildId data,
      ofJsonWithin limits .action raw = .ok (actionResult result buildId data) →
        result.kind ≠ .string ∧ ∃ second, raw = .array [result, second]) ∧
    (∀ text rest fault, raw = .array (.string text :: rest) →
      ofJsonWithin limits .action raw = .error fault → (∀ why, fault ≠ .ambiguous why) →
        ofJsonWithin limits .navigation raw = .error fault) ∧
    (∀ context, (∃ why, ofJsonWithin limits context raw = .error (.ambiguous why)) ↔
      context = .action ∧ Ambivalent raw) ∧
    ∀ other context, (∃ why, ofJsonWithin limits context raw = .error (.ambiguous why)) ↔
      ∃ why, ofJsonWithin other context raw = .error (.ambiguous why) := by
  refine ⟨ofJsonWithin_navigation_eq_ok_iff, fun _ _ => asked_of_ofJsonWithin, ?_, ?_, ?_, ?_⟩
  · intro result buildId data read
    exact first_of_ofJsonWithin_action read
  · rintro text rest fault rfl fails clear
    exact ofJsonWithin_navigation_of_action fails clear
  · intro context
    exact ofJsonWithin_eq_ambiguous_iff limits context raw
  · intro other context
    rw [ofJsonWithin_eq_ambiguous_iff, ofJsonWithin_eq_ambiguous_iff]

/-- A redirect after either request, and after an action a result, data paths that are cut short, and
a result that is a string. -/
theorem action_agrees_navigation_four :
    let redirect := Json.array [.string "b1", .string "/login"]
    let result := Json.array [.bool true, .array [.string "b1", .null]]
    let short := Json.array [.string "b1", .array [.array [.string ""]]]
    let doubtful := Json.array [.string "done", .array [.string "b1", .string "/login"]]
    let login := FlightData.redirect "/login"
    ofJsonWithin .strict .navigation redirect = .ok (navigation .navigation "b1" login) ∧
      ofJsonWithin .strict .action redirect = .ok (navigation .action "b1" login) ∧
      ofJsonWithin .strict .action result = .ok (actionResult (.bool true) "b1" none) ∧
      (Json.bool true).kind ≠ .string ∧
      ofJsonWithin .strict .action short = .error (.route (.misshapen [] (.dataPathLength 1))) ∧
      ofJsonWithin .strict .navigation short = .error (.route (.misshapen [] (.dataPathLength 1))) ∧
      ∃ why, ofJsonWithin .permissive .action doubtful = .error (.ambiguous why) := by
  intro redirect result short doubtful login
  have agreesRedirect := action_agrees_navigation .strict redirect
  have agreesResult := action_agrees_navigation .strict result
  have agreesShort := action_agrees_navigation .strict short
  have agreesDoubtful := action_agrees_navigation .strict doubtful
  have asNavigation := (agreesRedirect.1 _).2 ⟨"b1", login, rfl, rfl⟩
  refine ⟨asNavigation, rfl, rfl, (agreesResult.2.2.1 _ _ _ rfl).1, rfl, ?_, ?_⟩
  · exact agreesShort.2.2.2.1 "b1" _ _ rfl rfl (by simp)
  · apply (agreesDoubtful.2.2.2.2.2 .permissive .action).1
    exact (agreesDoubtful.2.2.2.2.1 .action).2 ⟨rfl, _, _, _, rfl, Iff.rfl⟩

end RouteSync.Envelope
