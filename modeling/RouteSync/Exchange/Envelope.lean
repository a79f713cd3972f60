import RouteSync.DataPath
import RouteSync.Exchange.Fault

/-!
# Envelopes

A response travels in an envelope with the id of the build that made it. A navigation is a pair of
build id and flight data. An action answers with a pair of its result and such a pair, where null
stands for no flight data, or with a plain navigation. Which of the two an action's response is
shows in where the build id stands, so that a result that is a string cannot be told from a build
id. What a navigation answers does not show: it has the same wire form after either request.
-/

namespace RouteSync

/-- What was asked for. -/
inductive Context where
  | navigation
  | action
  deriving DecidableEq

/-- A response with the build that made it. A navigation may answer either request. -/
inductive Envelope where
  | navigation (asked : Context) (buildId : String) (data : FlightData)
  | actionResult (result : Json) (buildId : String) (data : Option FlightData)

namespace Envelope

/-- The build that made the response. -/
def buildId : Envelope → String
  | navigation _ buildId _ => buildId
  | actionResult _ buildId _ => buildId

/-- What was asked for. -/
def asked : Envelope → Context
  | navigation asked _ _ => asked
  | actionResult _ _ _ => .action

/-- What the response does to the client's tree, if anything. -/
def data? : Envelope → Option FlightData
  | navigation _ _ data => some data
  | actionResult _ _ data => data

/-- The wire form. -/
def toJson : Envelope → Json
  | navigation _ buildId data => .array [.string buildId, data.toJson]
  | actionResult result buildId data =>
    .array [result, .array [.string buildId,
      match data with
      | some data => data.toJson
      | none => .null]]

/-- The two elements of a pair that stands at a place. -/
def pairAt (location : Location) : Json → Except ExchangeFault (Json × Json)
  | .array [first, second] => .ok (first, second)
  | .array items => .error (.route (.misshapen location (.envelopeSize items.length)))
  | _ => .error (.route (.misshapen location .envelopeExpected))

/-- Reads a navigation, in answer to a request, from its two elements. -/
def navigationOf (limits : Limits) (asked : Context) (first second : Json) :
    Except Fault Envelope :=
  match first with
  | .string buildId => do
    let data ← FlightData.ofJsonWithin limits second
    .ok (navigation asked buildId data)
  | _ => .error (.misshapen [.index 0] .buildIdExpected)

/-- Whether a value could be the second element of an action's result. -/
def looksLikeResult : Json → Bool
  | .array [.string _, _] => true
  | _ => false

/-- Reads the response to an action from its two elements. -/
def actionOf (limits : Limits) (first second : Json) : Except ExchangeFault Envelope :=
  match first with
  | .string _ =>
    match navigationOf limits .action first second with
    | .ok envelope => .ok envelope
    | .error fault =>
      if looksLikeResult second then .error (.ambiguous (.stringResult fault))
      else .error (.route fault)
  | result => do
    match ← pairAt [.index 1] second with
    | (.string buildId, .null) => .ok (actionResult result buildId none)
    | (.string buildId, data) =>
      match FlightData.ofJsonWithin limits data with
      | .ok data => .ok (actionResult result buildId (some data))
      | .error fault => .error (.route fault)
    | _ => .error (.ambiguous .noBuildId)

/-- Reads an envelope whose trees are within limits. -/
def ofJsonWithin (limits : Limits) (context : Context) (raw : Json) :
    Except ExchangeFault Envelope := do
  let (first, second) ← pairAt [] raw
  match context with
  | .navigation => (navigationOf limits .navigation first second).mapError .route
  | .action => actionOf limits first second

/-- Reads an envelope. -/
def ofJson (context : Context) (raw : Json) : Except ExchangeFault Envelope :=
  ofJsonWithin .permissive context raw

/-- Equality without regard to the order of slots and of object members. -/
def same : Envelope → Envelope → Bool
  | navigation c b d, navigation c' b' d' => c == c' && b == b' && d.same d'
  | actionResult r b none, actionResult r' b' none => r.same r' && b == b'
  | actionResult r b (some d), actionResult r' b' (some d') => r.same r' && b == b' && d.same d'
  | _, _ => false

end Envelope

end RouteSync
