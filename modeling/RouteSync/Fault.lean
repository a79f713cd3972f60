import RouteSync.Json.Printer
import RouteSync.Segment
import RouteSync.Text.Quoted

/-!
# Faults of routes

Why a value is no segment, path, tree or data path, why a tree exceeds its limits, and why a path
leads nowhere. A fault holds its cause; `Fault.message` is the wording.
-/

namespace RouteSync

/-- One step into a value: an index of an array or a name of an object. -/
inductive Crumb where
  | index (i : Nat)
  | name (key : String)
  deriving DecidableEq

/-- A place in a value, as the steps that lead to it. -/
abbrev Location := List Crumb

namespace Location

/-- A place in a message: each step after a slash. -/
def display (location : Location) : String :=
  String.join (location.map fun
    | .index i => "/" ++ toString i
    | .name key => "/" ++ key)

end Location

/-- What is wrong with a value at its place. -/
inductive Problem where
  | segmentExpected (found : Json.Kind)
  | segmentSize (found : Nat)
  | stringExpected (found : Json.Kind)
  | slotKeyExpected (found : Json.Kind)
  | pathLength (found : Nat)
  | nodeExpected (found : Json.Kind)
  | nodeSize (found : Nat)
  | slotsExpected (found : Json.Kind)
  | slotNotAllowed (key : String)
  | urlExpected (found : Json.Kind)
  | refetchExpected (found : Json)
  | flagExpected (found : Json.Kind)
  | dataPathExpected
  | dataPathLength (found : Nat)
  | segmentDiffers (target segment : Segment)
  | flightDataExpected
  | envelopeExpected
  | envelopeSize (found : Nat)
  | buildIdExpected

/-- The wording of a problem. -/
def Problem.message : Problem → String
  | segmentExpected found => "expected string or segment tuple, got " ++ found.name
  | segmentSize found => "segment tuple must have 3 elements, got " ++ toString found
  | stringExpected found => "expected string, got " ++ found.name
  | slotKeyExpected found => "expected slot key string, got " ++ found.name
  | pathLength found => "segment path must have odd length, got " ++ toString found
  | nodeExpected found => "expected router state tuple, got " ++ found.name
  | nodeSize found => "router state tuple must have 2 to 5 elements, got " ++ toString found
  | slotsExpected found => "expected parallel routes object, got " ++ found.name
  | slotNotAllowed key =>
    "slot key " ++ Text.quoted key ++ " is not part of the allowed vocabulary"
  | urlExpected found => "expected url string or null, got " ++ found.name
  | refetchExpected found => "expected \"refetch\" or null, got " ++ found.text
  | flagExpected found => "expected boolean, got " ++ found.name
  | dataPathExpected => "data path must be an array"
  | dataPathLength found =>
    "data path must have an even length of at least 4, got " ++ toString found
  | segmentDiffers target segment =>
    "rendered segment " ++ target.display ++ " does not match tree patch segment " ++
      segment.display
  | flightDataExpected => "flight data must be an array of data paths or a string"
  | envelopeExpected => "envelope must be an array"
  | envelopeSize found => "envelope must be a 2-tuple, got " ++ toString found ++ " elements"
  | buildIdExpected => "build id must be a string"

/-- How a tree exceeds its limits, and where. -/
inductive Excess where
  | depth (most : UInt64) (location : Location)
  | segmentLength (location : Location) (bytes : Nat) (most : UInt64)
  | slotCount (count : Nat) (location : Location) (most : UInt64)
  deriving DecidableEq

namespace Excess

/-- An excess of a part, as one of the whole that holds the part at a place. -/
def within (location : Location) : Excess → Excess
  | depth most inner => depth most (location ++ inner)
  | segmentLength inner bytes most => segmentLength (location ++ inner) bytes most
  | slotCount count inner most => slotCount count (location ++ inner) most

/-- The wording of an excess. -/
def message : Excess → String
  | depth most location =>
    "tree depth exceeds " ++ toString most.toNat ++ " at " ++ location.display
  | segmentLength location bytes most =>
    "segment at " ++ location.display ++ " is " ++ toString bytes ++ " bytes (max " ++
      toString most.toNat ++ ")"
  | slotCount count location most =>
    toString count ++ " parallel routes at " ++ location.display ++ " (max " ++
      toString most.toNat ++ ")"

end Excess

/-- Why a path cannot be followed at a node. -/
inductive DeadEnd where
  | segmentDiffers (wanted found : Segment)
  | slotMissing (key : String) (node : Segment)
  deriving DecidableEq

/-- The wording of a dead end. -/
def DeadEnd.message : DeadEnd → String
  | segmentDiffers wanted found =>
    "expected segment " ++ wanted.display ++ ", found " ++ found.display
  | slotMissing key node => "slot " ++ Text.quoted key ++ " missing under " ++ node.display

/-- Why a route operation fails. -/
inductive Fault where
  | unknownKind (code : String)
  | misshapen (location : Location) (problem : Problem)
  | unresolved (depth : Nat) (reason : DeadEnd)
  | overLimit (excess : Excess)

namespace Fault

/-- A fault of a part, as a fault of the whole that holds the part at a place. -/
def within (location : Location) : Fault → Fault
  | misshapen inner problem => misshapen (location ++ inner) problem
  | overLimit excess => overLimit (excess.within location)
  | fault => fault

/-- The result for a part, its fault placed in the whole. -/
def locate {α : Type} (location : Location) (result : Except Fault α) : Except Fault α :=
  result.mapError (within location)

/-- The wording of a fault. -/
def message : Fault → String
  | unknownKind code => "Invalid segment kind: " ++ Text.quoted code
  | misshapen location problem =>
    "Schema error at " ++ location.display ++ ": " ++ problem.message
  | unresolved depth reason =>
    "Path not found at depth " ++ toString depth ++ ": " ++ reason.message
  | overLimit excess => "Limit exceeded: " ++ excess.message

end Fault

end RouteSync
