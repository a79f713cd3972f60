import RouteSync.Fault

/-!
# Faults of an exchange

What can go wrong between a server and a client, over and above a faulty route. The client
recovers from a patch that leads nowhere by fetching the tree again, and from a response of
another build only by loading everything anew.
-/

namespace RouteSync

/-- Why the two readings of an action's response cannot be told apart. -/
inductive Ambiguity where
  /-- the first element is a string, as a build id is, but so is that of the second element, which
  is not flight data -/
  | stringResult (cause : Fault)
  /-- no element is where a build id has to be -/
  | noBuildId

/-- The wording of an ambiguity. -/
def Ambiguity.message : Ambiguity → String
  | stringResult cause =>
    "string first element but second element is not flight data (" ++ cause.message ++ ")"
  | noBuildId => "neither element is a build id; expected [actionResult, [buildId, data]]"

/-- Why an exchange fails. -/
inductive ExchangeFault where
  | route (fault : Fault)
  | staleBuild (expected received : String)
  | ambiguous (ambiguity : Ambiguity)
  | contentLoad (reason : String)
  | notJson

namespace ExchangeFault

/-- The wording of a fault. -/
def message : ExchangeFault → String
  | route fault => fault.message
  | staleBuild expected received =>
    "Stale build: client runs " ++ expected ++ ", response is from " ++ received
  | ambiguous ambiguity => "Ambiguous envelope shape: " ++ ambiguity.message
  | contentLoad reason => "Content load failed: " ++ reason
  | notJson => "JSON error"

/-- Whether fetching the tree again helps. -/
def isRecoverable : ExchangeFault → Bool
  | route (.unresolved ..) => true
  | _ => false

/-- Whether only loading a new build helps. -/
def requiresReload : ExchangeFault → Bool
  | staleBuild .. => true
  | _ => false

end ExchangeFault

end RouteSync
