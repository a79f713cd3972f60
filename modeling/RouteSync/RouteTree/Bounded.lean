import RouteSync.Limits
import RouteSync.RouteTree

/-!
# Trees within limits

`RouteTree.checkWithin` walks a tree in depth-first order of slots and stops at the first place that
exceeds the limits.
-/

namespace RouteSync.RouteTree

/-- Checks the tree whose root stands at a depth. -/
def checkFrom (limits : Limits) : RouteTree → Nat → Except Fault Unit
  | ⟨segment, ⟨keys, _, child⟩, _, _, _⟩, depth => do
    limits.checkDepth depth
    Fault.locate [.index 0] (limits.checkSegment segment)
    Fault.locate [.index 1] (limits.checkSlotCount keys.length)
    let _ ← Dict.traverse keys fun key h => do
      Fault.locate [.index 1] (limits.checkSlotKey key)
      Fault.locate [.index 1, .name key] ((child key h).checkFrom limits (depth + 1))
    .ok ()

/-- Fails where the tree exceeds the limits. -/
def checkWithin (t : RouteTree) (limits : Limits) : Except Fault Unit := t.checkFrom limits 0

end RouteSync.RouteTree
