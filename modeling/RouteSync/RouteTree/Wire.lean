import RouteSync.Limits
import RouteSync.RouteTree

/-!
# Trees in wire form

A node is an array of its segment, an object with the children by slot key, its URL or null, the
word `refetch` or null, and `true` if it is a root layout. When a tree is read the last three may be
missing. The limits apply while it is read: a node too far from the root is not looked at.
-/

namespace RouteSync.RouteTree

/-- The word for the mark of a node to be fetched again. -/
def refetchWord : String := "refetch"

/-- The wire form. -/
def toJson : RouteTree → Json
  | ⟨segment, ⟨keys, nodup, child⟩, url, refetch, rootLayout⟩ =>
    .array ([segment.toJson, .object ⟨keys, nodup, fun key h => (child key h).toJson⟩,
      match url with
      | some url => .string url
      | none => .null,
      if refetch then .string refetchWord else .null] ++
      if rootLayout then [.bool true] else [])

/-- Reads a URL; null and a missing one are none. -/
def urlOfJson : Option Json → Except Fault (Option String)
  | none => .ok none
  | some .null => .ok none
  | some (.string url) => .ok (some url)
  | some v => .error (.misshapen [] (.urlExpected v.kind))

/-- Reads the mark to fetch again; null and a missing one are no mark. -/
def refetchOfJson : Option Json → Except Fault Bool
  | none => .ok false
  | some .null => .ok false
  | some (.string word) =>
    if word = refetchWord then .ok true
    else .error (.misshapen [] (.refetchExpected (.string word)))
  | some v => .error (.misshapen [] (.refetchExpected v))

/-- Reads a flag; a missing one is false. -/
def flagOfJson : Option Json → Except Fault Bool
  | none => .ok false
  | some (.bool b) => .ok b
  | some v => .error (.misshapen [] (.flagExpected v.kind))

/-- Reads the node that stands at a depth. -/
def readFrom (limits : Limits) (v : Json) (depth : Nat) : Except Fault RouteTree := do
  limits.checkDepth depth
  match v with
  | .array items =>
    match items with
    | segment :: slots :: rest =>
      if 3 < rest.length then .error (.misshapen [] (.nodeSize items.length)) else
      let segment ← Fault.locate [.index 0] (Segment.ofJson segment)
      Fault.locate [.index 0] (limits.checkSegment segment)
      match slots with
      | .object ⟨keys, nodup, member⟩ =>
        Fault.locate [.index 1] (limits.checkSlotCount keys.length)
        let child ← Dict.traverse keys fun key h => do
          Fault.locate [.index 1] (limits.checkSlotKey key)
          Fault.locate [.index 1, .name key] (readFrom limits (member key h) (depth + 1))
        let url ← Fault.locate [.index 2] (urlOfJson rest[0]?)
        let refetch ← Fault.locate [.index 3] (refetchOfJson rest[1]?)
        let rootLayout ← Fault.locate [.index 4] (flagOfJson rest[2]?)
        .ok ⟨segment, ⟨keys, nodup, child⟩, url, refetch, rootLayout⟩
      | slots => .error (.misshapen [.index 1] (.slotsExpected slots.kind))
    | items => .error (.misshapen [] (.nodeSize items.length))
  | v => .error (.misshapen [] (.nodeExpected v.kind))
termination_by structural v

/-- Reads a tree within limits. -/
def ofJsonWithin (limits : Limits) (v : Json) : Except Fault RouteTree := readFrom limits v 0

/-- Reads a tree of any size that can be counted. -/
def ofJson (v : Json) : Except Fault RouteTree := ofJsonWithin .permissive v

/-- Fails as reading the tree fails. -/
def validate (limits : Limits) (v : Json) : Except Fault Unit := do
  let _ ← ofJsonWithin limits v
  .ok ()

end RouteSync.RouteTree
