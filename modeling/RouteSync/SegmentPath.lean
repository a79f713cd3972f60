import RouteSync.Segment.Wire

/-!
# Paths of segments

A path leads from the root of a tree to one of its nodes: at each step it names the segment of the
node it stands on and the slot it goes into, and last the segment of the node it ends on. In wire
form segments and slot keys alternate, so that the length is odd.
-/

namespace RouteSync

/-- A node passed on the way, and the slot by which it is left. -/
structure Step where
  segment : Segment
  key : String
  deriving DecidableEq

/-- The steps to a node, and the node's own segment. -/
structure SegmentPath where
  steps : List Step
  target : Segment
  deriving DecidableEq

namespace SegmentPath

/-- The path that ends on the root. -/
def root (segment : Segment) : SegmentPath := ⟨[], segment⟩

/-- Goes on from the target into one of its slots. -/
def child (path : SegmentPath) (key : String) (segment : Segment) : SegmentPath :=
  ⟨path.steps ++ [⟨path.target, key⟩], segment⟩

/-- The slot keys along the path. -/
def keys (path : SegmentPath) : List String := path.steps.map Step.key

/-- The segments along the path, the target included. -/
def segments (path : SegmentPath) : List Segment := path.steps.map Step.segment ++ [path.target]

/-- The number of steps. -/
def depth (path : SegmentPath) : Nat := path.steps.length

/-- The number of elements of the wire form. -/
def size (path : SegmentPath) : Nat := path.steps.length * 2 + 1

/-- The path as messages show it. -/
def display (path : SegmentPath) : String :=
  String.join (path.steps.map fun step => step.segment.display ++ " -" ++ step.key ++ "-> ") ++
    path.target.display

/-- Whether steps with a target lead to a node on the way of other steps with their target. -/
def leadsTo (target : Segment) : List Step → List Step → Segment → Bool
  | [], [], other => target.matchesSegment other
  | [], step :: _, _ => target.matchesSegment step.segment
  | _ :: _, [], _ => false
  | a :: as, b :: bs, other =>
    a.key == b.key && a.segment.matchesSegment b.segment && leadsTo target as bs other

/-- Whether the node that `a` ends on lies on the way of `b`, the kinds of parameters apart. -/
def isPrefixOf (a b : SegmentPath) : Bool := leadsTo a.target a.steps b.steps b.target

/-- The elements of the wire form. -/
def toJsonItems (path : SegmentPath) : List Json :=
  path.steps.flatMap (fun step => [step.segment.toJson, .string step.key]) ++ [path.target.toJson]

/-- The wire form. -/
def toJson (path : SegmentPath) : Json := .array path.toJsonItems

/-- Reads a slot key. -/
def keyOfJson : Json → Except Fault String
  | .string s => .ok s
  | v => .error (.misshapen [] (.slotKeyExpected v.kind))

/-- Reads alternating segments and slot keys, the first of them at the given index. -/
def ofItemsFrom (index : Nat) : List Json → Except Fault SegmentPath
  | [] => .error (.misshapen [] (.pathLength index))
  | [target] => do
    let target ← Fault.locate [.index index] (Segment.ofJson target)
    .ok (root target)
  | segment :: key :: rest => do
    let segment ← Fault.locate [.index index] (Segment.ofJson segment)
    let key ← Fault.locate [.index (index + 1)] (keyOfJson key)
    let path ← ofItemsFrom (index + 2) rest
    .ok ⟨⟨segment, key⟩ :: path.steps, path.target⟩

/-- Reads the elements of the wire form. An even number of them is refused before any is read. -/
def ofJsonItems (items : List Json) : Except Fault SegmentPath :=
  if items.length % 2 = 0 then .error (.misshapen [] (.pathLength items.length))
  else ofItemsFrom 0 items

end SegmentPath

end RouteSync
