import RouteSync.DataPath

/-!
# Patching a tree

Applying a data path follows its steps by slot key and replaces the node it comes to, while every
node on the way must match its step. All else stays as it is. Flight data applies its data paths in
turn, each to the result of the one before.
-/

namespace RouteSync

/-- Content that belongs to a place of the tree. -/
structure PlacedContent where
  path : SegmentPath
  content : Option Json
  head : Option Json

/-- What a response made of the client's tree. -/
inductive Navigation where
  | patched (tree : RouteTree) (contents : List PlacedContent)
  | redirect (url : String)

/-- Replaces the node at the end of the steps, which begin at a node of the given depth. -/
def RouteTree.graft (t replacement : RouteTree) (depth : Nat) :
    List Step → Except Fault RouteTree
  | [] => .ok replacement
  | step :: steps =>
    if t.segment.matchesSegment step.segment then
      match t.slots.get? step.key with
      | some child => do
        let child ← graft child replacement (depth + 1) steps
        .ok (t.withSlot step.key child)
      | none => .error (.unresolved depth (.slotMissing step.key t.segment))
    else .error (.unresolved depth (.segmentDiffers step.segment t.segment))

namespace DataPath

/-- The content that the data path brings. -/
def placedContent (d : DataPath) : PlacedContent := ⟨d.path, d.patch.content, d.patch.head⟩

/-- Puts the patch into its place in a tree. -/
def applyTo (d : DataPath) (base : RouteTree) : Except Fault RouteTree :=
  base.graft d.patch.tree 0 d.steps

/-- Applies data paths in turn. -/
def applyAll : List DataPath → RouteTree → Except Fault RouteTree
  | [], base => .ok base
  | d :: rest, base => do
    let base ← d.applyTo base
    applyAll rest base

end DataPath

/-- Applies flight data to a tree. -/
def FlightData.applyTo (data : FlightData) (base : RouteTree) : Except Fault Navigation :=
  match data with
  | .redirect url => .ok (.redirect url)
  | .paths ds => do
    let tree ← DataPath.applyAll ds base
    .ok (.patched tree (ds.map DataPath.placedContent))

end RouteSync
