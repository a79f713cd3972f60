import RouteSync.RouteTree

/-!
# Walks through a tree

Following a path down from the root, and searching a tree in depth-first order of slots: for the
first node that a test accepts, and for the topmost nodes marked to be fetched again.
-/

namespace RouteSync.RouteTree

/-- The node at the end of the steps, each of which must match the node it leaves and name one of
its slots. -/
def descend? (t : RouteTree) : List Step → Option RouteTree
  | [] => some t
  | step :: steps =>
    if t.segment.matchesSegment step.segment then
      match t.slots.get? step.key with
      | some child => child.descend? steps
      | none => none
    else none

/-- The node at which the path ends, its own segment matching the target. -/
def nodeAt? (t : RouteTree) (path : SegmentPath) : Option RouteTree :=
  match t.descend? path.steps with
  | some node => if node.segment.matchesSegment path.target then some node else none
  | none => none

/-- Runs a search on one list element after another, until it finds something. The searches pass a
state along. -/
def firstFound {α β σ : Type} (search : α → σ → Option β × σ) : List α → σ → Option β × σ
  | [], state => (none, state)
  | a :: rest, state =>
    match search a state with
    | (some b, state) => (some b, state)
    | (none, state) => firstFound search rest state

/-- The path of the first node that the test accepts, where `steps` lead to the root of the tree. A
node is tested before those in its slots. The test may carry a state from node to node. -/
def findFrom {σ : Type} (test : RouteTree → σ → Bool × σ) :
    RouteTree → List Step → σ → Option SegmentPath × σ
  | t@⟨segment, ⟨keys, _, child⟩, _, _, _⟩, steps, state =>
    match test t state with
    | (true, state) => (some ⟨steps, segment⟩, state)
    | (false, state) =>
      firstFound (fun key state =>
        findFrom test (child key.1 key.2) (steps ++ [⟨segment, key.1⟩]) state) keys.attach state

/-- The path of the first node that the test accepts. -/
def find {σ : Type} (t : RouteTree) (test : RouteTree → σ → Bool × σ) (state : σ) :
    Option SegmentPath × σ := t.findFrom test [] state

/-- The paths of the topmost nodes marked to be fetched again, where `steps` lead to the root. -/
def refetchPathsFrom : RouteTree → List Step → List SegmentPath
  | ⟨segment, ⟨keys, _, child⟩, _, refetch, _⟩, steps =>
    if refetch then [⟨steps, segment⟩]
    else keys.attach.flatMap fun key =>
      (child key.1 key.2).refetchPathsFrom (steps ++ [⟨segment, key.1⟩])

/-- The paths of the topmost nodes marked to be fetched again. -/
def refetchPaths (t : RouteTree) : List SegmentPath := t.refetchPathsFrom []

end RouteSync.RouteTree
