import RouteSync.Dict
import RouteSync.SegmentPath

/-!
# Route trees

The state of a router is a tree. A node has a segment, a child for each of its slots, and perhaps
a URL; it can be marked as due to be fetched again, and as a root layout. Slots keep the order in
which they were added, but `RouteTree.same`, the equality of trees, does not look at it.
-/

namespace RouteSync

/-- A node with all that is below it. -/
structure RouteTree where
  segment : Segment
  slots : Dict RouteTree
  url : Option String
  refetch : Bool
  rootLayout : Bool

namespace RouteTree

/-- A node without slots, URL or marks. -/
def leaf (segment : Segment) : RouteTree := ⟨segment, .empty, none, false, false⟩

instance : Inhabited RouteTree := ⟨leaf .page⟩

/-- What holds of a node when it holds of the nodes in its slots holds of every tree. -/
theorem induction {P : RouteTree → Prop}
    (node : ∀ t : RouteTree, (∀ key h, P (t.slots.value key h)) → P t) : ∀ t, P t
  | ⟨_, ⟨_, _, child⟩, _, _, _⟩ => node _ fun key h => induction node (child key h)
termination_by structural t => t

/-- Puts a child into a slot, in place of the one that is there. -/
def withSlot (t : RouteTree) (key : String) (child : RouteTree) : RouteTree :=
  { t with slots := t.slots.insert key child }

/-- Whether the node has no slots. -/
def isLeaf (t : RouteTree) : Bool := t.slots.keys.isEmpty

/-- The number of steps to the deepest node. -/
def depth : RouteTree → Nat
  | ⟨_, ⟨keys, _, child⟩, _, _, _⟩ =>
    (keys.attach.map fun key => (child key.1 key.2).depth + 1).foldl max 0

/-- The number of nodes. -/
def nodeCount : RouteTree → Nat
  | ⟨_, ⟨keys, _, child⟩, _, _, _⟩ =>
    (keys.attach.map fun key => (child key.1 key.2).nodeCount).sum + 1

/-- Whether two nodes are equal but for what is in their slots: they have the same segment, URL,
marks and slot keys. -/
def sameShape (t u : RouteTree) : Bool :=
  t.segment == u.segment && t.url == u.url && t.refetch == u.refetch &&
    t.rootLayout == u.rootLayout && t.slots.size == u.slots.size &&
      t.slots.keys.all fun key => u.slots.keys.contains key

/-- Equality without regard to the order of slots. -/
def same : RouteTree → RouteTree → Bool
  | ⟨segment, ⟨keys, _, child⟩, url, refetch, rootLayout⟩, u =>
    segment == u.segment && url == u.url && refetch == u.refetch && rootLayout == u.rootLayout &&
      keys.length == u.slots.size &&
        keys.attach.all fun key =>
          if h : key.1 ∈ u.slots.keys then (child key.1 key.2).same (u.slots.value key.1 h)
          else false

end RouteTree

end RouteSync
