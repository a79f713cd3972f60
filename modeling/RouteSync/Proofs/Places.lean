import Mathlib.Algebra.GroupWithZero.Nat
import Mathlib.Data.List.Nodup
import RouteSync.Fault
import RouteSync.RouteTree.Walk

/-!
# Places in a tree

A place is named by the slot keys on the way down from the root. `RouteTree.place?` is the view of a
tree as a partial function from places to nodes, and `RouteTree.Follows` says which steps can be
taken from the root. Walking along steps is both together: the steps can be taken, and their keys
name the place at which they end.
-/

namespace RouteSync

namespace RouteTree

/-- What holds of a node when it holds of every child found in its slots holds of every tree. -/
theorem slotInduction {P : RouteTree → Prop}
    (node : ∀ t : RouteTree, (∀ key child, t.slots.get? key = some child → P child) → P t)
    (t : RouteTree) : P t := by
  induction t using RouteTree.induction with
  | node t ih =>
    apply node
    intro key child found
    have member := (Dict.mem_keys_iff t.slots key).2 ⟨child, found⟩
    rw [← Dict.value_eq_of_get? t.slots member found]
    exact ih key member

/-- The node in the slots of the given keys, one below the other. -/
def place? (t : RouteTree) : List String → Option RouteTree
  | [] => some t
  | key :: keys =>
    match t.slots.get? key with
    | some child => child.place? keys
    | none => none

@[simp] theorem place?_nil (t : RouteTree) : t.place? [] = some t := rfl

theorem place?_cons (t : RouteTree) (key : String) (keys : List String) :
    t.place? (key :: keys) = (t.slots.get? key).bind fun child => child.place? keys := by
  rw [place?]
  cases t.slots.get? key <;> rfl

theorem place?_cons_of_get? {t child : RouteTree} {key : String}
    (found : t.slots.get? key = some child) (keys : List String) :
    t.place? (key :: keys) = child.place? keys := by
  rw [place?, found]

/-- A place below the root is one in the first of its slots. -/
theorem place?_cons_eq_some_iff (t : RouteTree) (key : String) (keys : List String)
    (node : RouteTree) :
    t.place? (key :: keys) = some node ↔
      ∃ child, t.slots.get? key = some child ∧ child.place? keys = some node := by
  rw [place?_cons, Option.bind_eq_some_iff]

theorem place?_append (t : RouteTree) (keys more : List String) :
    t.place? (keys ++ more) = (t.place? keys).bind fun node => node.place? more := by
  induction keys generalizing t with
  | nil => rfl
  | cons key keys ih =>
    rw [List.cons_append, place?_cons, place?_cons]
    cases t.slots.get? key with
    | none => rfl
    | some child => exact ih child

theorem place?_append_of_eq_some {t node : RouteTree} {keys : List String}
    (found : t.place? keys = some node) (more : List String) :
    t.place? (keys ++ more) = node.place? more := by
  rw [place?_append, found]
  rfl

/-! ### Steps to a place -/

/-- The steps to a place, each with the segment of the node that it leaves. -/
def stepsTo (t : RouteTree) : List String → List Step
  | [] => []
  | key :: keys =>
    ⟨t.segment, key⟩ ::
      match t.slots.get? key with
      | some child => child.stepsTo keys
      | none => []

@[simp] theorem stepsTo_nil (t : RouteTree) : t.stepsTo [] = [] := rfl

theorem stepsTo_cons_of_get? {t child : RouteTree} {key : String}
    (found : t.slots.get? key = some child) (keys : List String) :
    t.stepsTo (key :: keys) = ⟨t.segment, key⟩ :: child.stepsTo keys := by
  rw [stepsTo, found]

/-- The steps to a place that a tree has go into the slots that name it. -/
theorem map_key_stepsTo {t node : RouteTree} {keys : List String}
    (found : t.place? keys = some node) : (t.stepsTo keys).map Step.key = keys := by
  induction keys generalizing t with
  | nil => rfl
  | cons key keys ih =>
    obtain ⟨child, inside, found⟩ := (place?_cons_eq_some_iff ..).1 found
    rw [stepsTo_cons_of_get? inside, List.map_cons, ih found]

/-! ### All places -/

/-- The places of a tree in depth-first order of slots, each before those below it. -/
def places : RouteTree → List (List String)
  | ⟨_, ⟨keys, _, child⟩, _, _, _⟩ =>
    [] :: keys.attach.flatMap fun key => (child key.1 key.2).places.map (key.1 :: ·)

theorem places_eq (t : RouteTree) :
    t.places = [] :: t.slots.keys.flatMap fun key =>
      ((t.slots.get? key).elim [] places).map (key :: ·) := by
  have below (key : String) : ((t.slots.get? key).elim [] places).map (key :: ·) =
      (t.slots.get? key).elim [] fun child => child.places.map (key :: ·) := by
    cases t.slots.get? key <;> rfl
  simp only [below]
  rw [← Dict.flatMap_attach t.slots fun key child => child.places.map (key :: ·)]
  obtain ⟨_, ⟨_, _, _⟩, _, _, _⟩ := t
  rfl

theorem nodup_places (t : RouteTree) : t.places.Nodup := by
  induction t using slotInduction with
  | node t ih =>
    rw [places_eq, List.nodup_cons, List.nodup_flatMap]
    refine ⟨by simp, ?_, ?_⟩
    · intro key inside
      obtain ⟨child, found⟩ := (Dict.mem_keys_iff ..).1 inside
      rw [found]
      exact (ih key child found).map (List.cons_injective)
    · refine t.slots.nodup.imp ?_
      intro key other different keys member member'
      obtain ⟨rest, -, rfl⟩ := List.mem_map.1 member
      obtain ⟨rest', -, equal⟩ := List.mem_map.1 member'
      exact different (List.cons.inj equal).1.symm

theorem mem_places_iff (t : RouteTree) (keys : List String) :
    keys ∈ t.places ↔ ∃ node, t.place? keys = some node := by
  induction t using slotInduction generalizing keys with
  | node t ih =>
    rw [places_eq, List.mem_cons, List.mem_flatMap]
    cases keys with
    | nil => simp
    | cons key keys =>
      simp only [place?_cons_eq_some_iff]
      constructor
      · rintro (equal | ⟨other, inside, member⟩)
        · cases equal
        · obtain ⟨child, found⟩ := (Dict.mem_keys_iff ..).1 inside
          rw [found] at member
          obtain ⟨rest, member, equal⟩ := List.mem_map.1 member
          cases equal
          obtain ⟨node, place⟩ := (ih key child found keys).1 member
          exact ⟨node, child, found, place⟩
      · rintro ⟨node, child, found, place⟩
        refine .inr ⟨key, (Dict.mem_keys_iff ..).2 ⟨child, found⟩, ?_⟩
        rw [found]
        exact List.mem_map_of_mem ((ih key child found keys).2 ⟨node, place⟩)

theorem nodeCount_eq (t : RouteTree) :
    t.nodeCount = (t.slots.keys.map fun key => (t.slots.get? key).elim 0 nodeCount).sum + 1 := by
  have below : (t.slots.keys.attach.map fun key => (t.slots.value key.1 key.2).nodeCount) =
      t.slots.keys.map fun key => (t.slots.get? key).elim 0 nodeCount := by
    rw [List.map_subtype (g := fun key => (t.slots.get? key).elim 0 nodeCount),
      List.unattach_attach]
    intro key member
    rw [Dict.get?_value t.slots member]
    rfl
  rw [← below]
  obtain ⟨_, ⟨_, _, _⟩, _, _, _⟩ := t
  rfl

/-! ### Marked nodes -/

/-- The marked nodes of a tree are its root, or else those in its slots. -/
theorem refetchPathsFrom_eq (t : RouteTree) (steps : List Step) :
    t.refetchPathsFrom steps = if t.refetch then [⟨steps, t.segment⟩]
      else t.slots.keys.flatMap fun key =>
        (t.slots.get? key).elim [] fun child =>
          child.refetchPathsFrom (steps ++ [⟨t.segment, key⟩]) := by
  rw [← Dict.flatMap_attach t.slots fun key child =>
    child.refetchPathsFrom (steps ++ [Step.mk t.segment key])]
  obtain ⟨_, ⟨_, _, _⟩, _, _, _⟩ := t
  rfl

/-! ### Steps that can be taken -/

/-- Each step matches the node that it leaves and names one of that node's slots. -/
def Follows (t : RouteTree) (steps : List Step) : Prop := (t.descend? steps).isSome = true

@[simp] theorem follows_nil (t : RouteTree) : t.Follows [] := rfl

theorem follows_cons_iff (t : RouteTree) (step : Step) (steps : List Step) :
    t.Follows (step :: steps) ↔ t.segment.matchesSegment step.segment = true ∧
      ∃ child, t.slots.get? step.key = some child ∧ child.Follows steps := by
  rw [Follows, descend?]
  cases agrees : t.segment.matchesSegment step.segment with
  | false => simp
  | true =>
    cases found : t.slots.get? step.key with
    | none => simp
    | some child => simp [Follows]

/-- Walking along steps is taking them, and coming to the place that their keys name. -/
theorem descend?_eq_some_iff (t node : RouteTree) (steps : List Step) :
    t.descend? steps = some node ↔ t.Follows steps ∧ t.place? (steps.map Step.key) = some node := by
  induction steps generalizing t with
  | nil => simp [descend?]
  | cons step steps ih =>
    rw [follows_cons_iff, List.map_cons, place?_cons, descend?]
    cases agrees : t.segment.matchesSegment step.segment with
    | false => simp
    | true =>
      cases found : t.slots.get? step.key with
      | none => simp
      | some child => simpa using ih child

/-- The steps that can be taken lead somewhere. -/
theorem Follows.exists_place? {t : RouteTree} {steps : List Step} (follows : t.Follows steps) :
    ∃ node, t.place? (steps.map Step.key) = some node := by
  obtain ⟨node, found⟩ := Option.isSome_iff_exists.1 follows
  exact ⟨node, ((descend?_eq_some_iff t node steps).1 found).2⟩

theorem follows_append_iff (t : RouteTree) (steps more : List Step) :
    t.Follows (steps ++ more) ↔ t.Follows steps ∧
      ∃ node, t.place? (steps.map Step.key) = some node ∧ node.Follows more := by
  induction steps generalizing t with
  | nil => simp
  | cons step steps ih =>
    rw [List.cons_append, follows_cons_iff, follows_cons_iff, List.map_cons, place?_cons]
    constructor
    · intro holds
      rcases holds with ⟨agrees, child, found, follows⟩
      obtain ⟨front, node, place, back⟩ := (ih child).1 follows
      exact ⟨⟨agrees, child, found, front⟩, node, by rw [found]; exact place, back⟩
    · intro holds
      rcases holds with ⟨⟨agrees, child, found, front⟩, node, place, back⟩
      rw [found] at place
      exact ⟨agrees, child, found, (ih child).2 ⟨front, node, place, back⟩⟩

/-- Takes the steps, the first of them from a node of the given depth, and fails where one of them
cannot be taken. -/
def checkSteps (t : RouteTree) (depth : Nat) : List Step → Except Fault Unit
  | [] => .ok ()
  | step :: steps =>
    if t.segment.matchesSegment step.segment then
      match t.slots.get? step.key with
      | some child => child.checkSteps (depth + 1) steps
      | none => .error (.unresolved depth (.slotMissing step.key t.segment))
    else .error (.unresolved depth (.segmentDiffers step.segment t.segment))

theorem checkSteps_eq_ok_iff (t : RouteTree) (depth : Nat) (steps : List Step) :
    t.checkSteps depth steps = .ok () ↔ t.Follows steps := by
  induction steps generalizing t depth with
  | nil => simp [checkSteps]
  | cons step steps ih =>
    rw [follows_cons_iff, checkSteps]
    cases agrees : t.segment.matchesSegment step.segment with
    | false => simp
    | true =>
      cases found : t.slots.get? step.key with
      | none => simp
      | some child => simp [ih]

/-- The node at which a path ends is at the place that its keys name. -/
theorem nodeAt?_eq_some_iff (t node : RouteTree) (path : SegmentPath) :
    t.nodeAt? path = some node ↔ t.Follows path.steps ∧ t.place? path.keys = some node ∧
      node.segment.matchesSegment path.target = true := by
  rw [nodeAt?, SegmentPath.keys]
  constructor
  · intro found
    cases walked : t.descend? path.steps with
    | none => rw [walked] at found; cases found
    | some last =>
      rw [walked] at found
      obtain ⟨agrees, rfl⟩ : last.segment.matchesSegment path.target = true ∧ last = node := by
        simpa using found
      have both := (descend?_eq_some_iff t last path.steps).1 walked
      exact ⟨both.1, both.2, agrees⟩
  · intro holds
    rcases holds with ⟨follows, place, agrees⟩
    rw [(descend?_eq_some_iff t node path.steps).2 ⟨follows, place⟩]
    simp [agrees]

/-! ### Depth -/

/-- A tree is no deeper than a bound when the trees in its slots leave room for one more step. -/
theorem depth_le_iff (t : RouteTree) (most : Nat) :
    t.depth ≤ most ↔ ∀ key child, t.slots.get? key = some child → child.depth + 1 ≤ most := by
  have unfolded : t.depth = (t.slots.values.map fun child => child.depth + 1).foldl max 0 := by
    obtain ⟨_, ⟨_, _, _⟩, _, _, _⟩ := t
    rw [Dict.values, List.map_map]
    rfl
  rw [unfolded, Dict.foldl_max_values_le_iff]

/-- The depth of a tree is the greatest number of keys that name one of its places. -/
theorem depth_le_iff_places (t : RouteTree) (most : Nat) :
    t.depth ≤ most ↔ ∀ keys node, t.place? keys = some node → keys.length ≤ most := by
  induction t using slotInduction generalizing most with
  | node t ih =>
    rw [depth_le_iff]
    constructor
    · intro bounded keys node found
      cases keys with
      | nil => exact Nat.zero_le _
      | cons key keys =>
        obtain ⟨child, inside, found⟩ := (place?_cons_eq_some_iff ..).1 found
        have room := bounded key child inside
        have short := (ih key child inside (most - 1)).1 (by omega) keys node found
        rw [List.length_cons]
        omega
    · intro bounded key child inside
      have one : 1 ≤ most := bounded [key] child (place?_cons_of_get? inside [])
      have below := (ih key child inside (most - 1)).2 fun keys node found => by
        have long := bounded (key :: keys) node ((place?_cons_of_get? inside keys).trans found)
        rw [List.length_cons] at long
        omega
      omega

/-- What stands at a place counts its depth from there. -/
theorem add_depth_le_of_place? {t node : RouteTree} {keys : List String}
    (found : t.place? keys = some node) : keys.length + node.depth ≤ t.depth := by
  have places := (depth_le_iff_places t _).1 (Nat.le_refl _)
  have here := places keys node found
  have below : node.depth ≤ t.depth - keys.length := by
    rw [depth_le_iff_places node]
    intro more last inside
    have long := places (keys ++ more) last ((place?_append_of_eq_some found more).trans inside)
    rw [List.length_append] at long
    omega
  omega

end RouteTree

end RouteSync
