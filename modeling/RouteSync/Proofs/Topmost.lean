import Mathlib.Data.List.Flatten
import Mathlib.Data.List.Infix
import RouteSync.Proofs.Changes
import RouteSync.Render.Scripted

/-!
# Topmost changes

A place of two trees is topmost when both have it, what the next one has there must be rendered, and
nothing above it must be. A walk emits one data path for each topmost place, in depth-first order of
the next tree's slots, and no other; it fails only if one of these cannot be rendered.
-/

namespace RouteSync.ContentSource

/-- Both trees have a node at the place, and the next one's need not be rendered. The steps `above`
lead to the roots. -/
def UnchangedAt (source : ContentSource) (prev next : RouteTree) (above : List Step)
    (keys : List String) : Prop :=
  ∃ old new, prev.place? keys = some old ∧ next.place? keys = some new ∧
    source.Unchanged old new ⟨above ++ next.stepsTo keys, new.segment⟩

instance (source : ContentSource) (prev next : RouteTree) (above : List Step) (keys : List String) :
    Decidable (source.UnchangedAt prev next above keys) :=
  decidable_of_iff (∃ old ∈ prev.place? keys, ∃ new ∈ next.place? keys,
    source.Unchanged old new ⟨above ++ next.stepsTo keys, new.segment⟩) (by simp [UnchangedAt])

/-- Nothing above the place must be rendered. -/
def Reached (source : ContentSource) (prev next : RouteTree) (above : List Step)
    (keys : List String) : Prop :=
  ∀ front, front <+: keys → front ≠ keys → source.UnchangedAt prev next above front

instance (source : ContentSource) (prev next : RouteTree) (above : List Step) (keys : List String) :
    Decidable (source.Reached prev next above keys) :=
  decidable_of_iff (∀ front ∈ keys.inits, front ≠ keys → source.UnchangedAt prev next above front)
    (by simp [Reached, List.mem_inits])

/-- Both trees have the place, what the next one has there must be rendered, and nothing above it
must be. -/
structure Topmost (source : ContentSource) (prev next : RouteTree) (above : List Step)
    (keys : List String) : Prop where
  inPrev : ∃ old, prev.place? keys = some old
  inNext : ∃ new, next.place? keys = some new
  changed : ¬source.UnchangedAt prev next above keys
  unchanged : ∀ front, front <+: keys → front ≠ keys → source.UnchangedAt prev next above front

/-- A data path brings all of what the next tree has at a place, with the segment of the node there
and what the source renders for it, along steps with the next tree's segments. -/
structure Renders (source : ContentSource) (mode : RenderMode) (next : RouteTree)
    (above : List Step) (keys : List String) (d : DataPath) : Prop where
  steps : d.steps = above ++ next.stepsTo keys
  node : next.place? keys = some d.patch.tree
  own : d.patch.segment = d.patch.tree.segment
  loads : source.load d.path d.patch.tree mode = .ok ⟨d.patch.content, d.patch.head⟩

variable {source : ContentSource} {mode : RenderMode} {next prev child other : RouteTree}
  {above : List Step} {key : String} {keys : List String} {d : DataPath} {ds : List DataPath}

/-! ### Through one slot -/

theorem unchangedAt_nil_iff :
    source.UnchangedAt prev next above [] ↔ source.Unchanged prev next ⟨above, next.segment⟩ := by
  simp [UnchangedAt]

section Slot

variable (found : next.slots.get? key = some child) (found' : prev.slots.get? key = some other)

include found found'

theorem unchangedAt_cons_iff :
    source.UnchangedAt prev next above (key :: keys) ↔
      source.UnchangedAt other child (above ++ [⟨next.segment, key⟩]) keys := by
  simp [UnchangedAt, RouteTree.place?_cons_of_get? found, RouteTree.place?_cons_of_get? found',
    RouteTree.stepsTo_cons_of_get? found]

/-- Below an unchanged root, what is reached in a slot is reached in the tree. -/
theorem reached_cons_iff (root : source.Unchanged prev next ⟨above, next.segment⟩) :
    source.Reached prev next above (key :: keys) ↔
      source.Reached other child (above ++ [⟨next.segment, key⟩]) keys := by
  constructor
  · intro reached front isPrefix shorter
    rw [← unchangedAt_cons_iff found found']
    apply reached _ (List.cons_prefix_cons.2 ⟨rfl, isPrefix⟩)
    exact fun equal => shorter (List.cons.inj equal).2
  · intro reached front isPrefix shorter
    rcases List.prefix_cons_iff.1 isPrefix with rfl | ⟨rest, rfl, tail⟩
    · rwa [unchangedAt_nil_iff]
    · rw [unchangedAt_cons_iff found found']
      exact reached rest tail fun equal => shorter (by rw [equal])

/-- Below an unchanged root, what is topmost in a slot is topmost in the tree. -/
theorem topmost_cons_iff (root : source.Unchanged prev next ⟨above, next.segment⟩) :
    source.Topmost prev next above (key :: keys) ↔
      source.Topmost other child (above ++ [⟨next.segment, key⟩]) keys := by
  have reached : source.Reached prev next above (key :: keys) ↔
      source.Reached other child (above ++ [⟨next.segment, key⟩]) keys :=
    reached_cons_iff found found' root
  constructor
  · intro topmost
    have inPrev := topmost.inPrev
    have inNext := topmost.inNext
    rw [RouteTree.place?_cons_of_get? found'] at inPrev
    rw [RouteTree.place?_cons_of_get? found] at inNext
    refine ⟨inPrev, inNext, ?_, reached.1 topmost.unchanged⟩
    rw [← unchangedAt_cons_iff found found']
    exact topmost.changed
  · intro topmost
    have inPrev := topmost.inPrev
    have inNext := topmost.inNext
    rw [← RouteTree.place?_cons_of_get? found'] at inPrev
    rw [← RouteTree.place?_cons_of_get? found] at inNext
    refine ⟨inPrev, inNext, ?_, reached.2 topmost.unchanged⟩
    rw [unchangedAt_cons_iff found found']
    exact topmost.changed

omit found' in
theorem renders_cons (renders : source.Renders mode child (above ++ [⟨next.segment, key⟩]) keys d) :
    source.Renders mode next above (key :: keys) d where
  steps := by
    rw [renders.steps, RouteTree.stepsTo_cons_of_get? found, List.append_assoc]
    rfl
  node := (RouteTree.place?_cons_of_get? found keys).trans renders.node
  own := renders.own
  loads := renders.loads

end Slot

theorem reached_nil (source : ContentSource) (prev next : RouteTree) (above : List Step) :
    source.Reached prev next above [] := by
  intro front isPrefix shorter
  exact absurd (List.prefix_nil.1 isPrefix) shorter

theorem topmost_nil_iff :
    source.Topmost prev next above [] ↔ ¬source.Unchanged prev next ⟨above, next.segment⟩ := by
  rw [← unchangedAt_nil_iff]
  constructor
  · exact Topmost.changed
  · intro changed
    exact ⟨⟨prev, rfl⟩, ⟨next, rfl⟩, changed, reached_nil source prev next above⟩

/-- A place below the root can only be topmost if the root is unchanged and both trees have the slot
that leads to it. -/
theorem Topmost.exists_slot (topmost : source.Topmost prev next above (key :: keys)) :
    source.Unchanged prev next ⟨above, next.segment⟩ ∧
      ∃ child other, next.slots.get? key = some child ∧ prev.slots.get? key = some other := by
  constructor
  · exact unchangedAt_nil_iff.1 (topmost.unchanged [] List.nil_prefix (by simp))
  · obtain ⟨_, place'⟩ := topmost.inPrev
    obtain ⟨_, place⟩ := topmost.inNext
    obtain ⟨child, found, -⟩ := (RouteTree.place?_cons_eq_some_iff ..).1 place
    obtain ⟨other, found', -⟩ := (RouteTree.place?_cons_eq_some_iff ..).1 place'
    exact ⟨child, other, found, found'⟩

theorem Renders.place_eq (renders : source.Renders mode next above keys d) :
    d.place = above.map Step.key ++ keys := by
  rw [DataPath.place, renders.steps, List.map_append, RouteTree.map_key_stepsTo renders.node]

/-! ### What a walk emits -/

namespace Emits

/-- Every data path belongs to a topmost changed place. -/
theorem exists_topmost (emits : Emits source mode next prev above ds) :
    ∀ d ∈ ds, ∃ keys, source.Topmost prev next above keys ∧
      source.Renders mode next above keys d := by
  induction emits with
  | node changed loads =>
    intro d member
    rw [List.mem_singleton] at member
    subst member
    exact ⟨[], topmost_nil_iff.2 changed, ⟨(List.append_nil _).symm, rfl, rfl, loads⟩⟩
  | slots unchanged _ ih =>
    intro d member
    obtain ⟨key, inside, member⟩ := List.mem_flatMap.1 member
    obtain ⟨other, child, found', found⟩ := unchanged.alike.exists_get? inside
    obtain ⟨keys, topmost, renders⟩ := ih key child other found found' d member
    exact ⟨key :: keys, (topmost_cons_iff found found' unchanged).2 topmost,
      renders_cons found renders⟩

/-- Every topmost changed place has its data path. -/
theorem exists_renders (emits : Emits source mode next prev above ds)
    (topmost : source.Topmost prev next above keys) :
    ∃ d ∈ ds, source.Renders mode next above keys d := by
  induction emits generalizing keys with
  | node changed loads =>
    cases keys with
    | nil => exact ⟨_, List.mem_singleton_self _, (List.append_nil _).symm, rfl, rfl, loads⟩
    | cons key keys => exact absurd topmost.exists_slot.1 changed
  | slots unchanged _ ih =>
    cases keys with
    | nil => exact absurd unchanged (topmost_nil_iff.1 topmost)
    | cons key keys =>
      obtain ⟨-, child, other, found, found'⟩ := topmost.exists_slot
      obtain ⟨d, member, renders⟩ :=
        ih key child other found found' ((topmost_cons_iff found found' unchanged).1 topmost)
      have inside := (Dict.mem_keys_iff ..).2 ⟨child, found⟩
      exact ⟨d, List.mem_flatMap.2 ⟨key, inside, member⟩, renders_cons found renders⟩

/-- The data paths follow the order of the next tree's places. -/
theorem sublist_places (emits : Emits source mode next prev above ds) :
    (ds.map DataPath.place).Sublist (next.places.map (above.map Step.key ++ ·)) := by
  induction emits with
  | node changed loads =>
    rw [RouteTree.places_eq]
    simp [DataPath.place]
  | @slots next prev above piece unchanged _ ih =>
    rw [RouteTree.places_eq, List.map_cons, List.map_flatMap, List.map_flatMap]
    apply List.Sublist.cons
    apply List.Sublist.flatMap_right
    intro key inside
    obtain ⟨other, child, found', found⟩ := unchanged.alike.exists_get? inside
    simpa [found, Function.comp_def] using ih key child other found found'

end Emits

/-! ### When a walk succeeds -/

/-- A walk goes through if every topmost changed place can be rendered. -/
theorem exists_changesFrom (loads : ∀ keys node, source.Topmost prev next above keys →
      next.place? keys = some node → ∃ content,
        source.load ⟨above ++ next.stepsTo keys, node.segment⟩ node mode = .ok content) :
    ∃ ds, (source.changesFrom mode next prev above).outcome = .ok ds := by
  induction next using RouteTree.slotInduction generalizing prev above with
  | node next ih =>
    rw [changesFrom_eq]
    simp only [Rendering.bind_outcome_eq_ok_iff, isChanged_eq_ok_iff]
    by_cases unchanged : source.Unchanged prev next ⟨above, next.segment⟩
    · suffices gathered : ∃ ds, (Rendering.gather _ next.slots.keys.attach).outcome = .ok ds by
        obtain ⟨ds, gathered⟩ := gathered
        exact ⟨ds, false, by simp [unchanged], by simpa using gathered⟩
      apply Rendering.exists_gather
      intro key _
      cases found' : prev.slots.get? key.1 with
      | none => exact ⟨[], rfl⟩
      | some other =>
        have found := Dict.get?_value next.slots key.2
        apply ih key.1 _ found
        intro keys node topmost place
        have inside := loads (key.1 :: keys) node
          ((topmost_cons_iff found found' unchanged).2 topmost)
          ((RouteTree.place?_cons_of_get? found keys).trans place)
        rw [RouteTree.stepsTo_cons_of_get? found] at inside
        simpa using inside
    · obtain ⟨content, loaded⟩ := loads [] next (topmost_nil_iff.2 unchanged) rfl
      rw [RouteTree.stepsTo_nil, List.append_nil] at loaded
      have rendered := (renderAt_eq_ok_iff above next _).2 ⟨content, loaded, rfl⟩
      refine ⟨[⟨above, ⟨next.segment, next, content.content, content.head⟩⟩], true,
        by simp [unchanged], ?_⟩
      rw [if_pos rfl, Rendering.bind_outcome_eq_ok_iff]
      exact ⟨_, rendered, rfl⟩

/-- The walk from one tree to the next goes through exactly if every topmost changed place can be
rendered. It then emits one data path for each of these places and none for another, in depth-first
order of the next tree's slots; each brings the whole of what the next tree has at its place, and
goes only into slots that the previous tree has, too. -/
theorem changes_topmost (source : ContentSource) (mode : RenderMode) (prev next : RouteTree) :
    ((∃ paths, (source.changes prev next mode).outcome = .ok paths) ↔
        ∀ keys node, source.Topmost prev next [] keys → next.place? keys = some node →
          ∃ content, source.load ⟨next.stepsTo keys, node.segment⟩ node mode = .ok content) ∧
      ∀ paths, (source.changes prev next mode).outcome = .ok paths →
        (∀ keys, (∃ d ∈ paths, d.place = keys) ↔ source.Topmost prev next [] keys) ∧
          (paths.map DataPath.place).Nodup ∧
          (paths.map DataPath.place).Sublist next.places ∧
          ∀ d ∈ paths, source.Renders mode next [] d.place d ∧
            ∃ old, prev.place? d.place = some old := by
  constructor
  · constructor
    · rintro ⟨paths, walked⟩ keys node topmost place
      obtain ⟨d, -, renders⟩ := (emits_of_changesFrom walked).exists_renders topmost
      have same : d.patch.tree = node := Option.some.inj (renders.node.symm.trans place)
      have loads := renders.loads
      rw [DataPath.path, renders.steps, renders.own, same, List.nil_append] at loads
      exact ⟨_, loads⟩
    · intro loads
      exact exists_changesFrom loads
  · intro paths walked
    have emits : Emits source mode next prev [] paths := emits_of_changesFrom walked
    have ordered : (paths.map DataPath.place).Sublist next.places := by
      simpa using emits.sublist_places
    have belongs (d : DataPath) (member : d ∈ paths) :
        source.Topmost prev next [] d.place ∧ source.Renders mode next [] d.place d := by
      obtain ⟨keys, topmost, renders⟩ := emits.exists_topmost d member
      have place : d.place = keys := renders.place_eq
      rw [place]
      exact ⟨topmost, renders⟩
    refine ⟨?_, ordered.nodup (RouteTree.nodup_places next), ordered, ?_⟩
    · intro keys
      constructor
      · rintro ⟨d, member, rfl⟩
        exact (belongs d member).1
      · intro topmost
        obtain ⟨d, member, renders⟩ := emits.exists_renders topmost
        exact ⟨d, member, renders.place_eq⟩
    · intro d member
      obtain ⟨topmost, renders⟩ := belongs d member
      exact ⟨renders, topmost.inPrev⟩

/-- A node that is marked, one that differs and one that the source asks for, below an unchanged
one: the walk emits these three, and what is unchanged is not topmost. -/
theorem changes_topmost_shop :
    let root (modal shop : RouteTree) : RouteTree :=
      ((RouteTree.leaf (.fixed "")).withSlot "modal" modal).withSlot "children" shop
    let shop (item : String) : RouteTree :=
      ((RouteTree.leaf (.fixed "shop")).withSlot "children"
        (.leaf (.param "id" item .single))).withSlot "cart" (.leaf (.fixed "summary"))
    let marked : RouteTree := { RouteTree.leaf (.fixed "login") with refetch := true }
    let source :=
      ({ Script.echo with content := .withheld, needed := [.fixed "summary"] } : Script).toSource
    let prev := root marked (shop "7")
    let next := root marked (shop "8")
    let emitted := [["modal"], ["children", "children"], ["children", "cart"]]
    ∃ paths, (source.changes prev next .full).outcome = .ok paths ∧
      paths.map DataPath.place = emitted ∧ emitted.Sublist next.places ∧
      (∀ keys, keys ∈ emitted ↔ source.Topmost prev next [] keys) ∧
      ∀ d ∈ paths, source.Renders .full next [] d.place d := by
  intro root shop marked source prev next emitted
  obtain ⟨paths, walked, places⟩ : ∃ paths, (source.changes prev next .full).outcome = .ok paths ∧
      paths.map DataPath.place = emitted := ⟨_, rfl, rfl⟩
  obtain ⟨exact, -, ordered, each⟩ := (changes_topmost source .full prev next).2 paths walked
  refine ⟨paths, walked, places, places ▸ ordered, ?_, fun d member => (each d member).1⟩
  intro keys
  rw [← exact, ← places, List.mem_map]

end RouteSync.ContentSource
