import RouteSync.Proofs.SlotOrder
import RouteSync.Proofs.Topmost

/-!
# Changes where nothing has changed

A walk of two trees emits nothing exactly if the trees are the same and neither a mark nor the
source asks for a node to be rendered. If the trees are the same and the source asks for nothing,
only marks are left, and the walk emits the topmost marked nodes, which the tree itself lists.
-/

namespace RouteSync.ContentSource

variable {source : ContentSource} {mode : RenderMode} {next prev : RouteTree} {above : List Step}
  {ds : List DataPath}

/-- The source asks for no node of the tree, to whose root the steps lead. -/
def AsksNothing (source : ContentSource) (t : RouteTree) (above : List Step) : Prop :=
  ∀ keys node, t.place? keys = some node →
    source.needsRender ⟨above ++ t.stepsTo keys, node.segment⟩ node = false

theorem AsksNothing.child {key : String} {child : RouteTree}
    (quiet : source.AsksNothing next above) (found : next.slots.get? key = some child) :
    source.AsksNothing child (above ++ [⟨next.segment, key⟩]) := by
  intro keys node place
  have unasked := quiet (key :: keys) node ((RouteTree.place?_cons_of_get? found keys).trans place)
  rw [RouteTree.stepsTo_cons_of_get? found] at unasked
  simpa using unasked

/-- In trees that are the same, what must be rendered although the source does not ask for it is
marked. -/
theorem Topmost.marked {keys : List String} {node : RouteTree}
    (topmost : source.Topmost prev next above keys) (same : prev.same next = true)
    (quiet : source.AsksNothing next above) (found : next.place? keys = some node) :
    node.refetch = true := by
  obtain ⟨old, place, alike⟩ := RouteTree.exists_place?_of_same same found
  cases mark : node.refetch with
  | true => rfl
  | false =>
    exact absurd ⟨old, node, place, found, alike, mark, quiet keys node found⟩ topmost.changed

namespace Emits

/-- What a walk leaves alone is unchanged. -/
theorem unchangedAt (emits : Emits source mode next prev above ds) {keys : List String}
    {node : RouteTree} (outside : ∀ d ∈ ds, ¬d.place <+: above.map Step.key ++ keys)
    (found : next.place? keys = some node) : source.UnchangedAt prev next above keys := by
  induction emits generalizing keys with
  | node changed loads =>
    exact absurd (List.prefix_append _ keys) (outside _ (List.mem_singleton_self _))
  | @slots next prev above piece unchanged children ih =>
    cases keys with
    | nil => exact unchangedAt_nil_iff.2 unchanged
    | cons key keys =>
      obtain ⟨child, inside, found⟩ := (RouteTree.place?_cons_eq_some_iff ..).1 found
      have member := (Dict.mem_keys_iff ..).2 ⟨child, inside⟩
      obtain ⟨other, _, inside', -⟩ := unchanged.alike.exists_get? member
      rw [unchangedAt_cons_iff inside inside']
      apply ih key child other inside inside' _ found
      intro d emitted
      simpa using outside d (List.mem_flatMap.2 ⟨key, member, emitted⟩)

/-- From a tree to the same one, if the source asks for nothing, a walk emits the topmost marked
nodes: it goes on below a node exactly if the search for marks does. -/
theorem map_path_eq (emits : Emits source mode next prev above ds) (same : prev.same next = true)
    (quiet : source.AsksNothing next above) :
    ds.map DataPath.path = next.refetchPathsFrom above := by
  induction emits with
  | @node next prev above content changed loads =>
    have marked := (topmost_nil_iff.2 changed).marked same quiet rfl
    rw [RouteTree.refetchPathsFrom_eq, if_pos marked]
    rfl
  | @slots next prev above piece unchanged children ih =>
    obtain ⟨alike, below⟩ := (RouteTree.same_iff prev next).1 same
    rw [RouteTree.refetchPathsFrom_eq, if_neg (by simp [unchanged.unmarked]), List.map_flatMap]
    apply List.flatMap_congr
    intro key inside
    obtain ⟨other, child, found', found⟩ := alike.exists_get? inside
    rw [found, Option.elim_some]
    exact ih key child other found found' (below key other child found' found) (quiet.child found)

end Emits

/-- There are no changes from one tree to another exactly if the trees are the same, no node is marked
and the source asks for none. -/
theorem changes_eq_nil_iff (prev next : RouteTree) :
    (source.changes prev next mode).outcome = .ok [] ↔
      prev.same next = true ∧ (∀ keys node, next.place? keys = some node → node.refetch = false) ∧
        source.AsksNothing next [] := by
  constructor
  · intro walked
    have emits : Emits source mode next prev [] [] := emits_of_changesFrom walked
    have unchanged (keys : List String) (node : RouteTree) (found : next.place? keys = some node) :
        ∃ old, source.Unchanged old node ⟨next.stepsTo keys, node.segment⟩ := by
      obtain ⟨old, _, _, found', unchanged⟩ := emits.unchangedAt (by simp) found
      cases found.symm.trans found'
      exact ⟨old, unchanged⟩
    refine ⟨(RouteTree.same_iff_places prev next).2 fun keys => emits.rel_place? (by simp), ?_, ?_⟩
    · intro keys node found
      obtain ⟨_, unchanged⟩ := unchanged keys node found
      exact unchanged.unmarked
    · intro keys node found
      obtain ⟨_, unchanged⟩ := unchanged keys node found
      exact unchanged.unasked
  · rintro ⟨same, unmarked, quiet⟩
    have calm (keys : List String) : ¬source.Topmost prev next [] keys := by
      intro topmost
      obtain ⟨node, found⟩ := topmost.inNext
      have marked := topmost.marked same quiet found
      exact Bool.noConfusion (marked.symm.trans (unmarked keys node found))
    obtain ⟨paths, walked⟩ : ∃ paths, (source.changes prev next mode).outcome = .ok paths :=
      exists_changesFrom fun keys _ topmost _ => absurd topmost (calm keys)
    have none : paths = [] := by
      apply List.eq_nil_iff_forall_not_mem.2
      intro d member
      obtain ⟨keys, topmost, -⟩ := (emits_of_changesFrom walked).exists_topmost d member
      exact calm keys topmost
    rwa [none] at walked

/-- The changes from one tree to another are none exactly if the trees are the same, no node is
marked and the source asks for none. If the trees are the same and the source asks for nothing, and
can render what is marked, the changes are the topmost marked nodes, in the order in which the next
tree lists them. -/
theorem changes_refetch (source : ContentSource) (mode : RenderMode) (prev next : RouteTree) :
    ((source.changes prev next mode).outcome = .ok [] ↔
        prev.same next = true ∧
          (∀ keys node, next.place? keys = some node → node.refetch = false) ∧
          ∀ keys node, next.place? keys = some node →
            source.needsRender ⟨next.stepsTo keys, node.segment⟩ node = false) ∧
      (prev.same next = true →
        (∀ keys node, next.place? keys = some node →
          source.needsRender ⟨next.stepsTo keys, node.segment⟩ node = false) →
        (∀ keys node, next.place? keys = some node → node.refetch = true → ∃ content,
          source.load ⟨next.stepsTo keys, node.segment⟩ node mode = .ok content) →
        ∃ paths, (source.changes prev next mode).outcome = .ok paths ∧
          paths.map DataPath.path = next.refetchPaths) := by
  refine ⟨changes_eq_nil_iff prev next, ?_⟩
  intro same quiet loads
  obtain ⟨paths, walked⟩ : ∃ paths, (source.changes prev next mode).outcome = .ok paths := by
    apply exists_changesFrom
    intro keys node topmost found
    exact loads keys node found (topmost.marked same quiet found)
  exact ⟨paths, walked, (emits_of_changesFrom walked).map_path_eq same quiet⟩

/-- Two marked nodes, one of them with another below it, and the slots of the previous tree in another
order: the two are rendered, the third is not listed. -/
theorem changes_refetch_marked :
    let marked (t : RouteTree) : RouteTree := { t with refetch := true }
    let cart := marked ((RouteTree.leaf (.fixed "cart")).withSlot "item" (marked (.leaf .page)))
    let login := marked (.leaf (.fixed "login"))
    let shop := (RouteTree.leaf (.fixed "shop")).withSlot "cart" cart
    let prev := ((RouteTree.leaf (.fixed "")).withSlot "modal" login).withSlot "children" shop
    let next := ((RouteTree.leaf (.fixed "")).withSlot "children" shop).withSlot "modal" login
    let source := Script.echo.toSource
    ∃ paths, prev.same next = true ∧ (source.changes prev next .full).outcome = .ok paths ∧
      paths.map DataPath.path = next.refetchPaths ∧
      next.refetchPaths =
        [⟨[⟨.fixed "", "children"⟩, ⟨.fixed "shop", "cart"⟩], .fixed "cart"⟩,
          ⟨[⟨.fixed "", "modal"⟩], .fixed "login"⟩] ∧
      (source.changes prev next .full).outcome ≠ .ok [] := by
  intro marked cart login shop prev next source
  have same : prev.same next = true := by decide +kernel
  obtain ⟨paths, walked, listed⟩ := (changes_refetch source .full prev next).2 same
    (fun _ _ _ => rfl) (fun _ _ _ _ => ⟨_, rfl⟩)
  have found : next.refetchPaths =
      [⟨[⟨.fixed "", "children"⟩, ⟨.fixed "shop", "cart"⟩], .fixed "cart"⟩,
        ⟨[⟨.fixed "", "modal"⟩], .fixed "login"⟩] := by decide +kernel
  refine ⟨paths, same, walked, listed, found, ?_⟩
  intro none
  cases none.symm.trans walked
  rw [found] at listed
  cases listed

end RouteSync.ContentSource
