import Mathlib.Data.List.Forall2
import RouteSync.Proofs.Changes
import RouteSync.Render.Scripted

/-!
# Reaching the next tree

The data paths that a walk emits can be applied to every tree that is the same as the previous one,
whatever the order of its slots, and the result is the same as the next tree.
-/

namespace RouteSync.ContentSource

namespace Emits

variable {source : ContentSource} {mode : RenderMode} {next prev c : RouteTree}
  {ds : List DataPath}

theorem brings (emits : Emits source mode next prev [] ds) {d : DataPath} (member : d ∈ ds) :
    Brings source mode next prev d.steps d := by
  obtain ⟨more, continued, brings⟩ := emits.exists_brings d member
  rw [List.nil_append] at continued
  rwa [continued]

theorem place?_next (emits : Emits source mode next prev [] ds) {d : DataPath} (member : d ∈ ds) :
    next.Follows d.steps ∧ next.place? d.place = some d.patch.tree :=
  (RouteTree.descend?_eq_some_iff ..).1 (emits.brings member).node

theorem follows (emits : Emits source mode next prev [] ds) (same : c.same prev = true) :
    ∀ d ∈ ds, c.Follows d.steps :=
  fun _ member => .of_same (RouteTree.same_symm same) (emits.brings member).follows

/-- What a walk emits can be applied to the tree from which it leads. -/
theorem applyAll_eq_ok (emits : Emits source mode next prev [] ds) (same : c.same prev = true) :
    DataPath.applyAll ds c = .ok (DataPath.putAll ds c) :=
  DataPath.applyAll_of_separate emits.pairwise_separate (emits.follows same)

/-- The result is the same as the next tree: at and below the places of data paths it has the nodes
of the next tree, and elsewhere nodes that are alike in both trees. -/
theorem same_putAll (emits : Emits source mode next prev [] ds) (same : c.same prev = true) :
    (DataPath.putAll ds c).same next = true := by
  rw [RouteTree.same_iff_places]
  intro keys
  by_cases inside : ∃ d ∈ ds, d.place <+: keys
  · obtain ⟨d, member, more, rfl⟩ := inside
    rw [DataPath.place?_putAll_append emits.pairwise_separate (emits.follows same) member,
      RouteTree.place?_append_of_eq_some (emits.place?_next member).2]
    exact RouteTree.Alike.rel_refl (d.patch.tree.place? more)
  · have outside : ∀ d ∈ ds, ¬d.place <+: keys := fun d member below => inside ⟨d, member, below⟩
    have patched := (DataPath.place?_putAll_of_not_below c outside)
    have before := (RouteTree.same_iff_places c prev).1 same keys
    have kept := emits.rel_place? outside
    exact RouteTree.Alike.rel_trans (RouteTree.AlikeInOrder.rel_alike patched)
      (RouteTree.Alike.rel_trans before kept)

end Emits

/-- Applying the changes from one tree to the next leads to the next tree from every tree that is
the same as the first one. Outside of the data paths all keeps its order; each data path brings what
the source renders for its node, which is found at the path; and applying the changes again changes
nothing. -/
theorem applyTo_changes {source : ContentSource} {mode : RenderMode} {prev next c : RouteTree}
    {paths : List DataPath} (same : c.same prev = true)
    (walked : (source.changes prev next mode).outcome = .ok paths) :
    ∃ t contents,
      (FlightData.paths paths).applyTo c = .ok (.patched t contents) ∧
        t.same next = true ∧
        (∀ keys, (∀ d ∈ paths, ¬d.place <+: keys) →
          Option.Rel RouteTree.AlikeInOrder (t.place? keys) (c.place? keys)) ∧
        List.Forall₂ (fun d content => content.path = d.path ∧
          next.nodeAt? d.path = some d.patch.tree ∧
          source.load d.path d.patch.tree mode = .ok ⟨content.content, content.head⟩ ∧
          t.nodeAt? content.path = some d.patch.tree) paths contents ∧
        (FlightData.paths paths).applyTo t = .ok (.patched t contents) := by
  have emits : Emits source mode next prev [] paths := emits_of_changesFrom walked
  have reached := emits.same_putAll same
  have there (d : DataPath) (member : d ∈ paths) :
      (DataPath.putAll paths c).place? d.place = some d.patch.tree :=
    DataPath.place?_putAll_self emits.pairwise_separate (emits.follows same) member
  have follows (d : DataPath) (member : d ∈ paths) :
      (DataPath.putAll paths c).Follows d.steps :=
    .of_same (RouteTree.same_symm reached) (emits.place?_next member).1
  have again : DataPath.applyAll paths (DataPath.putAll paths c) =
      .ok (DataPath.putAll paths c) := by
    rw [DataPath.applyAll_of_separate emits.pairwise_separate follows,
      DataPath.putAll_eq_self there]
  refine ⟨DataPath.putAll paths c, paths.map DataPath.placedContent, ?_, reached,
    fun keys outside => DataPath.place?_putAll_of_not_below c outside, ?_, ?_⟩
  · exact (FlightData.applyTo_paths_eq_ok_iff ..).2 ⟨_, emits.applyAll_eq_ok same, rfl⟩
  · rw [List.forall₂_map_right_iff, List.forall₂_same]
    intro d member
    have brings := emits.brings member
    have target : d.patch.tree.segment.matchesSegment d.path.target = true := by
      rw [DataPath.path, brings.own]
      exact Segment.matchesSegment_refl _
    have found := emits.place?_next member
    exact ⟨rfl, (RouteTree.nodeAt?_eq_some_iff ..).2 ⟨found.1, found.2, target⟩, brings.loads,
      (RouteTree.nodeAt?_eq_some_iff ..).2 ⟨follows d member, there d member, target⟩⟩
  · exact (FlightData.applyTo_paths_eq_ok_iff ..).2 ⟨_, again, rfl⟩

/-- One slot of two is rendered, at a client whose slots have the other order. -/
theorem applyTo_changes_reordered :
    let root (child : RouteTree) : RouteTree :=
      ((RouteTree.leaf (.fixed "")).withSlot "children" child).withSlot "modal" (.leaf .page)
    let item (value : String) : RouteTree := .leaf (.param "id" value .single)
    let prev := root (item "7")
    let next := root (item "8")
    let c := ((RouteTree.leaf (.fixed "")).withSlot "modal" (.leaf .page)).withSlot "children"
      (item "7")
    let source := ({ Script.echo with content := .withheld } : Script).toSource
    let paths : List DataPath := [⟨[⟨.fixed "", "children"⟩], .ofTree (item "8")⟩]
    c.same prev = true ∧ (source.changes prev next .full).outcome = .ok paths ∧
      ∃ t contents, (FlightData.paths paths).applyTo c = .ok (.patched t contents) ∧
        t.same next = true ∧
        (FlightData.paths paths).applyTo t = .ok (.patched t contents) := by
  intro root item prev next c source paths
  have same : c.same prev = true := by decide
  have walked : (source.changes prev next .full).outcome = .ok paths := rfl
  obtain ⟨t, contents, applied, reached, -, -, again⟩ := applyTo_changes same walked
  exact ⟨same, walked, t, contents, applied, reached, again⟩

end RouteSync.ContentSource
