import Mathlib.Data.List.Flatten
import RouteSync.Proofs.Prefixes
import RouteSync.Proofs.Searching

/-!
# Marked nodes

The search for marks does not go on below a marked node, so that it lists the topmost ones. None of
them is below another, every marked node is at or below just one of them, and they come in the order
in which a search for the first one would meet them.
-/

namespace RouteSync

/-- If no two elements are accepted, just one is as soon as one is. -/
private theorem countP_eq_one {α : Type} {accepts : α → Bool} {xs : List α}
    (found : ∃ x ∈ xs, accepts x = true)
    (apart : xs.Pairwise fun x y => ¬(accepts x = true ∧ accepts y = true)) :
    xs.countP accepts = 1 := by
  obtain ⟨x, member, accepted⟩ := found
  obtain ⟨front, back, rfl⟩ := List.append_of_mem member
  obtain ⟨-, tail, across⟩ := List.pairwise_append.1 apart
  have before : front.countP accepts = 0 :=
    List.countP_eq_zero.2 fun y inside both =>
      across y inside x List.mem_cons_self ⟨both, accepted⟩
  have after : back.countP accepts = 0 :=
    List.countP_eq_zero.2 fun y inside both =>
      (List.pairwise_cons.1 tail).1 y inside ⟨accepted, both⟩
  rw [List.countP_append, List.countP_cons_of_pos accepted, before, after]

namespace RouteTree

/-- Marks are listed in the order of the nodes. -/
theorem refetchPathsFrom_sublist (t : RouteTree) (above : List Step) :
    (t.refetchPathsFrom above).Sublist
      (((t.nodesFrom above).filter fun located => located.2.refetch).map Prod.fst) := by
  induction t using slotInduction generalizing above with
  | node t ih =>
    rw [refetchPathsFrom_eq, nodesFrom_eq]
    cases marked : t.refetch with
    | true => simp [marked]
    | false =>
      rw [if_neg Bool.false_ne_true, List.filter_cons_of_neg (by simp [marked]),
        List.filter_flatMap, List.map_flatMap]
      apply List.Sublist.flatMap_right
      intro key inside
      obtain ⟨child, found⟩ := (Dict.mem_keys_iff ..).1 inside
      rw [found, Option.elim_some, Option.elim_some]
      exact ih key child found _

theorem exists_marked_of_mem {t : RouteTree} {above : List Step} {path : SegmentPath}
    (member : path ∈ t.refetchPathsFrom above) :
    ∃ node, (path, node) ∈ t.nodesFrom above ∧ node.refetch = true := by
  have listed := (refetchPathsFrom_sublist t above).subset member
  obtain ⟨⟨_, node⟩, inside, rfl⟩ := List.mem_map.1 listed
  obtain ⟨inside, marked⟩ := List.mem_filter.1 inside
  exact ⟨node, inside, marked⟩

/-- The listed places go on from the place where the search begins. -/
theorem keys_eq_of_mem {t : RouteTree} {above : List Step} {path : SegmentPath}
    (member : path ∈ t.refetchPathsFrom above) :
    ∃ keys, path.keys = above.map Step.key ++ keys := by
  obtain ⟨node, inside, -⟩ := exists_marked_of_mem member
  obtain ⟨keys, -, rfl⟩ := (mem_nodesFrom_iff ..).1 inside
  exact ⟨(t.stepsTo keys).map Step.key, List.map_append⟩

/-- Listed places part at some node: below a marked one nothing is listed. -/
theorem pairwise_refetchPathsFrom (t : RouteTree) (above : List Step) :
    (t.refetchPathsFrom above).Pairwise fun p q => ¬p.keys <+: q.keys ∧ ¬q.keys <+: p.keys := by
  induction t using slotInduction generalizing above with
  | node t ih =>
    rw [refetchPathsFrom_eq]
    cases marked : t.refetch with
    | true => exact List.pairwise_singleton _ _
    | false =>
      rw [if_neg Bool.false_ne_true, List.pairwise_flatMap]
      constructor
      · intro key inside
        obtain ⟨child, found⟩ := (Dict.mem_keys_iff ..).1 inside
        rw [found]
        exact ih key child found _
      · have through (key : String) (path : SegmentPath)
            (member : path ∈ (t.slots.get? key).elim [] fun child =>
              child.refetchPathsFrom (above ++ [⟨t.segment, key⟩])) :
            ∃ back, path.keys = above.map Step.key ++ key :: back := by
          cases found : t.slots.get? key with
          | none => simp [found] at member
          | some child =>
            rw [found] at member
            obtain ⟨keys, continued⟩ := keys_eq_of_mem member
            exact ⟨keys, by simp [continued]⟩
        refine t.slots.nodup.imp ?_
        intro key key' different p member q member'
        obtain ⟨back, first⟩ := through key p member
        obtain ⟨back', second⟩ := through key' q member'
        rw [first, second]
        exact ⟨not_prefix_of_ne different _ _ _, not_prefix_of_ne different.symm _ _ _⟩

/-- The path of a node is on the way to every node below it. -/
theorem leadsTo_stepsTo {t node : RouteTree} {keys : List String}
    (found : t.place? keys = some node) :
    SegmentPath.leadsTo t.segment [] (t.stepsTo keys) node.segment = true := by
  cases keys with
  | nil =>
    cases found
    exact Segment.matchesSegment_refl _
  | cons key keys => exact Segment.matchesSegment_refl _

/-- A marked node is listed, or one above it is. -/
theorem exists_isPrefixOf {t : RouteTree} {above : List Step} {path : SegmentPath}
    {node : RouteTree} (member : (path, node) ∈ t.nodesFrom above) (marked : node.refetch = true) :
    ∃ q ∈ t.refetchPathsFrom above, q.isPrefixOf path = true := by
  induction t using slotInduction generalizing above with
  | node t ih =>
    rw [refetchPathsFrom_eq]
    cases top : t.refetch with
    | true =>
      obtain ⟨keys, found, rfl⟩ := (mem_nodesFrom_iff ..).1 member
      refine ⟨⟨above, t.segment⟩, List.mem_singleton_self _, ?_⟩
      have whole := SegmentPath.leadsTo_append t.segment above [] (t.stepsTo keys) node.segment
      rw [List.append_nil] at whole
      exact whole.trans (leadsTo_stepsTo found)
    | false =>
      rw [nodesFrom_eq, List.mem_cons, List.mem_flatMap] at member
      rcases member with root | ⟨key, inside, member⟩
      · cases root
        rw [top] at marked
        cases marked
      · obtain ⟨child, found⟩ := (Dict.mem_keys_iff ..).1 inside
        rw [found, Option.elim_some] at member
        obtain ⟨q, listed, leads⟩ := ih key child found member
        refine ⟨q, ?_, leads⟩
        rw [if_neg Bool.false_ne_true, List.mem_flatMap]
        exact ⟨key, inside, by rwa [found, Option.elim_some]⟩

/-- The first marked node of all is the first one that is listed. -/
theorem head?_refetchPathsFrom (t : RouteTree) (above : List Step) :
    (t.refetchPathsFrom above).head? =
      ((t.nodesFrom above).find? fun located => located.2.refetch).map Prod.fst := by
  induction t using slotInduction generalizing above with
  | node t ih =>
    rw [refetchPathsFrom_eq, nodesFrom_eq]
    cases marked : t.refetch with
    | true => simp [marked]
    | false =>
      rw [if_neg Bool.false_ne_true, List.find?_cons_of_neg (by simp [marked]),
        List.head?_flatMap, List.find?_flatMap, List.map_findSome?]
      congr
      funext key
      rw [Function.comp_apply]
      cases found : t.slots.get? key with
      | none => rfl
      | some child => exact ih key child found _

/-- A search by a test without a state finds the first node that the test accepts. -/
theorem find_of_stateless (t : RouteTree) {σ : Type} (accepts : RouteTree → Bool) (state : σ) :
    t.find (fun node state => (accepts node, state)) state =
      ((t.nodes.find? fun located => accepts located.2).map Prod.fst, state) := by
  rw [find_eq]
  induction t.nodes with
  | nil => rfl
  | cons first rest ih =>
    rw [firstFound, visit, List.find?_cons]
    cases accepts first.2 with
    | true => rfl
    | false => exact ih

/-- The search for marks lists the paths of the topmost marked nodes: each leads to a marked node, none
is a prefix of another one, and each marked node has just one of them on its own way. They come in
depth-first order of slots, and the first of them is what a search for a marked node finds. -/
theorem refetchPaths_topmost (t : RouteTree) :
    (∀ path ∈ t.refetchPaths, ∃ node, t.nodeAt? path = some node ∧ node.refetch = true) ∧
      (∀ (i j : Nat) (first : i < t.refetchPaths.length) (second : j < t.refetchPaths.length),
        i ≠ j → t.refetchPaths[i].isPrefixOf t.refetchPaths[j] = false) ∧
      (∀ path node, (path, node) ∈ t.nodes → node.refetch = true →
        t.refetchPaths.countP (fun q => q.isPrefixOf path) = 1) ∧
      t.refetchPaths.Sublist (t.nodes.map Prod.fst) ∧
      ∀ (σ : Type) (state : σ),
        t.find (fun node state => (node.refetch, state)) state = (t.refetchPaths.head?, state) := by
  have apart := pairwise_refetchPathsFrom t []
  refine ⟨?_, ?_, ?_, ?_, ?_⟩
  · intro path member
    obtain ⟨node, inside, marked⟩ := exists_marked_of_mem member
    exact ⟨node, nodeAt?_of_mem_nodes inside, marked⟩
  · intro i j first second different
    rw [Bool.eq_false_iff]
    intro leads
    have below := SegmentPath.keys_prefix_of_isPrefixOf leads
    rcases Nat.lt_or_gt_of_ne different with before | after
    · exact (List.pairwise_iff_getElem.1 apart i j first second before).1 below
    · exact (List.pairwise_iff_getElem.1 apart j i second first after).2 below
  · intro path node member marked
    apply countP_eq_one (exists_isPrefixOf member marked)
    apply apart.imp
    -- Two paths on the way of one node are on one way.
    intro p q separate both
    rcases List.prefix_or_prefix_of_prefix (SegmentPath.keys_prefix_of_isPrefixOf both.1)
      (SegmentPath.keys_prefix_of_isPrefixOf both.2) with below | below
    · exact separate.1 below
    · exact separate.2 below
  · exact (refetchPathsFrom_sublist t []).trans (List.filter_sublist.map _)
  · intro σ state
    rw [find_of_stateless, refetchPaths, head?_refetchPathsFrom]
    rfl

/-- A mark below a mark, and one in another slot at a node of the same segment: two paths are listed,
and the node that is not listed has the first of them on its way. -/
theorem refetchPaths_topmost_feed :
    let marked (t : RouteTree) : RouteTree := { t with refetch := true }
    let item := marked (.leaf .page)
    let feed := marked ((RouteTree.leaf (.fixed "a")).withSlot "children" item)
    let t := ((RouteTree.leaf (.fixed "a")).withSlot "children" feed).withSlot "modal"
      (marked (.leaf (.fixed "a")))
    let first : SegmentPath := ⟨[⟨.fixed "a", "children"⟩], .fixed "a"⟩
    let second : SegmentPath := ⟨[⟨.fixed "a", "modal"⟩], .fixed "a"⟩
    let below : SegmentPath := ⟨[⟨.fixed "a", "children"⟩, ⟨.fixed "a", "children"⟩], .page⟩
    t.refetchPaths = [first, second] ∧
      (∃ node, t.nodeAt? second = some node ∧ node.refetch = true) ∧
      0 ≠ 1 ∧ first.isPrefixOf second = false ∧
      (below, item) ∈ t.nodes ∧ item.refetch = true ∧
      t.refetchPaths.countP (fun q => q.isPrefixOf below) = 1 ∧
      t.find (fun node state => (node.refetch, state)) () = (some first, ()) := by
  intro marked item feed t first second below
  have listed : t.refetchPaths = [first, second] := by decide +kernel
  have inside : (below, item) ∈ t.nodes :=
    (mem_nodesFrom_iff ..).2 ⟨["children", "children"], rfl, by decide +kernel⟩
  obtain ⟨marks, separate, once, -, found⟩ := refetchPaths_topmost t
  have leads := marks second (by simp [listed])
  have apart := separate 0 1 (by simp [listed]) (by simp [listed]) (by decide)
  have searched := found Unit ()
  simp only [listed, List.getElem_cons_zero, List.getElem_cons_succ] at apart
  rw [listed] at searched
  exact ⟨listed, leads, by decide, apart, inside, rfl, once below item inside rfl, searched⟩

end RouteTree

end RouteSync
