import Mathlib.Algebra.GroupWithZero.Nat
import RouteSync.Proofs.Bounds
import RouteSync.Proofs.Changes

/-!
# What the order of slots cannot show

Every walk through a tree takes its slots in order. For trees that are the same but for that order,
what a walk measures, finds, checks, replaces and emits is nevertheless the same: only where a walk
lists what it meets slot by slot does the list come in another order.
-/

namespace RouteSync

namespace RouteTree

variable {t u : RouteTree}

/-- Two trees that are the same are taken apart together: what holds of alike nodes when it holds of
the trees that they have in each slot holds of the whole trees. -/
theorem sameInduction {P : RouteTree → RouteTree → Prop}
    (node : ∀ t u : RouteTree, t.Alike u →
      (∀ key child other, t.slots.get? key = some child → u.slots.get? key = some other →
        P child other) → P t u)
    (same : t.same u = true) : P t u := by
  induction t using slotInduction generalizing u with
  | node t ih =>
    obtain ⟨alike, children⟩ := (same_iff t u).1 same
    apply node t u alike
    intro key child other found found'
    exact ih key child found (children key child other found found')

/-! ### What is measured and checked -/

/-- A place of one tree is a place of the other, with an alike node. -/
theorem exists_place?_of_same (same : t.same u = true) {keys : List String} {node : RouteTree}
    (found : u.place? keys = some node) :
    ∃ other, t.place? keys = some other ∧ other.Alike node := by
  have related := (same_iff_places t u).1 same keys
  rw [found] at related
  generalize t.place? keys = place at related ⊢
  cases related with
  | some alike => exact ⟨_, rfl, alike⟩

theorem depth_le_of_same (same : t.same u = true) : u.depth ≤ t.depth := by
  rw [depth_le_iff_places]
  intro keys node found
  obtain ⟨other, place, -⟩ := exists_place?_of_same same found
  exact (depth_le_iff_places t _).1 (Nat.le_refl _) keys other place

theorem depth_eq_of_same (same : t.same u = true) : t.depth = u.depth :=
  Nat.le_antisymm (depth_le_of_same (same_symm same)) (depth_le_of_same same)

theorem nodeCount_eq_of_same (same : t.same u = true) : t.nodeCount = u.nodeCount := by
  refine sameInduction (P := fun t u => t.nodeCount = u.nodeCount) ?_ same
  intro t u alike ih
  rw [nodeCount_eq, nodeCount_eq]
  have counts : (t.slots.keys.map fun key => (t.slots.get? key).elim 0 nodeCount) =
      t.slots.keys.map fun key => (u.slots.get? key).elim 0 nodeCount := by
    apply List.map_congr_left
    intro key _
    rcases alike.get?_cases key with ⟨missing, missing'⟩ | ⟨child, other, found, found'⟩
    · rw [missing, missing']
    · rw [found, found']
      exact ih key child other found found'
  rw [counts, (alike.keys_perm.map _).sum_nat]

theorem checkWithin_ok_of_same {limits : Limits} (same : t.same u = true)
    (passes : t.checkWithin limits = .ok ()) : u.checkWithin limits = .ok () := by
  rw [checkWithin_eq_ok_iff] at passes ⊢
  refine ⟨depth_eq_of_same same ▸ passes.1, ?_⟩
  intro keys node found
  obtain ⟨other, place, alike⟩ := exists_place?_of_same same found
  exact alike.allows (passes.2 keys other place)

/-! ### What is found -/

theorem checkSteps_eq_of_same (same : t.same u = true) (depth : Nat) (steps : List Step) :
    t.checkSteps depth steps = u.checkSteps depth steps := by
  induction steps generalizing t u depth with
  | nil => rfl
  | cons step steps ih =>
    obtain ⟨alike, children⟩ := (same_iff t u).1 same
    rw [checkSteps, checkSteps, alike.segment]
    rcases alike.get?_cases step.key with ⟨missing, missing'⟩ | ⟨child, other, found, found'⟩
    · rw [missing, missing']
    · simp only [found, found', ih (children step.key child other found found')]

/-- The same steps lead to the same trees. -/
theorem rel_descend?_of_same (same : t.same u = true) (steps : List Step) :
    Option.Rel (fun a b => a.same b = true) (t.descend? steps) (u.descend? steps) := by
  induction steps generalizing t u with
  | nil => exact .some same
  | cons step steps ih =>
    obtain ⟨alike, children⟩ := (same_iff t u).1 same
    rw [descend?, descend?, alike.segment]
    split
    · rcases alike.get?_cases step.key with ⟨missing, missing'⟩ | ⟨child, other, found, found'⟩
      · rw [missing, missing']
        exact .none
      · rw [found, found']
        exact ih (children step.key child other found found')
    · exact .none

theorem rel_nodeAt?_of_same (same : t.same u = true) (path : SegmentPath) :
    Option.Rel (fun a b => a.same b = true) (t.nodeAt? path) (u.nodeAt? path) := by
  have reached := rel_descend?_of_same same path.steps
  rw [nodeAt?, nodeAt?]
  generalize t.descend? path.steps = node at reached ⊢
  generalize u.descend? path.steps = other at reached ⊢
  cases reached with
  | none => exact .none
  | some equal =>
    simp only [((same_iff ..).1 equal).1.segment]
    split
    · exact .some equal
    · exact .none

/-- Marked nodes are met in the order of slots, and each is met in both trees. -/
theorem refetchPathsFrom_perm (same : t.same u = true) (steps : List Step) :
    (t.refetchPathsFrom steps).Perm (u.refetchPathsFrom steps) := by
  refine sameInduction (P := fun t u =>
    ∀ steps, (t.refetchPathsFrom steps).Perm (u.refetchPathsFrom steps)) ?_ same steps
  intro t u alike ih steps
  rw [refetchPathsFrom_eq, refetchPathsFrom_eq, alike.refetch, alike.segment]
  split
  · rfl
  · -- Below each slot the lists are permuted by induction; the slots permute these lists.
    apply alike.keys_perm.flatMap
    intro key _
    rcases alike.get?_cases key with ⟨missing, missing'⟩ | ⟨child, other, found, found'⟩
    · rw [missing, missing']
    · rw [found, found']
      exact ih key child other found found' _

/-! ### What is replaced -/

theorem same_withSlot {key : String} {child other : RouteTree} (alike : t.same u = true)
    (equal : child.same other = true) :
    (t.withSlot key child).same (u.withSlot key other) = true := by
  obtain ⟨alike, children⟩ := (same_iff t u).1 alike
  rw [same_iff]
  refine ⟨⟨alike.segment, alike.url, alike.refetch, alike.rootLayout, ?_⟩, ?_⟩
  · intro name
    simp only [withSlot, Dict.mem_keys_insert_iff, alike.keys]
  · intro name a b found found'
    by_cases here : name = key
    · subst here
      rw [get?_withSlot_self] at found found'
      cases found
      cases found'
      exact equal
    · rw [get?_withSlot_of_ne _ _ here] at found found'
      exact children name a b found found'

theorem same_put (same : t.same u = true) (keys : List String) (new : RouteTree) :
    (t.put keys new).same (u.put keys new) = true := by
  induction keys generalizing t u with
  | nil =>
    rw [put_nil, put_nil]
    exact same_refl new
  | cons key keys ih =>
    obtain ⟨alike, children⟩ := (same_iff t u).1 same
    rcases alike.get?_cases key with ⟨missing, missing'⟩ | ⟨child, other, found, found'⟩
    · rwa [put_cons_of_missing missing, put_cons_of_missing missing']
    · rw [put_cons_of_get? found, put_cons_of_get? found']
      exact same_withSlot same (ih (children key child other found found'))

end RouteTree

/-- Patching the same trees gives the same trees or fails alike. -/
theorem DataPath.applyTo_of_same {t u : RouteTree} (same : t.same u = true) (d : DataPath) :
    (∃ a b, d.applyTo t = .ok a ∧ d.applyTo u = .ok b ∧ a.same b = true) ∨
      ∃ fault, d.applyTo t = .error fault ∧ d.applyTo u = .error fault := by
  rw [applyTo_eq, applyTo_eq, RouteTree.checkSteps_eq_of_same same]
  cases u.checkSteps 0 d.steps with
  | error fault => exact .inr ⟨fault, rfl, rfl⟩
  | ok => exact .inl ⟨_, _, rfl, rfl, RouteTree.same_put same d.place d.patch.tree⟩

theorem Rendering.gather_congr {α β : Type} {f g : α → Rendering (List β)} {xs : List α}
    (equal : ∀ x ∈ xs, f x = g x) : Rendering.gather f xs = Rendering.gather g xs := by
  induction xs with
  | nil => rfl
  | cons x rest ih =>
    obtain ⟨first, others⟩ := List.forall_mem_cons.1 equal
    rw [Rendering.gather, Rendering.gather, first, ih others]

namespace ContentSource

variable {source : ContentSource} {t u : RouteTree}

theorem isChanged_eq_of_alike (alike : t.Alike u) (next : RouteTree) (path : SegmentPath) :
    source.isChanged t next path = source.isChanged u next path := by
  have shape : t.sameShape next = u.sameShape next := by
    rw [Bool.eq_iff_iff, RouteTree.sameShape_iff, RouteTree.sameShape_iff]
    exact ⟨alike.symm.trans, alike.trans⟩
  rw [isChanged, isChanged, shape]

/-- A walk goes along the slots of the next tree and only looks slots of the previous one up, so it
makes the same calls and comes to the same end from trees that are the same. -/
theorem changesFrom_eq_of_same (same : t.same u = true) (next : RouteTree) (mode : RenderMode)
    (steps : List Step) :
    source.changesFrom mode next t steps = source.changesFrom mode next u steps := by
  induction next using RouteTree.induction generalizing t u steps with
  | node next ih =>
    obtain ⟨alike, children⟩ := (RouteTree.same_iff t u).1 same
    rw [changesFrom_eq, changesFrom_eq, isChanged_eq_of_alike alike]
    congr
    funext changed
    cases changed with
    | true => rfl
    | false =>
      apply Rendering.gather_congr
      intro key _
      rcases alike.get?_cases key.1 with ⟨missing, missing'⟩ | ⟨child, other, found, found'⟩
      · simp only [missing, missing']
      · simp only [found, found']
        exact ih key.1 key.2 (children key.1 child other found found') _

end ContentSource

namespace RouteTree

/-- The operations on trees agree about two trees: what they find and make is the same up to the
order of slots, and all else is equal but for the order in which marked nodes are listed. -/
structure Indistinguishable (t u : RouteTree) : Prop where
  depth : t.depth = u.depth
  nodeCount : t.nodeCount = u.nodeCount
  checkWithin : ∀ limits, t.checkWithin limits = .ok () ↔ u.checkWithin limits = .ok ()
  nodeAt? : ∀ path, Option.Rel (fun a b => a.same b = true) (t.nodeAt? path) (u.nodeAt? path)
  applyTo : ∀ d : DataPath,
    (∃ a b, d.applyTo t = .ok a ∧ d.applyTo u = .ok b ∧ a.same b = true) ∨
      ∃ fault, d.applyTo t = .error fault ∧ d.applyTo u = .error fault
  changes : ∀ (source : ContentSource) next mode,
    source.changes t next mode = source.changes u next mode
  refetchPaths : t.refetchPaths.Perm u.refetchPaths

/-- Trees that differ in the order of slots alone, at whatever nodes, cannot be told apart. -/
theorem indistinguishable_of_same {t u : RouteTree} (same : t.same u = true) :
    t.Indistinguishable u where
  depth := depth_eq_of_same same
  nodeCount := nodeCount_eq_of_same same
  checkWithin := fun _ =>
    ⟨checkWithin_ok_of_same same, checkWithin_ok_of_same (same_symm same)⟩
  nodeAt? := rel_nodeAt?_of_same same
  applyTo := DataPath.applyTo_of_same same
  changes := fun _ next mode => ContentSource.changesFrom_eq_of_same same next mode []
  refetchPaths := refetchPathsFrom_perm same []

/-- The slots in another order at the root and below it: the two marked nodes are listed in another
order, too. -/
theorem indistinguishable_reordered :
    let marked (name : String) : RouteTree :=
      { RouteTree.leaf (.fixed name) with refetch := true }
    let shop : RouteTree :=
      ((RouteTree.leaf (.fixed "shop")).withSlot "children" (.leaf .page)).withSlot "cart" (marked "cart")
    let shop' : RouteTree :=
      ((RouteTree.leaf (.fixed "shop")).withSlot "cart" (marked "cart")).withSlot "children" (.leaf .page)
    let t := ((RouteTree.leaf (.fixed "")).withSlot "modal" (marked "login")).withSlot "children" shop
    let u :=
      ((RouteTree.leaf (.fixed "")).withSlot "children" shop').withSlot "modal" (marked "login")
    t.same u = true ∧ t.refetchPaths ≠ u.refetchPaths ∧ t.Indistinguishable u :=
  ⟨by decide +kernel, by decide +kernel, indistinguishable_of_same (by decide +kernel)⟩

end RouteTree

end RouteSync
