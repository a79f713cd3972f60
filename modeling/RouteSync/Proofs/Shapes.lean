import RouteSync.Proofs.Sameness

/-!
# Comparing trees one level at a time

The walk over two trees compares one node of each at a time, by their shapes, and goes on only where
the two have the same slots. That is enough to notice every difference: having the same shape is an
equivalence, trees are the same when their roots have the same shape and their slots hold the same
trees, and trees that differ have nodes of different shape at a place that both have.
-/

namespace RouteSync.RouteTree

/-- Nodes of the same shape have the same keys on both sides, although the test goes through those
of one side only. -/
theorem sameShape_equivalence : Equivalence fun t u : RouteTree => t.sameShape u = true := by
  simp only [sameShape_iff]
  exact ⟨Alike.refl, Alike.symm, Alike.trans⟩

/-- Trees are the same when their roots have the same shape and each slot of one is a slot of the
other that holds the same tree. -/
theorem same_iff_slots (t u : RouteTree) :
    t.same u = true ↔ t.sameShape u = true ∧ ∀ key ∈ t.slots.keys, ∃ child other,
      t.slots.get? key = some child ∧ u.slots.get? key = some other ∧ child.same other = true := by
  rw [same_iff, sameShape_iff]
  apply and_congr_right
  intro alike
  constructor
  · intro children key inside
    obtain ⟨child, other, found, found'⟩ := alike.exists_get? ((alike.keys key).1 inside)
    exact ⟨child, other, found, found', children key child other found found'⟩
  · intro children key child other found found'
    obtain ⟨_, _, inside, inside', same⟩ := children key ((Dict.mem_keys_iff ..).2 ⟨child, found⟩)
    rw [found] at inside
    rw [found'] at inside'
    cases inside
    cases inside'
    exact same

/-- No place that only one of two trees has needs to be looked at: above it the shapes differ. -/
theorem same_iff_sameShape_places (t u : RouteTree) :
    t.same u = true ↔ ∀ keys node other, t.place? keys = some node → u.place? keys = some other →
      node.sameShape other = true := by
  constructor
  · intro same keys node other found found'
    have related := (same_iff_places t u).1 same keys
    rw [found, found', Option.rel_some_some] at related
    exact (sameShape_iff node other).2 related
  · induction t using slotInduction generalizing u with
    | node t ih =>
      intro places
      rw [same_iff]
      refine ⟨(sameShape_iff t u).1 (places [] t u rfl rfl), ?_⟩
      intro key child other found found'
      apply ih key child found other
      intro keys below below' place place'
      apply places (key :: keys) below below'
      · rw [place?_cons_of_get? found, place]
      · rw [place?_cons_of_get? found', place']

/-- Trees differ exactly if some place that both have leads to nodes of different shape. -/
theorem same_eq_false_iff (t u : RouteTree) :
    t.same u = false ↔ ∃ keys node other, t.place? keys = some node ∧ u.place? keys = some other ∧
      node.sameShape other = false := by
  rw [← Bool.not_eq_true, same_iff_sameShape_places]
  simp only [not_forall, exists_prop, Bool.not_eq_true]

/-- Having the same shape is an equivalence, and it is the sameness of trees taken one level at a
time: trees are the same when their roots have the same shape and their slots hold the same trees,
and they differ exactly if some place that both have leads to nodes of different shape. -/
theorem sameShape_composes :
    Equivalence (fun t u : RouteTree => t.sameShape u = true) ∧ ∀ t u : RouteTree,
      (t.same u = true ↔ t.sameShape u = true ∧ ∀ key ∈ t.slots.keys, ∃ child other,
        t.slots.get? key = some child ∧ u.slots.get? key = some other ∧
          child.same other = true) ∧
      (t.same u = false ↔ ∃ keys node other, t.place? keys = some node ∧
        u.place? keys = some other ∧ node.sameShape other = false) :=
  ⟨sameShape_equivalence, fun t u => ⟨same_iff_slots t u, same_eq_false_iff t u⟩⟩

/-- The roots have the same shape in whichever order their slots stand, and the trees differ where
one of them has a slot that the other lacks. -/
theorem sameShape_composes_modal :
    let feed : RouteTree := .leaf (.fixed "feed")
    let modal : RouteTree := .leaf (.param "id" "42" .single)
    let t := ((RouteTree.leaf .page).withSlot "children" feed).withSlot "modal" modal
    let u := ((RouteTree.leaf .page).withSlot "modal" modal).withSlot "children"
      (feed.withSlot "modal" modal)
    u.sameShape t = true ∧ t.same u = false ∧ ∃ keys node other,
      t.place? keys = some node ∧ u.place? keys = some other ∧ node.sameShape other = false := by
  intro feed modal t u
  have shape : t.sameShape u = true := by decide
  have differ : t.same u = false := by decide
  exact ⟨sameShape_composes.1.symm shape, differ, (sameShape_composes.2 t u).2.1 differ⟩

end RouteSync.RouteTree
