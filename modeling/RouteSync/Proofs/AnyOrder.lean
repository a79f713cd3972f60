import RouteSync.Proofs.Changes
import RouteSync.Proofs.DeadEnds
import RouteSync.Proofs.Merging
import RouteSync.Render.Scripted

/-!
# Changes in any order

No data path that a walk emits reaches into the place of another one. So a client can take them in
any order, also a client whose tree is not the one from which the walk leads: what goes wrong with
one of them goes wrong with it alone, and if all go well the result is the same.
-/

namespace RouteSync

namespace DataPath

/-- Data paths with separate places are apart, whatever their segments are. -/
theorem Separate.isApart {d e : DataPath} (separate : d.Separate e) : d.isApart e = true := by
  rw [isApart_iff]
  exact ⟨fun leads => separate.1 (SegmentPath.keys_prefix_of_isPrefixOf leads),
    fun leads => separate.2 (SegmentPath.keys_prefix_of_isPrefixOf leads)⟩

section Separate

variable {ds es : List DataPath} {base : RouteTree}

theorem disjoint_of_separate (separate : ds.Pairwise Separate) : disjoint ds = true :=
  (disjoint_iff ds).2 (separate.imp Separate.isApart)

/-- Separate data paths apply in turn exactly if each of them applies alone. -/
theorem applyTo_eq_ok_iff_of_separate (separate : ds.Pairwise Separate) (outcome : Navigation) :
    (FlightData.paths ds).applyTo base = .ok outcome ↔
      (∀ d ∈ ds, ∃ tree, d.applyTo base = .ok tree) ∧
        outcome = .patched (putAll ds base) (ds.map placedContent) := by
  rw [FlightData.applyTo_paths_eq_ok_iff, applyAll_eq separate]
  simp only [map_eq_ok_iff, applies_iff, ← RouteTree.checkSteps_eq_ok_iff base 0,
    ← forM_eq_ok_iff]
  constructor
  · rintro ⟨_, ⟨_, taken, rfl⟩, rfl⟩
    exact ⟨taken, rfl⟩
  · rintro ⟨taken, rfl⟩
    exact ⟨_, ⟨(), taken, rfl⟩, rfl⟩

/-- Separate data paths applied in turn fail as the first of them that does not apply alone. -/
theorem applyTo_eq_error_iff_of_separate (separate : ds.Pairwise Separate) (fault : Fault) :
    (FlightData.paths ds).applyTo base = .error fault ↔
      ∃ front d back, ds = front ++ d :: back ∧
        (∀ e ∈ front, ∃ tree, e.applyTo base = .ok tree) ∧ d.applyTo base = .error fault := by
  rw [FlightData.applyTo_paths_eq, map_eq_error_iff, applyAll_eq separate, map_eq_error_iff,
    forM_eq_error_iff]
  simp only [applies_iff, ← RouteTree.checkSteps_eq_ok_iff base 0, applyTo_eq_error_iff]

end Separate

end DataPath

namespace ContentSource

open DataPath (disjoint)

variable {source : ContentSource} {mode : RenderMode} {prev next : RouteTree}
  {paths : List DataPath}

theorem pairwise_separate_of_changes
    (walked : (source.changes prev next mode).outcome = .ok paths) :
    paths.Pairwise DataPath.Separate :=
  (emits_of_changesFrom walked).pairwise_separate

/-- Of two data paths of a walk neither leads into the place of the other, though their segments
may agree. -/
theorem disjoint_changes (walked : (source.changes prev next mode).outcome = .ok paths) :
    disjoint paths = true ∧
      ∀ (i j : Nat) (first : i < paths.length) (second : j < paths.length), i ≠ j →
        paths[i].path.isPrefixOf paths[j].path = false := by
  have separate := pairwise_separate_of_changes walked
  refine ⟨DataPath.disjoint_of_separate separate, ?_⟩
  intro i j first second different
  have apart : paths[i].Separate paths[j] := by
    rcases Nat.lt_or_gt_of_ne different with before | after
    · exact List.pairwise_iff_getElem.1 separate i j first second before
    · exact (List.pairwise_iff_getElem.1 separate j i second first after).symm
  exact Bool.eq_false_iff.2 ((DataPath.isApart_iff ..).1 apart.isApart).1

/-- Two slots whose trees have one segment, and a third one that is not changed. -/
theorem disjoint_changes_tabs :
    let root (left right : RouteTree) : RouteTree :=
      (((RouteTree.leaf (.fixed "")).withSlot "left" left).withSlot "children"
        (.leaf .page)).withSlot "right" right
    let tab (value : String) (kind : ParamKind) : RouteTree := .leaf (.param "id" value kind)
    let source := ({ Script.echo with content := .withheld } : Script).toSource
    let paths : List DataPath := [⟨[⟨.fixed "", "left"⟩], .ofTree (tab "7" .rest)⟩,
      ⟨[⟨.fixed "", "right"⟩], .ofTree (tab "7" .single)⟩]
    (source.changes (root (tab "7" .single) (tab "8" .single))
        (root (tab "7" .rest) (tab "7" .single)) .full).outcome = .ok paths ∧
      disjoint paths = true := by
  intro root tab source paths
  have walked : (source.changes (root (tab "7" .single) (tab "8" .single))
      (root (tab "7" .rest) (tab "7" .single)) .full).outcome = .ok paths := rfl
  exact ⟨walked, (disjoint_changes walked).1⟩

/-- On every tree, the changes from one tree to the next succeed in any order exactly if each of
them applies alone, and then all orders come to one tree. An order that fails leads nowhere just as
the first of its data paths does that does not apply alone. -/
theorem applyTo_changes_of_perm (walked : (source.changes prev next mode).outcome = .ok paths)
    (c : RouteTree) :
    (∀ q, paths.Perm q → ((∃ outcome, (FlightData.paths q).applyTo c = .ok outcome) ↔
        ∀ d ∈ q, ∃ tree, d.applyTo c = .ok tree)) ∧
      (∀ q q' tree tree' contents contents', paths.Perm q → paths.Perm q' →
        (FlightData.paths q).applyTo c = .ok (.patched tree contents) →
        (FlightData.paths q').applyTo c = .ok (.patched tree' contents') → tree = tree') ∧
      ∀ q fault, paths.Perm q → ((FlightData.paths q).applyTo c = .error fault ↔
        ∃ front d back depth reason, q = front ++ d :: back ∧
          (∀ e ∈ front, ∃ tree, e.applyTo c = .ok tree) ∧
          d.applyTo c = .error fault ∧ fault = .unresolved depth reason) := by
  have separate (q : List DataPath) (perm : paths.Perm q) : q.Pairwise DataPath.Separate :=
    (perm.pairwise_iff DataPath.Separate.symm).1 (pairwise_separate_of_changes walked)
  refine ⟨?_, ?_, ?_⟩
  · intro q perm
    simp [DataPath.applyTo_eq_ok_iff_of_separate (separate q perm)]
  · intro q q' tree tree' contents contents' perm perm' applied applied'
    rw [DataPath.applyTo_eq_ok_iff_of_separate (separate q perm)] at applied
    rw [DataPath.applyTo_eq_ok_iff_of_separate (separate q' perm')] at applied'
    cases applied.2
    cases applied'.2
    exact DataPath.putAll_perm (perm.symm.trans perm') (separate q perm) c
  · intro q fault perm
    rw [DataPath.applyTo_eq_error_iff_of_separate (separate q perm)]
    constructor
    · rintro ⟨front, d, back, cut, before, fails⟩
      have taken := (DataPath.applyTo_eq_error_iff ..).1 fails
      obtain ⟨depth, reason, unresolved⟩ := RouteTree.exists_unresolved_of_checkSteps taken
      exact ⟨front, d, back, depth, reason, cut, before, fails, unresolved⟩
    · rintro ⟨front, d, back, _, _, cut, before, fails, -⟩
      exact ⟨front, d, back, cut, before, fails⟩

/-- A client that lacks one of two slots: both orders fail at the data path that goes into it. -/
theorem applyTo_changes_of_perm_stale :
    let root (left right : RouteTree) : RouteTree :=
      ((RouteTree.leaf (.fixed "")).withSlot "left" left).withSlot "right" right
    let tab (value : String) : RouteTree := .leaf (.param "id" value .single)
    let source := ({ Script.echo with content := .withheld } : Script).toSource
    let left : DataPath := ⟨[⟨.fixed "", "left"⟩], .ofTree (tab "8")⟩
    let right : DataPath := ⟨[⟨.fixed "", "right"⟩], .ofTree (tab "9")⟩
    let c := (RouteTree.leaf (.fixed "")).withSlot "left" (tab "1")
    (source.changes (root (tab "7") (tab "8")) (root (tab "8") (tab "9")) .full).outcome =
        .ok [left, right] ∧
      (∃ tree, left.applyTo c = .ok tree) ∧
      (FlightData.paths [left, right]).applyTo c =
        .error (.unresolved 0 (.slotMissing "right" (.fixed ""))) ∧
      (FlightData.paths [right, left]).applyTo c =
        .error (.unresolved 0 (.slotMissing "right" (.fixed ""))) := by
  intro root tab source left right c
  have walked : (source.changes (root (tab "7") (tab "8")) (root (tab "8") (tab "9"))
      .full).outcome = .ok [left, right] := rfl
  have applies : ∃ tree, left.applyTo c = .ok tree := ⟨_, rfl⟩
  have fails : right.applyTo c = .error (.unresolved 0 (.slotMissing "right" (.fixed ""))) := rfl
  refine ⟨walked, applies, ?_, ?_⟩
  · apply ((applyTo_changes_of_perm walked c).2.2 _ _ (.refl _)).2
    exact ⟨[left], right, [], 0, _, rfl, by simpa using applies, fails, rfl⟩
  · apply ((applyTo_changes_of_perm walked c).2.2 _ _ (.swap ..)).2
    exact ⟨[], right, [left], 0, _, rfl, by simp, fails, rfl⟩

end ContentSource

end RouteSync
