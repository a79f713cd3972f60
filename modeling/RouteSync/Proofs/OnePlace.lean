import RouteSync.Exchange.Session
import RouteSync.Proofs.DeadEnds
import RouteSync.Proofs.Patching
import RouteSync.Render.Scripted

/-!
# What one data path writes

A data path is applied when each of its steps can be taken, and fails at the first that cannot. If it
is applied, its tree stands at its place, the nodes above keep all but what is in their slots, and all
else is as before; no other tree can be described in this way. A data path at the same place takes
the place of one that came before it, so that only the last one of them counts.
-/

namespace RouteSync

namespace RouteTree

/-- A tree has a new one at a place and is as `base` elsewhere: nodes that are not below the place
are there or not as before, with all but what is in their slots, and whatever is beside the way to
the place has not changed at all. -/
structure DiffersAt (result base : RouteTree) (place : List String) (new : RouteTree) : Prop where
  there : result.place? place = some new
  outside : ∀ keys, ¬place <+: keys →
    Option.Rel AlikeInOrder (result.place? keys) (base.place? keys)
  beside : ∀ keys, ¬place <+: keys → ¬keys <+: place → result.place? keys = base.place? keys

theorem differsAt_put {t old : RouteTree} {keys : List String} (new : RouteTree)
    (found : t.place? keys = some old) : (t.put keys new).DiffersAt t keys new :=
  ⟨place?_put_self new found, fun _ => place?_put_of_not_below t new,
    fun _ => place?_put_of_apart t new⟩

/-- There is only one such tree. -/
theorem DiffersAt.unique {result other base new : RouteTree} {place : List String}
    (differs : result.DiffersAt base place new) (differs' : other.DiffersAt base place new) :
    result = other := by
  apply eq_of_alikeInOrder
  intro keys
  by_cases below : place <+: keys
  · obtain ⟨more, rfl⟩ := below
    rw [place?_append_of_eq_some differs.there, place?_append_of_eq_some differs'.there]
    exact AlikeInOrder.rel_refl (new.place? more)
  · exact AlikeInOrder.rel_trans (differs.outside keys below)
      (AlikeInOrder.rel_symm (differs'.outside keys below))

end RouteTree

namespace DataPath

variable {d p q : DataPath} {base result : RouteTree}

theorem applies_iff_passes (d : DataPath) (base : RouteTree) :
    (∃ result, d.applyTo base = .ok result) ↔ ∀ i < d.steps.length, base.Passes d.steps i := by
  rw [applies_iff, RouteTree.follows_iff_passes]

/-- A data path leads to the tree that differs at its place from the one before. -/
theorem differsAt_of_applyTo (applied : d.applyTo base = .ok result) :
    result.DiffersAt base d.place d.patch.tree := by
  obtain ⟨follows, rfl⟩ := (applyTo_eq_ok_iff ..).1 applied
  obtain ⟨old, found⟩ := follows.exists_place?
  exact RouteTree.differsAt_put d.patch.tree found

/-- The tree of an applied data path is found along its path when it has the segment that the path
ends on. -/
theorem nodeAt?_of_applyTo (applied : d.applyTo base = .ok result) :
    result.nodeAt? d.path = some d.patch.tree ↔
      d.patch.segment.matchesSegment d.patch.tree.segment = true := by
  have there := (differsAt_of_applyTo applied).there
  obtain ⟨follows, rfl⟩ := (applyTo_eq_ok_iff ..).1 applied
  have still := (RouteTree.follows_put_iff base d.patch.tree fun _ => rfl).2 follows
  rw [RouteTree.nodeAt?_eq_some_iff, Segment.matchesSegment_comm]
  constructor
  · rintro ⟨-, -, agrees⟩
    exact agrees
  · intro agrees
    exact ⟨still, there, agrees⟩

/-- A data path applies exactly if each of its steps can be taken, that is, if its steps lead to some
node; otherwise it fails at the first step that cannot be taken. What it leads to is the one tree
that differs at its place from the tree before. -/
theorem applyTo_writes (d : DataPath) (base : RouteTree) :
    ((∃ result, d.applyTo base = .ok result) ↔
        ∀ i < d.steps.length, base.Passes d.steps i) ∧
      ((∃ result, d.applyTo base = .ok result) ↔
        ∃ target node, base.nodeAt? ⟨d.steps, target⟩ = some node) ∧
      (∀ fault, d.applyTo base = .error fault ↔
        ∃ i reason, fault = .unresolved i reason ∧ base.StopsAt d.steps i reason) ∧
      ∀ result, d.applyTo base = .ok result →
        result.DiffersAt base d.place d.patch.tree ∧
          (∀ other : RouteTree, other.DiffersAt base d.place d.patch.tree → other = result) ∧
          (d.steps = [] → result = d.patch.tree) ∧
          (result.nodeAt? d.path = some d.patch.tree ↔
            d.patch.segment.matchesSegment d.patch.tree.segment = true) := by
  refine ⟨applies_iff_passes d base, ?_, ?_, ?_⟩
  · rw [RouteTree.exists_nodeAt?_iff, applies_iff]
  · intro fault
    rw [applyTo_eq_error_iff, RouteTree.checkSteps_eq_error_iff]
    simp only [Nat.zero_add]
  · intro result applied
    have differs := differsAt_of_applyTo applied
    refine ⟨differs, fun other differs' => differs'.unique differs, ?_,
      nodeAt?_of_applyTo applied⟩
    intro root
    have there := differs.there
    rw [place, root] at there
    exact Option.some.inj there

/-- A parameter named in another kind is passed, and its second slot is replaced. With another value
of the parameter the walk stops there. -/
theorem applyTo_writes_cart :
    let item (cart : RouteTree) : RouteTree :=
      ((RouteTree.leaf (.param "id" "7" .single)).withSlot "children" (.leaf .page)).withSlot "cart"
        cart
    let root (child : RouteTree) : RouteTree :=
      ((RouteTree.leaf (.fixed "")).withSlot "modal" (.leaf (.fixed "login"))).withSlot "children"
        child
    let steps (value : String) : List Step :=
      [⟨.fixed "", "children"⟩, ⟨.param "id" value .rest, "cart"⟩]
    let base := root (item (.leaf (.fixed "empty")))
    let full : RouteTree := (RouteTree.leaf (.fixed "full")).withSlot "children" (.leaf .page)
    let d : DataPath := ⟨steps "7", .ofTree full⟩
    let stale : DataPath := ⟨steps "8", .ofTree full⟩
    ∃ result, d.applyTo base = .ok result ∧
      result.DiffersAt base ["children", "cart"] full ∧
      result.nodeAt? d.path = some full ∧
      base.StopsAt stale.steps 1
        (.segmentDiffers (.param "id" "8" .rest) (.param "id" "7" .single)) := by
  intro item root steps base full d stale
  obtain ⟨result, applied⟩ : ∃ result, d.applyTo base = .ok result := ⟨_, rfl⟩
  obtain ⟨differs, -, -, found⟩ := (applyTo_writes d base).2.2.2 result applied
  refine ⟨result, applied, differs, found.2 (Segment.matchesSegment_refl _), ?_⟩
  obtain ⟨i, reason, equal, stops⟩ := ((applyTo_writes stale base).2.2.1 _).1 rfl
  cases equal
  exact stops

/-! ### One after another at the same place -/

/-- What was put at its place before is nothing to a data path. -/
theorem applyTo_put_place (q : DataPath) (base new : RouteTree) :
    q.applyTo (base.put q.place new) = q.applyTo base := by
  have steps : (base.put q.place new).checkSteps 0 q.steps = base.checkSteps 0 q.steps :=
    RouteTree.checkSteps_put base new 0 fun _ => rfl
  rw [applyTo_eq, applyTo_eq, steps, RouteTree.put_put]

theorem place_eq_of_steps_eq (same : p.steps = q.steps) : p.place = q.place := by
  rw [place, place, same]

theorem applyTo_eq_error_iff_of_steps_eq (same : p.steps = q.steps) (base : RouteTree)
    (fault : Fault) : p.applyTo base = .error fault ↔ q.applyTo base = .error fault := by
  rw [applyTo_eq_error_iff, applyTo_eq_error_iff, same]

/-- A data path leads to the same after another one along its steps. -/
theorem applyTo_applyTo_of_steps_eq (same : p.steps = q.steps)
    (applied : p.applyTo base = .ok result) : q.applyTo result = q.applyTo base := by
  obtain ⟨-, rfl⟩ := (applyTo_eq_ok_iff ..).1 applied
  rw [place_eq_of_steps_eq same, applyTo_put_place]

/-- Of data paths along the same steps only the last one counts. -/
theorem applyAll_concat_of_steps_eq {ds : List DataPath} (same : ∀ d ∈ ds, d.steps = q.steps)
    (base : RouteTree) : applyAll (ds ++ [q]) base = q.applyTo base := by
  induction ds generalizing base with
  | nil =>
    rw [List.nil_append, applyAll]
    cases q.applyTo base <;> rfl
  | cons d rest ih =>
    obtain ⟨first, others⟩ := List.forall_mem_cons.1 same
    rw [List.cons_append, applyAll]
    cases outcome : d.applyTo base with
    | error fault => exact ((applyTo_eq_error_iff_of_steps_eq first base fault).1 outcome).symm
    | ok next => rw [ok_bind, ih others, applyTo_applyTo_of_steps_eq first outcome]

end DataPath

namespace Session

variable {p q : DataPath}

theorem patch_eq_ok_iff (s : Session) (d : DataPath) (content : PlacedContent) (after : Session) :
    s.patch d = .ok (content, after) ↔ ∃ tree, d.applyTo s.tree = .ok tree ∧
      content = d.placedContent ∧ after = { s with tree := tree } := by
  rw [patch]
  cases d.applyTo s.tree with
  | error fault => simp
  | ok tree => simp [eq_comm]

/-- Of two data paths along the same steps both fail, with the same fault, or both apply; and after
the first one the second leads to the same tree as alone, and brings the same content. -/
theorem patch_last_wins (same : p.steps = q.steps) (s : Session) :
    (∀ fault, p.applyTo s.tree = .error fault ↔ q.applyTo s.tree = .error fault) ∧
      (∀ t, p.applyTo s.tree = .ok t → ∃ u, q.applyTo s.tree = .ok u ∧ q.applyTo t = .ok u) ∧
      ∀ content after, s.patch p = .ok (content, after) →
        ∃ content' last, s.patch q = .ok (content', last) ∧ after.patch q = .ok (content', last) := by
  have both (t : RouteTree) (applied : p.applyTo s.tree = .ok t) :
      ∃ u, q.applyTo s.tree = .ok u ∧ q.applyTo t = .ok u := by
    obtain ⟨u, alone⟩ : ∃ u, q.applyTo s.tree = .ok u := by
      rw [DataPath.applies_iff, ← same, ← DataPath.applies_iff]
      exact ⟨t, applied⟩
    exact ⟨u, alone, (DataPath.applyTo_applyTo_of_steps_eq same applied).trans alone⟩
  refine ⟨DataPath.applyTo_eq_error_iff_of_steps_eq same s.tree, both, ?_⟩
  intro content after patched
  obtain ⟨t, applied, -, rfl⟩ := (patch_eq_ok_iff ..).1 patched
  obtain ⟨u, alone, last⟩ := both t applied
  exact ⟨q.placedContent, { s with tree := u }, (patch_eq_ok_iff ..).2 ⟨u, alone, rfl, rfl⟩,
    (patch_eq_ok_iff ..).2 ⟨u, last, rfl, rfl⟩⟩

/-- The second data path brings another segment to the place, and can be replayed there. Where the
tree of the first one stood the tree of the second one then stands, and all else is as it was. -/
theorem patch_last_wins_replayed :
    let item (cart : RouteTree) : RouteTree :=
      ((RouteTree.leaf (.param "id" "7" .single)).withSlot "cart" cart).withSlot "children"
        (.leaf .page)
    let s : Session := ⟨⟨.ofBuildId "b1", Script.echo.toSource⟩, ⟨"b1", .standard⟩,
      (RouteTree.leaf (.fixed "")).withSlot "children" (item (.leaf (.fixed "empty")))⟩
    let steps : List Step := [⟨.fixed "", "children"⟩, ⟨.param "id" "7" .rest, "cart"⟩]
    let full : RouteTree := .leaf (.fixed "full")
    let single : RouteTree := .leaf (.param "item" "9" .single)
    let p : DataPath := ⟨steps, { Patch.ofTree full with content := some .null }⟩
    let q : DataPath := ⟨steps, .ofTree single⟩
    p.steps = q.steps ∧ ∃ after last, s.patch p = .ok (p.placedContent, after) ∧
      s.patch q = .ok (q.placedContent, last) ∧ after.patch q = .ok (q.placedContent, last) ∧
      last.patch q = .ok (q.placedContent, last) ∧
      after.tree.place? ["children", "cart"] = some full ∧
      last.tree.DiffersAt s.tree ["children", "cart"] single := by
  intro item s steps full single p q
  obtain ⟨after, patched, before⟩ : ∃ after, s.patch p = .ok (p.placedContent, after) ∧
      after.tree.place? ["children", "cart"] = some full := ⟨_, rfl, rfl⟩
  obtain ⟨last, alone⟩ : ∃ last, s.patch q = .ok (q.placedContent, last) := ⟨_, rfl⟩
  obtain ⟨_, _, alone', second⟩ := (patch_last_wins (p := p) (q := q) rfl s).2.2 _ _ patched
  obtain ⟨_, _, alone'', replayed⟩ := (patch_last_wins (p := q) (q := q) rfl s).2.2 _ _ alone
  cases alone.symm.trans alone'
  cases alone.symm.trans alone''
  obtain ⟨_, applied, -, rfl⟩ := (patch_eq_ok_iff ..).1 alone
  have differs : RouteTree.DiffersAt _ s.tree ["children", "cart"] single :=
    DataPath.differsAt_of_applyTo applied
  exact ⟨rfl, after, _, patched, alone, second, replayed, before, differs⟩

end Session

end RouteSync
