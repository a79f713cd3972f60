import RouteSync.Proofs.Patching

/-!
# When data paths can be merged

Data paths can be merged on a tree when they can be applied in turn exactly if each of them can be
applied alone, and then in any order with the same result. `DataPath.disjoint` compares the segment
paths of data paths, which end on the segments that are to be put in place. The tree to be patched
can have other segments there, and then a data path can pass the test although it leads into the
place of another one. The main statement says when data paths that pass can be merged: when no place
is at or below another, or some data path cannot be applied at all.
-/

namespace RouteSync

namespace DataPath

theorem disjoint_iff (ds : List DataPath) :
    disjoint ds = true ↔ ds.Pairwise fun d e => d.isApart e = true := by
  induction ds with
  | nil => simp [disjoint]
  | cons d rest ih => simp [disjoint, ih]

theorem isApart_comm (d e : DataPath) : d.isApart e = e.isApart d := Bool.and_comm ..

theorem isApart_iff (d e : DataPath) :
    d.isApart e = true ↔ ¬d.path.isPrefixOf e.path = true ∧ ¬e.path.isPrefixOf d.path = true := by
  simp [isApart]

/-- The steps of a data path at or below the place of another one, cut at that place. -/
theorem exists_steps_of_place_prefix {d e : DataPath} (below : d.place <+: e.place) :
    ∃ front more, e.steps = front ++ more ∧ front.map Step.key = d.place := by
  obtain ⟨rest, cut⟩ := below
  obtain ⟨front, more, steps, keys, -⟩ := List.map_eq_append_iff.1 cut.symm
  exact ⟨front, more, steps, keys⟩

section TwoPaths

variable {d e : DataPath} {base : RouteTree}

/-- A data path at or below the place of one from which it is apart can only apply after it if it
replaces the same place. -/
theorem place_eq_of_follows_put (own : d.patch.segment = d.patch.tree.segment)
    (apart : d.isApart e = true) (first : base.Follows d.steps) (below : d.place <+: e.place)
    (second : (base.put d.place d.patch.tree).Follows e.steps) : d.place = e.place := by
  obtain ⟨front, more, steps, keys⟩ := exists_steps_of_place_prefix below
  cases more with
  | nil => rw [← keys, place, steps, List.append_nil]
  | cons step more =>
    -- The next step matches the segment of `d`, so that `d` is a prefix of `e`.
    rw [← keys, steps, RouteTree.follows_put_append_iff] at second
    have agrees := ((RouteTree.follows_cons_iff ..).1 second.2).1
    have leads : d.path.isPrefixOf e.path = true := by
      rw [SegmentPath.isPrefixOf, path, path, steps,
        SegmentPath.leadsTo_append_of_follows first second.1 keys.symm, SegmentPath.leadsTo, own]
      exact agrees
    exact absurd leads ((isApart_iff d e).1 apart).1

/-- A data path that applies after one from which it is apart applies before it, too. -/
theorem follows_of_follows_put (own : d.patch.segment = d.patch.tree.segment)
    (apart : d.isApart e = true) (first : base.Follows d.steps)
    (second : (base.put d.place d.patch.tree).Follows e.steps) : base.Follows e.steps :=
  (RouteTree.follows_put_iff base d.patch.tree fun below =>
    place_eq_of_follows_put own apart first below second).1 second

/-- Data paths that are apart and replace the same place bring different segments there. -/
theorem segment_ne_of_place_eq (apart : d.isApart e = true) (first : base.Follows d.steps)
    (second : base.Follows e.steps) (same : d.place = e.place) :
    d.patch.segment ≠ e.patch.segment := by
  intro equal
  have leads : d.path.isPrefixOf e.path = true := by
    have whole := SegmentPath.leadsTo_append_of_follows first second same d.patch.segment
      e.patch.segment []
    rw [List.append_nil] at whole
    rw [SegmentPath.isPrefixOf, path, path, whole, SegmentPath.leadsTo, equal]
    exact Segment.matchesSegment_refl _
  exact ((isApart_iff d e).1 apart).1 leads

end TwoPaths

/-- Data paths that are apart and apply in turn apply alone. -/
theorem follows_of_applyAll {ds : List DataPath} {base tree : RouteTree}
    (own : ∀ d ∈ ds, d.patch.segment = d.patch.tree.segment)
    (apart : ds.Pairwise fun d e => d.isApart e = true) (applied : applyAll ds base = .ok tree) :
    ∀ d ∈ ds, base.Follows d.steps := by
  induction ds generalizing base with
  | nil => simp
  | cons first rest ih =>
    obtain ⟨follows, applied⟩ := (applyAll_cons_eq_ok_iff ..).1 applied
    obtain ⟨apartFirst, apart⟩ := List.pairwise_cons.1 apart
    intro d member
    rcases List.mem_cons.1 member with rfl | member
    · exact follows
    · have after := ih (fun e inside => own e (List.mem_cons_of_mem first inside)) apart applied
      exact follows_of_follows_put (own first List.mem_cons_self) (apartFirst d member) follows
        (after d member)

/-! ### Merging -/

/-- The data paths apply in turn exactly if each applies alone, and then they apply in any order and
come to the same tree. -/
def Mergeable (ds : List DataPath) (base : RouteTree) : Prop :=
  ((∃ outcome, (FlightData.paths ds).applyTo base = .ok outcome) ↔
      ∀ d ∈ ds, ∃ tree, d.applyTo base = .ok tree) ∧
    ∀ tree contents, (FlightData.paths ds).applyTo base = .ok (.patched tree contents) →
      ∀ es, ds.Perm es → ∃ tree' contents',
        (FlightData.paths es).applyTo base = .ok (.patched tree' contents') ∧
          tree.same tree' = true

theorem mergeable_iff (ds : List DataPath) (base : RouteTree) :
    Mergeable ds base ↔
      ((∃ tree, applyAll ds base = .ok tree) ↔ ∀ d ∈ ds, base.Follows d.steps) ∧
        ∀ tree, applyAll ds base = .ok tree → ∀ es, ds.Perm es →
          ∃ tree', applyAll es base = .ok tree' ∧ tree.same tree' = true := by
  simp only [Mergeable, FlightData.applyTo_paths_eq_ok_iff, applies_iff]
  simp

private theorem exists_perm_of_not_pairwise {α : Type} {R : α → α → Prop} {xs : List α}
    (broken : ¬xs.Pairwise R) : ∃ a b rest, xs.Perm (a :: b :: rest) ∧ ¬R a b := by
  induction xs with
  | nil => exact absurd List.Pairwise.nil broken
  | cons x rest ih =>
    by_cases tail : rest.Pairwise R
    · have head : ¬∀ y ∈ rest, R x y := fun head => broken (List.pairwise_cons.2 ⟨head, tail⟩)
      simp only [not_forall] at head
      obtain ⟨y, member, unrelated⟩ := head
      obtain ⟨before, after, rfl⟩ := List.append_of_mem member
      exact ⟨x, y, before ++ after, List.perm_middle.cons x, unrelated⟩
    · obtain ⟨a, b, others, perm, unrelated⟩ := ih tail
      have front : (x :: a :: b :: others).Perm (a :: b :: x :: others) :=
        (List.Perm.swap a x _).trans ((List.Perm.swap b x _).cons a)
      exact ⟨a, b, x :: others, (perm.cons x).trans front, unrelated⟩

/-- If two data paths are apart and one is at or below the place of the other, some order of them
and the rest fails, or two orders differ in their results. -/
theorem not_forall_perm_of_below {d e : DataPath} {rest : List DataPath} {base tree : RouteTree}
    (own : d.patch.segment = d.patch.tree.segment) (own' : e.patch.segment = e.patch.tree.segment)
    (apart : d.isApart e = true) (first : base.Follows d.steps) (second : base.Follows e.steps)
    (below : d.place <+: e.place) :
    ¬∀ es, (d :: e :: rest).Perm es →
      ∃ tree', applyAll es base = .ok tree' ∧ tree.same tree' = true := by
  intro orders
  obtain ⟨_, applied, -⟩ := orders _ (.refl _)
  have after := ((applyAll_cons_eq_ok_iff ..).1 ((applyAll_cons_eq_ok_iff ..).1 applied).2).1
  have samePlace := place_eq_of_follows_put own apart first below after
  -- Both are to stand at one place: the last one of them does.
  have toEnd (f g : DataPath) : (f :: g :: rest).Perm ((rest ++ [f]) ++ [g]) := by
    have moved : ([f, g] ++ rest).Perm (rest ++ [f, g]) := List.perm_append_comm
    rwa [List.append_assoc]
  obtain ⟨t, applied, same⟩ := orders _ (toEnd d e)
  obtain ⟨t', applied', same'⟩ := orders _ ((List.Perm.swap e d rest).trans (toEnd e d))
  have last := place?_of_applyAll applied (by simp)
  have last' := place?_of_applyAll applied' (by simp)
  have alike := (RouteTree.same_iff_places t t').1
    (RouteTree.same_trans (RouteTree.same_symm same) same') e.place
  rw [last, ← samePlace, last'] at alike
  cases alike with
  | some alike =>
    have equal : d.patch.segment = e.patch.segment := by
      rw [own, own', alike.segment]
    exact segment_ne_of_place_eq apart first second samePlace equal

/-- Data paths that are apart, apply alone and come to the same tree in any order are separate. -/
theorem pairwise_separate_of_orders {ds : List DataPath} {base tree : RouteTree}
    (own : ∀ d ∈ ds, d.patch.segment = d.patch.tree.segment)
    (apart : ds.Pairwise fun d e => d.isApart e = true) (alone : ∀ d ∈ ds, base.Follows d.steps)
    (orders : ∀ es, ds.Perm es → ∃ tree', applyAll es base = .ok tree' ∧ tree.same tree' = true) :
    ds.Pairwise Separate := by
  apply Classical.byContradiction
  intro nested
  obtain ⟨d, e, rest, perm, near⟩ := exists_perm_of_not_pairwise nested
  have member : d ∈ ds := perm.mem_iff.2 (by simp)
  have member' : e ∈ ds := perm.mem_iff.2 (by simp)
  have symmetric : ∀ {d e : DataPath}, d.isApart e = true → e.isApart d = true :=
    fun h => (isApart_comm ..).trans h
  have two : d.isApart e = true :=
    (List.pairwise_cons.1 ((perm.pairwise_iff symmetric).1 apart)).1 e List.mem_cons_self
  rcases Classical.not_and_iff_not_or_not.1 near with below | below
  · apply not_forall_perm_of_below (own d member) (own e member') two (alone d member)
      (alone e member') (Classical.not_not.1 below)
    intro es more
    exact orders es (perm.trans more)
  · apply not_forall_perm_of_below (own e member') (own d member) (symmetric two)
      (alone e member') (alone d member) (Classical.not_not.1 below)
    intro es more
    exact orders es (perm.trans ((List.Perm.swap e d rest).trans more))

/-- Separate data paths come to one tree in any order. -/
theorem applyAll_eq_of_perm {ds es : List DataPath} {base tree : RouteTree}
    (separate : ds.Pairwise Separate) (follows : ∀ d ∈ ds, base.Follows d.steps)
    (applied : applyAll ds base = .ok tree) (perm : ds.Perm es) : applyAll es base = .ok tree := by
  have separate' := (perm.pairwise_iff Separate.symm).1 separate
  have follows' : ∀ e ∈ es, base.Follows e.steps :=
    fun e member => follows e (perm.mem_iff.2 member)
  rw [applyAll_of_separate separate' follows', ← putAll_perm perm separate,
    ← eq_putAll_of_applyAll applied]

/-- Data paths that are apart can be merged on a tree exactly if their places are separate, unless
some of them cannot be applied there at all. -/
theorem mergeable_iff_separate {ds : List DataPath} {base : RouteTree}
    (own : ∀ d ∈ ds, d.patch.segment = d.patch.tree.segment) (apart : disjoint ds = true) :
    Mergeable ds base ↔
      ((∀ d ∈ ds, ∃ tree, d.applyTo base = .ok tree) → ds.Pairwise Separate) := by
  rw [disjoint_iff] at apart
  simp only [mergeable_iff, applies_iff]
  constructor
  · intro merges alone
    obtain ⟨tree, applied⟩ := merges.1.2 alone
    exact pairwise_separate_of_orders own apart alone (merges.2 tree applied)
  · intro separate
    refine ⟨⟨?_, ?_⟩, ?_⟩
    · intro outcome
      obtain ⟨tree, applied⟩ := outcome
      exact follows_of_applyAll own apart applied
    · intro alone
      exact ⟨_, applyAll_of_separate (separate alone) alone⟩
    · intro tree applied es perm
      have alone := follows_of_applyAll own apart applied
      exact ⟨tree, applyAll_eq_of_perm (separate alone) alone applied perm,
        RouteTree.same_refl tree⟩

/-- Two slots of one node, of which one changes the kind of a parameter: the order is free. -/
theorem mergeable_siblings :
    let base := ((RouteTree.leaf (.fixed "")).withSlot "children"
      (.leaf (.param "id" "7" .single))).withSlot "modal" (.leaf .page)
    let page : DataPath := ⟨[⟨.fixed "", "children"⟩], .ofTree (.leaf (.param "id" "7" .rest))⟩
    let login : DataPath := ⟨[⟨.fixed "", "modal"⟩], .ofTree (.leaf (.fixed "login"))⟩
    (∀ d ∈ [page, login], d.patch.segment = d.patch.tree.segment) ∧
      disjoint [page, login] = true ∧ Mergeable [page, login] base := by
  intro base page login
  have own : ∀ d ∈ [page, login], d.patch.segment = d.patch.tree.segment := by
    simp [page, login, Patch.ofTree]
  have apart : disjoint [page, login] = true := by decide
  refine ⟨own, apart, (mergeable_iff_separate own apart).2 fun _ => ?_⟩
  simp [Separate, place, page, login]

/-- A data path that passes the test and yet leads into the place of the other one. The other one
renames the node it replaces, so that each applies alone, but only one order of both succeeds. -/
theorem disjoint_not_mergeable :
    let base := (RouteTree.leaf (.fixed "")).withSlot "children"
      ((RouteTree.leaf (.fixed "old")).withSlot "children" (.leaf .page))
    let outer : DataPath := ⟨[⟨.fixed "", "children"⟩], .ofTree (.leaf (.fixed "new"))⟩
    let inner : DataPath :=
      ⟨[⟨.fixed "", "children"⟩, ⟨.fixed "old", "children"⟩], .ofTree (.leaf (.fixed "x"))⟩
    (∀ d ∈ [outer, inner], d.patch.segment = d.patch.tree.segment) ∧
      disjoint [outer, inner] = true ∧
      (∀ d ∈ [outer, inner], ∃ tree, d.applyTo base = .ok tree) ∧
      (FlightData.paths [outer, inner]).applyTo base =
        .error (.unresolved 1 (.segmentDiffers (.fixed "old") (.fixed "new"))) ∧
      ¬Mergeable [outer, inner] base := by
  intro base outer inner
  have alone : ∀ d ∈ [outer, inner], ∃ tree, d.applyTo base = .ok tree := by
    intro d member
    simp only [List.mem_cons, List.not_mem_nil, or_false] at member
    rcases member with rfl | rfl
    · exact ⟨_, rfl⟩
    · exact ⟨_, rfl⟩
  have fails : (FlightData.paths [outer, inner]).applyTo base =
      .error (.unresolved 1 (.segmentDiffers (.fixed "old") (.fixed "new"))) := rfl
  refine ⟨by simp [outer, inner, Patch.ofTree], by decide, alone, fails, ?_⟩
  intro holds
  rcases holds with ⟨complete, -⟩
  obtain ⟨outcome, applied⟩ := complete.2 alone
  rw [fails] at applied
  cases applied

end DataPath

end RouteSync
