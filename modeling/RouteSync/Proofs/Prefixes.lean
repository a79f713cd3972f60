import RouteSync.Proofs.Places

/-!
# Prefixes of paths

One path is a prefix of another when it ends on a node that the other one passes. Prefixes follow the
same slots, and where steps agree only what comes after them decides. Between paths that one tree
resolves nothing but the slots decides: `RouteTree.way` lists the nodes that a path passes, and the
path of a node is a prefix exactly if the node is in that list.
-/

namespace RouteSync

/-- Places that part at a node are not below one another. -/
theorem not_prefix_of_ne {key key' : String} (different : key ≠ key')
    (front back back' : List String) : ¬front ++ key :: back <+: front ++ key' :: back' := by
  rw [List.prefix_append_right_inj, List.cons_prefix_cons]
  exact fun below => different below.1

namespace SegmentPath

/-- A path can only lead to a node on the way of another one through the same slots. -/
theorem keys_prefix_of_isPrefixOf {a b : SegmentPath}
    (leads : a.isPrefixOf b = true) : a.keys <+: b.keys := by
  obtain ⟨steps, target⟩ := a
  obtain ⟨others, other⟩ := b
  rw [isPrefixOf] at leads
  rw [keys, keys]
  induction steps generalizing others with
  | nil => exact List.nil_prefix
  | cons step steps ih =>
    cases others with
    | nil => cases leads
    | cons step' others =>
      simp only [leadsTo, Bool.and_eq_true, beq_iff_eq] at leads
      obtain ⟨⟨sameKey, -⟩, leads⟩ := leads
      exact List.cons_prefix_cons.2 ⟨sameKey, ih others leads⟩

/-- Steps that both paths take do not tell a prefix. -/
theorem leadsTo_append (target : Segment) (steps more more' : List Step)
    (other : Segment) :
    leadsTo target (steps ++ more) (steps ++ more') other = leadsTo target more more' other := by
  induction steps with
  | nil => rfl
  | cons step steps ih =>
    rw [List.cons_append, List.cons_append, leadsTo, ih, Segment.matchesSegment_refl]
    simp

/-- Along steps that a tree lets both paths take, only what follows tells a prefix. -/
theorem leadsTo_append_of_follows {t : RouteTree} {steps front : List Step}
    (first : t.Follows steps) (second : t.Follows front)
    (keys : steps.map Step.key = front.map Step.key) (target other : Segment) (more : List Step) :
    leadsTo target steps (front ++ more) other = leadsTo target [] more other := by
  induction steps generalizing t front with
  | nil =>
    cases front with
    | nil => rfl
    | cons step front => cases keys
  | cons a steps ih =>
    cases front with
    | nil => cases keys
    | cons b front =>
      obtain ⟨sameKey, keys⟩ := List.cons.inj keys
      obtain ⟨agreesA, child, found, first⟩ := (RouteTree.follows_cons_iff ..).1 first
      obtain ⟨agreesB, child', found', second⟩ := (RouteTree.follows_cons_iff ..).1 second
      rw [sameKey, found'] at found
      cases found
      have agrees : a.segment.matchesSegment b.segment = true :=
        Segment.matchesSegment_trans (by rwa [Segment.matchesSegment_comm]) agreesB
      rw [List.cons_append, leadsTo, ih first second keys, sameKey, agrees]
      simp

theorem isPrefixOf_refl (path : SegmentPath) : path.isPrefixOf path = true := by
  have whole := leadsTo_append path.target path.steps [] [] path.target
  rw [List.append_nil] at whole
  rw [isPrefixOf, whole, leadsTo, Segment.matchesSegment_refl]

/-- On the way to a node lies what lies on the way to a node before it. -/
theorem isPrefixOf_trans {a b c : SegmentPath} (first : a.isPrefixOf b = true)
    (second : b.isPrefixOf c = true) : a.isPrefixOf c = true := by
  obtain ⟨steps, target⟩ := a
  obtain ⟨others, other⟩ := b
  obtain ⟨more, last⟩ := c
  rw [isPrefixOf] at first second ⊢
  -- The target of the first path is compared with a step of the second one, or with its target.
  induction steps generalizing others more with
  | nil =>
    cases others with
    | nil => cases more <;> exact Segment.matchesSegment_trans first second
    | cons step others =>
      cases more with
      | nil => cases second
      | cons step' more =>
        simp only [leadsTo, Bool.and_eq_true] at second
        exact Segment.matchesSegment_trans first second.1.2
  | cons step steps ih =>
    cases others with
    | nil => cases first
    | cons step' others =>
      cases more with
      | nil => cases second
      | cons step'' more =>
        simp only [leadsTo, Bool.and_eq_true, beq_iff_eq] at first second ⊢
        obtain ⟨⟨sameKey, agrees⟩, first⟩ := first
        obtain ⟨⟨sameKey', agrees'⟩, second⟩ := second
        exact ⟨⟨sameKey.trans sameKey', Segment.matchesSegment_trans agrees agrees'⟩,
          ih others first more second⟩

/-- Between paths that a tree resolves the slots alone tell a prefix. -/
theorem isPrefixOf_iff_keys_prefix {t node other : RouteTree} {a b : SegmentPath}
    (first : t.nodeAt? a = some node) (second : t.nodeAt? b = some other) :
    a.isPrefixOf b = true ↔ a.keys <+: b.keys := by
  refine ⟨keys_prefix_of_isPrefixOf, ?_⟩
  rintro ⟨rest, keys⟩
  obtain ⟨follows, place, agrees⟩ := (RouteTree.nodeAt?_eq_some_iff ..).1 first
  obtain ⟨follows', place', agrees'⟩ := (RouteTree.nodeAt?_eq_some_iff ..).1 second
  obtain ⟨front, back, cut, sameKeys, restKeys⟩ := List.map_eq_append_iff.1 keys.symm
  rw [cut, RouteTree.follows_append_iff, sameKeys, place] at follows'
  obtain ⟨followsFront, _, ⟨⟩, followsBack⟩ := follows'
  rw [Segment.matchesSegment_comm] at agrees
  rw [isPrefixOf, cut, leadsTo_append_of_follows follows followsFront sameKeys.symm]
  -- What follows the steps of the first path is compared with the node that both of them reach.
  cases back with
  | nil =>
    have same : other = node := by
      rw [← keys, ← restKeys, List.map_nil, List.append_nil, place] at place'
      exact (Option.some.inj place').symm
    rw [same] at agrees'
    exact Segment.matchesSegment_trans agrees agrees'
  | cons step back =>
    exact Segment.matchesSegment_trans agrees ((RouteTree.follows_cons_iff ..).1 followsBack).1

end SegmentPath

namespace RouteTree

/-- The nodes on the way along steps, each with its place: first the node at which the way begins,
then the one behind each step. -/
def way (t : RouteTree) (place : List String) : List Step → List (List String × RouteTree)
  | [] => [(place, t)]
  | step :: steps =>
    (place, t) ::
      match t.slots.get? step.key with
      | some child => child.way (place ++ [step.key]) steps
      | none => []

theorem mem_way_iff (t : RouteTree) (place : List String) (steps : List Step) (keys : List String)
    (node : RouteTree) :
    (keys, node) ∈ t.way place steps ↔ ∃ more, more <+: steps.map Step.key ∧
      keys = place ++ more ∧ t.place? more = some node := by
  induction steps generalizing t place with
  | nil => simp [way, eq_comm]
  | cons step steps ih =>
    rw [way, List.mem_cons, List.map_cons]
    constructor
    · rintro (root | below)
      · cases root
        exact ⟨[], List.nil_prefix, (List.append_nil _).symm, rfl⟩
      · cases found : t.slots.get? step.key with
        | none => simp [found] at below
        | some child =>
          rw [found] at below
          obtain ⟨more, inside, rfl, place⟩ := (ih child _).1 below
          exact ⟨step.key :: more, List.cons_prefix_cons.2 ⟨rfl, inside⟩, by simp,
            (place?_cons_of_get? found more).trans place⟩
    · rintro ⟨more, below, rfl, place⟩
      cases more with
      | nil =>
        cases place
        exact .inl (by rw [List.append_nil])
      | cons key more =>
        obtain ⟨rfl, inside⟩ := List.cons_prefix_cons.1 below
        obtain ⟨child, found, place⟩ := (place?_cons_eq_some_iff ..).1 place
        right
        rw [found]
        exact (ih child _).2 ⟨more, inside, by simp, place⟩

/-- Between paths that a tree resolves, being a prefix means to go into the slots that the other path
goes into first, and to end on a node that the other path passes. Two of them are prefixes of each
other exactly if they end on one node. Also where no tree resolves them, every path is a prefix of
itself, and a prefix of a prefix is a prefix. -/
theorem isPrefixOf_iff_mem_way :
    (∀ (t node other : RouteTree) (a b : SegmentPath),
      t.nodeAt? a = some node → t.nodeAt? b = some other →
        (a.isPrefixOf b = true ↔ a.keys <+: b.keys) ∧
        (a.isPrefixOf b = true ↔ (a.keys, node) ∈ t.way [] b.steps) ∧
        (a.isPrefixOf b = true ∧ b.isPrefixOf a = true ↔ (a.keys, node) = (b.keys, other))) ∧
      (∀ a : SegmentPath, a.isPrefixOf a = true) ∧
      ∀ a b c : SegmentPath, a.isPrefixOf b = true → b.isPrefixOf c = true →
        a.isPrefixOf c = true := by
  refine ⟨?_, SegmentPath.isPrefixOf_refl, fun _ _ _ => SegmentPath.isPrefixOf_trans⟩
  intro t node other a b first second
  have forward := SegmentPath.isPrefixOf_iff_keys_prefix first second
  have backward := SegmentPath.isPrefixOf_iff_keys_prefix second first
  obtain ⟨-, place, -⟩ := (nodeAt?_eq_some_iff ..).1 first
  obtain ⟨-, place', -⟩ := (nodeAt?_eq_some_iff ..).1 second
  refine ⟨forward, ?_, ?_⟩
  · rw [forward, mem_way_iff]
    constructor
    · intro inside
      exact ⟨a.keys, inside, rfl, place⟩
    · rintro ⟨more, inside, rfl, -⟩
      exact inside
  · rw [forward, backward, Prod.mk.injEq]
    constructor
    · rintro ⟨inside, inside'⟩
      have keys : a.keys = b.keys :=
        inside.eq_of_length (Nat.le_antisymm inside.length_le inside'.length_le)
      rw [keys, place'] at place
      exact ⟨keys, (Option.some.inj place).symm⟩
    · rintro ⟨keys, -⟩
      rw [keys]
      exact ⟨List.prefix_rfl, List.prefix_rfl⟩

/-- A parameter that the tree and the paths give different kinds, below a node whose other slot holds
an equal tree: the path into one slot is on the way through it, and the path into the other slot,
which ends on an equal node, is not. -/
theorem isPrefixOf_iff_mem_way_slug :
    let slug (kind : ParamKind) : Segment := .param "slug" "a/b" kind
    let item := (RouteTree.leaf (slug .rest)).withSlot "children" (.leaf .page)
    let t := ((RouteTree.leaf (.fixed "")).withSlot "children" item).withSlot "modal" item
    let shown : SegmentPath := ⟨[⟨.fixed "", "children"⟩], slug .single⟩
    let modal : SegmentPath := ⟨[⟨.fixed "", "modal"⟩], slug .single⟩
    let page : SegmentPath :=
      ⟨[⟨.fixed "", "children"⟩, ⟨slug .optionalRest, "children"⟩], .page⟩
    t.nodeAt? shown = some item ∧ t.nodeAt? modal = some item ∧
      t.nodeAt? page = some (.leaf .page) ∧
      shown.isPrefixOf page = true ∧ (["children"], item) ∈ t.way [] page.steps ∧
      modal.isPrefixOf page = false ∧ (["modal"], item) ∉ t.way [] page.steps ∧
      (SegmentPath.root (.fixed "")).isPrefixOf shown = true ∧
      (SegmentPath.root (.fixed "")).isPrefixOf page = true := by
  intro slug item t shown modal page
  have atShown : t.nodeAt? shown = some item := rfl
  have atModal : t.nodeAt? modal = some item := rfl
  have atPage : t.nodeAt? page = some (.leaf .page) := rfl
  obtain ⟨between, -, trans⟩ := isPrefixOf_iff_mem_way
  obtain ⟨keys, onWay, -⟩ := between t _ _ shown page atShown atPage
  obtain ⟨keys', onWay', -⟩ := between t _ _ modal page atModal atPage
  have leads : shown.isPrefixOf page = true := keys.2 (by decide)
  have apart : ¬modal.isPrefixOf page = true := fun inside => absurd (keys'.1 inside) (by decide)
  have root : (SegmentPath.root (.fixed "")).isPrefixOf shown = true := by decide
  exact ⟨atShown, atModal, atPage, leads, onWay.1 leads, Bool.eq_false_iff.2 apart,
    fun inside => apart (onWay'.2 inside), root, trans _ _ _ root leads⟩

end RouteTree

end RouteSync
