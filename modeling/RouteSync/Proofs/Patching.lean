import RouteSync.Patching
import RouteSync.Proofs.Outcome
import RouteSync.Proofs.Prefixes
import RouteSync.Proofs.Replacement

/-!
# Patches as replacements

Applying a data path takes its steps and puts its tree at the place they lead to. Data paths whose
places are separate, none at or below another, do not get into each other's way: each can be applied
after the others if it can be applied alone, the result shows each of their trees at its place, and
the order does not matter.
-/

namespace RouteSync

/-- A graft fails as its steps do, or else puts the new tree where they lead. -/
theorem RouteTree.graft_eq (t new : RouteTree) (depth : Nat) (steps : List Step) :
    t.graft new depth steps =
      (t.checkSteps depth steps).map fun _ => t.put (steps.map Step.key) new := by
  induction steps generalizing t depth with
  | nil => rw [graft, checkSteps, map_ok, List.map_nil, put_nil]
  | cons step steps ih =>
    rw [graft, checkSteps, List.map_cons]
    cases agrees : t.segment.matchesSegment step.segment with
    | false => rfl
    | true =>
      cases found : t.slots.get? step.key with
      | none => rfl
      | some child =>
        simp only [if_true, ih, put_cons_of_get? found, bind_of_map]
        cases child.checkSteps (depth + 1) steps <;> rfl

namespace DataPath

/-- The place that a data path replaces. -/
def place (d : DataPath) : List String := d.steps.map Step.key

theorem applyTo_eq (d : DataPath) (base : RouteTree) :
    d.applyTo base = (base.checkSteps 0 d.steps).map fun _ => base.put d.place d.patch.tree :=
  RouteTree.graft_eq base d.patch.tree 0 d.steps

theorem applyTo_eq_ok_iff (d : DataPath) (base result : RouteTree) :
    d.applyTo base = .ok result ↔
      base.Follows d.steps ∧ result = base.put d.place d.patch.tree := by
  rw [applyTo_eq, map_eq_ok_iff, ← RouteTree.checkSteps_eq_ok_iff base 0]
  constructor
  · rintro ⟨_, taken, rfl⟩
    exact ⟨taken, rfl⟩
  · rintro ⟨taken, rfl⟩
    exact ⟨(), taken, rfl⟩

/-- A data path fails as its steps do. -/
theorem applyTo_eq_error_iff (d : DataPath) (base : RouteTree) (fault : Fault) :
    d.applyTo base = .error fault ↔ base.checkSteps 0 d.steps = .error fault := by
  rw [applyTo_eq, map_eq_error_iff]

/-- A data path applies to a tree when its steps can be taken there. -/
theorem applies_iff (d : DataPath) (base : RouteTree) :
    (∃ result, d.applyTo base = .ok result) ↔ base.Follows d.steps := by
  simp [applyTo_eq_ok_iff]

theorem applyAll_cons_eq_ok_iff (d : DataPath) (rest : List DataPath) (base result : RouteTree) :
    applyAll (d :: rest) base = .ok result ↔
      base.Follows d.steps ∧ applyAll rest (base.put d.place d.patch.tree) = .ok result := by
  rw [applyAll, bind_eq_ok_iff]
  constructor
  · intro holds
    rcases holds with ⟨_, applied, all⟩
    obtain ⟨follows, rfl⟩ := (applyTo_eq_ok_iff ..).1 applied
    exact ⟨follows, all⟩
  · intro holds
    rcases holds with ⟨follows, all⟩
    exact ⟨_, (applyTo_eq_ok_iff ..).2 ⟨follows, rfl⟩, all⟩

/-- The tree with the trees of the data paths put at their places, one after another. -/
def putAll (ds : List DataPath) (base : RouteTree) : RouteTree :=
  ds.foldl (fun t d => t.put d.place d.patch.tree) base

theorem eq_putAll_of_applyAll {ds : List DataPath} {base result : RouteTree}
    (applied : applyAll ds base = .ok result) : result = putAll ds base := by
  induction ds generalizing base with
  | nil => exact (Except.ok.inj applied).symm
  | cons d rest ih => exact ih ((applyAll_cons_eq_ok_iff ..).1 applied).2

theorem applyAll_append_eq_ok_iff (ds es : List DataPath) (base result : RouteTree) :
    applyAll (ds ++ es) base = .ok result ↔
      ∃ tree, applyAll ds base = .ok tree ∧ applyAll es tree = .ok result := by
  induction ds generalizing base with
  | nil => simp [applyAll]
  | cons d rest ih => simp [applyAll_cons_eq_ok_iff, ih, and_assoc]

/-- Applying data paths in turn fails as the first one does that leads nowhere when its turn
comes. -/
theorem applyAll_eq_error_iff (ds : List DataPath) (base : RouteTree) (fault : Fault) :
    applyAll ds base = .error fault ↔ ∃ front d back tree, ds = front ++ d :: back ∧
      applyAll front base = .ok tree ∧ d.applyTo tree = .error fault := by
  constructor
  · intro fails
    induction ds generalizing base with
    | nil => cases fails
    | cons d rest ih =>
      rw [applyAll, bind_eq_error_iff] at fails
      rcases fails with first | ⟨next, applied, others⟩
      · exact ⟨[], d, rest, base, rfl, rfl, first⟩
      · obtain ⟨front, e, back, tree, rfl, before, last⟩ := ih next others
        refine ⟨d :: front, e, back, tree, rfl, ?_, last⟩
        rw [applyAll, applied, ok_bind, before]
  · rintro ⟨front, d, back, tree, rfl, before, last⟩
    induction front generalizing base with
    | nil =>
      cases before
      rw [List.nil_append, applyAll, last]
      rfl
    | cons first front ih =>
      rw [applyAll, bind_eq_ok_iff] at before
      obtain ⟨next, applied, before⟩ := before
      rw [List.cons_append, applyAll, applied, ok_bind]
      exact ih next before

/-- What survives the replacement by each data path where its steps can be taken survives all. -/
theorem applyAll_induction {P : RouteTree → Prop} {ds : List DataPath} {base result : RouteTree}
    (applied : applyAll ds base = .ok result) (start : P base)
    (step : ∀ base, ∀ d ∈ ds, P base → base.Follows d.steps →
      P (base.put d.place d.patch.tree)) : P result := by
  induction ds generalizing base with
  | nil =>
    cases applied
    exact start
  | cons d rest ih =>
    obtain ⟨follows, applied⟩ := (applyAll_cons_eq_ok_iff ..).1 applied
    apply ih applied (step base d List.mem_cons_self start follows)
    intro base e member
    exact step base e (List.mem_cons_of_mem d member)

/-! ### Separate places -/

/-- Neither of two data paths replaces the place of the other or one below it. -/
def Separate (d e : DataPath) : Prop := ¬d.place <+: e.place ∧ ¬e.place <+: d.place

theorem Separate.symm {d e : DataPath} (separate : d.Separate e) : e.Separate d :=
  And.symm separate

/-- What is below a place is not below a separate one. -/
theorem Separate.not_below {d e : DataPath} (separate : d.Separate e) (more : List String) :
    ¬d.place <+: e.place ++ more := by
  intro below
  rcases List.prefix_or_prefix_of_prefix below (List.prefix_append e.place more) with h | h
  · exact separate.1 h
  · exact separate.2 h

theorem Separate.not_above {d e : DataPath} (separate : d.Separate e) (more : List String) :
    ¬e.place ++ more <+: d.place :=
  fun above => separate.2 ((List.prefix_append e.place more).trans above)

/-- Places that part at a node are separate. -/
theorem separate_of_ne {d e : DataPath} {front back back' : List String} {key key' : String}
    (different : key ≠ key') (first : d.place = front ++ key :: back)
    (second : e.place = front ++ key' :: back') : d.Separate e := by
  rw [Separate, first, second]
  exact ⟨not_prefix_of_ne different _ _ _, not_prefix_of_ne different.symm _ _ _⟩

/-- The steps of a data path lead as far after a separate one as before it. -/
theorem Separate.checkSteps_put {d e : DataPath} (separate : d.Separate e) (base : RouteTree) :
    (base.put d.place d.patch.tree).checkSteps 0 e.steps = base.checkSteps 0 e.steps :=
  RouteTree.checkSteps_put base d.patch.tree 0 fun below => absurd below separate.1

theorem Separate.follows_put_iff {d e : DataPath} (separate : d.Separate e) (base : RouteTree) :
    (base.put d.place d.patch.tree).Follows e.steps ↔ base.Follows e.steps := by
  rw [← RouteTree.checkSteps_eq_ok_iff _ 0, separate.checkSteps_put, RouteTree.checkSteps_eq_ok_iff]

section Separate

variable {ds : List DataPath}

/-- Separate data paths are applied in turn by taking the steps of each in the tree from which one
begins, and then putting all trees at their places. -/
theorem applyAll_eq (separate : ds.Pairwise Separate) (base : RouteTree) :
    applyAll ds base =
      (forM ds fun d => base.checkSteps 0 d.steps).map fun _ => putAll ds base := by
  induction ds generalizing base with
  | nil => rfl
  | cons d rest ih =>
    obtain ⟨apart, separate⟩ := List.pairwise_cons.1 separate
    have others : (forM rest fun e => (base.put d.place d.patch.tree).checkSteps 0 e.steps) =
        forM rest fun e => base.checkSteps 0 e.steps :=
      forM_congr fun e member => (apart e member).checkSteps_put base
    rw [applyAll, applyTo_eq, bind_of_map, List.forM_cons, map_bind]
    simp only [ih separate, others]
    rfl

/-- Separate data paths that apply alone apply in turn. -/
theorem applyAll_of_separate {base : RouteTree} (separate : ds.Pairwise Separate)
    (follows : ∀ d ∈ ds, base.Follows d.steps) : applyAll ds base = .ok (putAll ds base) := by
  have taken := (forM_eq_ok_iff (fun d => base.checkSteps 0 d.steps) ds).2 fun d member =>
    (RouteTree.checkSteps_eq_ok_iff base 0 d.steps).2 (follows d member)
  rw [applyAll_eq separate, taken, map_ok]

/-- A node that is below none of the places keeps all but what is in its slots. -/
theorem place?_putAll_of_not_below (base : RouteTree) {keys : List String}
    (notBelow : ∀ d ∈ ds, ¬d.place <+: keys) :
    Option.Rel RouteTree.AlikeInOrder ((putAll ds base).place? keys) (base.place? keys) := by
  induction ds generalizing base with
  | nil =>
    rw [putAll, List.foldl_nil]
    exact RouteTree.AlikeInOrder.rel_refl (base.place? keys)
  | cons d rest ih =>
    have first := RouteTree.place?_put_of_not_below base d.patch.tree
      (notBelow d List.mem_cons_self)
    have others := ih (base.put d.place d.patch.tree) fun e member =>
      notBelow e (List.mem_cons_of_mem d member)
    exact RouteTree.AlikeInOrder.rel_trans others first

private theorem place?_putAll_of_apart (base : RouteTree) {keys : List String}
    (apart : ∀ d ∈ ds, ¬d.place <+: keys ∧ ¬keys <+: d.place) :
    (putAll ds base).place? keys = base.place? keys := by
  induction ds generalizing base with
  | nil => rfl
  | cons d rest ih =>
    have first := apart d List.mem_cons_self
    have others := ih (base.put d.place d.patch.tree) fun e member =>
      apart e (List.mem_cons_of_mem d member)
    exact others.trans (RouteTree.place?_put_of_apart base d.patch.tree first.1 first.2)

/-- The tree of a data path is at its place, unless a later one gets in its way. -/
theorem place?_of_applyAll {front back : List DataPath} {d : DataPath} {base result : RouteTree}
    (applied : applyAll (front ++ d :: back) base = .ok result)
    (separate : ∀ e ∈ back, d.Separate e) : result.place? d.place = some d.patch.tree := by
  obtain ⟨tree, -, applied⟩ := (applyAll_append_eq_ok_iff ..).1 applied
  obtain ⟨follows, applied⟩ := (applyAll_cons_eq_ok_iff ..).1 applied
  obtain ⟨old, found⟩ := follows.exists_place?
  have others := place?_putAll_of_apart (tree.put d.place d.patch.tree)
    fun e member => (separate e member).symm
  rw [eq_putAll_of_applyAll applied, others]
  exact RouteTree.place?_put_self d.patch.tree found

/-- At and below the place of a data path stands its tree. -/
theorem place?_putAll_append {base : RouteTree} (separate : ds.Pairwise Separate)
    (follows : ∀ d ∈ ds, base.Follows d.steps) {d : DataPath} (member : d ∈ ds)
    (more : List String) :
    (putAll ds base).place? (d.place ++ more) = d.patch.tree.place? more := by
  induction ds generalizing base with
  | nil => exact absurd member List.not_mem_nil
  | cons first rest ih =>
    obtain ⟨apart, separate⟩ := List.pairwise_cons.1 separate
    rcases List.mem_cons.1 member with rfl | member
    · obtain ⟨old, found⟩ := (follows d List.mem_cons_self).exists_place?
      have others : ∀ e ∈ rest, ¬e.place <+: d.place ++ more ∧ ¬d.place ++ more <+: e.place := by
        intro e member
        have separate := (apart e member).symm
        exact ⟨separate.not_below more, separate.not_above more⟩
      have kept := place?_putAll_of_apart (base.put d.place d.patch.tree) others
      exact kept.trans (RouteTree.place?_put_append d.patch.tree found more)
    · apply ih separate _ member
      intro e member
      exact ((apart e member).follows_put_iff base).2
        (follows e (List.mem_cons_of_mem first member))

theorem place?_putAll_self {base : RouteTree} (separate : ds.Pairwise Separate)
    (follows : ∀ d ∈ ds, base.Follows d.steps) {d : DataPath} (member : d ∈ ds) :
    (putAll ds base).place? d.place = some d.patch.tree := by
  simpa using place?_putAll_append separate follows member []

/-- Data paths whose trees are at their places change nothing. -/
theorem putAll_eq_self {t : RouteTree} (there : ∀ d ∈ ds, t.place? d.place = some d.patch.tree) :
    putAll ds t = t := by
  induction ds with
  | nil => rfl
  | cons d rest ih =>
    rw [putAll, List.foldl_cons, RouteTree.put_eq_self (there d List.mem_cons_self)]
    exact ih fun e member => there e (List.mem_cons_of_mem d member)

/-- The order of separate data paths does not matter. -/
theorem putAll_perm {es : List DataPath} (perm : ds.Perm es) (separate : ds.Pairwise Separate)
    (base : RouteTree) : putAll ds base = putAll es base := by
  induction perm generalizing base with
  | nil => rfl
  | cons d _ ih => exact ih (List.pairwise_cons.1 separate).2 (base.put d.place d.patch.tree)
  | swap d e rest =>
    have apart := (List.pairwise_cons.1 separate).1 d List.mem_cons_self
    simp only [putAll, List.foldl_cons]
    rw [RouteTree.put_comm base e.patch.tree d.patch.tree apart.1 apart.2]
  | trans first _ ih ih' =>
    rw [ih separate, ih' ((first.pairwise_iff Separate.symm).1 separate)]

end Separate

end DataPath

theorem FlightData.applyTo_paths_eq (ds : List DataPath) (base : RouteTree) :
    (FlightData.paths ds).applyTo base = (DataPath.applyAll ds base).map fun tree =>
      .patched tree (ds.map DataPath.placedContent) := by
  rw [applyTo]
  cases DataPath.applyAll ds base <;> rfl

/-- Data paths are applied in full, or there is no outcome. -/
theorem FlightData.applyTo_paths_eq_ok_iff (ds : List DataPath) (base : RouteTree)
    (outcome : Navigation) :
    (FlightData.paths ds).applyTo base = .ok outcome ↔
      ∃ tree, DataPath.applyAll ds base = .ok tree ∧
        outcome = .patched tree (ds.map DataPath.placedContent) := by
  rw [applyTo_paths_eq, map_eq_ok_iff]
  simp only [eq_comm]

end RouteSync
