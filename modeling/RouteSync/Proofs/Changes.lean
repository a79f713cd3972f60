import RouteSync.Exchange.Server
import RouteSync.Proofs.Patching

/-!
# What a walk of two trees emits

A walk emits the topmost nodes that must be rendered, each as a data path from the root.
`ContentSource.Emits` is the walk as a derivation, without the calls it makes. From it follow the
three facts by which the data paths lead from one tree to the next: each brings a node of the next
tree to the place where it belongs, none gets in the way of another, and what they leave alone is
alike in both trees. A server walks trees within its limits only, or renders the next one whole.
-/

namespace RouteSync

namespace Rendering

variable {α β : Type}

theorem bind_of_eq_ok {first : Rendering α} {a : α} (found : first.outcome = .ok a)
    (second : α → Rendering β) :
    (first >>= second) = ⟨first.calls ++ (second a).calls, (second a).outcome⟩ := by
  have unfolded : (first >>= second) = first.andThen second := rfl
  rw [unfolded, andThen, found]

theorem bind_of_eq_error {first : Rendering α} {fault : ExchangeFault}
    (found : first.outcome = .error fault) (second : α → Rendering β) :
    (first >>= second) = ⟨first.calls, .error fault⟩ := by
  have unfolded : (first >>= second) = first.andThen second := rfl
  rw [unfolded, andThen, found]

theorem bind_outcome_eq_ok_iff (first : Rendering α) (second : α → Rendering β) (b : β) :
    (first >>= second).outcome = .ok b ↔
      ∃ a, first.outcome = .ok a ∧ (second a).outcome = .ok b := by
  cases found : first.outcome with
  | error fault => simp [bind_of_eq_error found]
  | ok a => simp [bind_of_eq_ok found]

@[simp] theorem pure_outcome (a : α) : (pure a : Rendering α).outcome = .ok a := rfl

/-- What is gathered is what each element gives, one after another. -/
theorem gather_outcome_eq_ok {f : α → Rendering (List β)} {xs : List α} {ys : List β}
    (gathered : (gather f xs).outcome = .ok ys) :
    ∃ piece : α → List β, (∀ a ∈ xs, (f a).outcome = .ok (piece a)) ∧ ys = xs.flatMap piece := by
  refine ⟨fun a => (f a).outcome.toOption.getD [], ?_⟩
  induction xs generalizing ys with
  | nil =>
    cases gathered
    simp
  | cons a rest ih =>
    rw [gather] at gathered
    simp only [bind_outcome_eq_ok_iff, pure_outcome] at gathered
    obtain ⟨front, first, back, others, equal⟩ := gathered
    cases equal
    obtain ⟨each, all⟩ := ih others
    simp only [List.forall_mem_cons, List.flatMap_cons]
    refine ⟨⟨?_, each⟩, ?_⟩
    · rw [first]
      rfl
    · rw [← all, first]
      rfl

/-- What each element gives can be gathered. -/
theorem exists_gather {f : α → Rendering (List β)} {xs : List α}
    (each : ∀ a ∈ xs, ∃ ys, (f a).outcome = .ok ys) : ∃ ys, (gather f xs).outcome = .ok ys := by
  induction xs with
  | nil => exact ⟨[], rfl⟩
  | cons a rest ih =>
    obtain ⟨⟨front, first⟩, others⟩ := List.forall_mem_cons.1 each
    obtain ⟨back, gathered⟩ := ih others
    refine ⟨front ++ back, ?_⟩
    simp only [gather, bind_outcome_eq_ok_iff, pure_outcome]
    exact ⟨front, first, back, gathered, rfl⟩

end Rendering

namespace ContentSource

variable {source : ContentSource} {mode : RenderMode}

/-- What need not be rendered: a node that is alike in both trees, is not marked to be fetched again
and is not asked for by the source. -/
structure Unchanged (source : ContentSource) (prev next : RouteTree) (path : SegmentPath) :
    Prop where
  alike : prev.Alike next
  unmarked : next.refetch = false
  unasked : source.needsRender path next = false

theorem unchanged_iff (prev next : RouteTree) (path : SegmentPath) :
    source.Unchanged prev next path ↔ prev.sameShape next = true ∧ next.refetch = false ∧
      source.needsRender path next = false := by
  rw [RouteTree.sameShape_iff]
  exact ⟨fun h => ⟨h.alike, h.unmarked, h.unasked⟩, fun h => ⟨h.1, h.2.1, h.2.2⟩⟩

instance (source : ContentSource) (prev next : RouteTree) (path : SegmentPath) :
    Decidable (source.Unchanged prev next path) :=
  decidable_of_iff' _ (unchanged_iff prev next path)

theorem isChanged_eq_ok_iff (prev next : RouteTree) (path : SegmentPath) (changed : Bool) :
    (source.isChanged prev next path).outcome = .ok changed ↔
      (changed = false ↔ source.Unchanged prev next path) := by
  rw [unchanged_iff, isChanged]
  by_cases decides : (prev.sameShape next && !next.refetch) = true
  · rw [if_pos decides]
    have decided : prev.sameShape next = true ∧ next.refetch = false := by simpa using decides
    cases changed <;> simp [askNeedsRender, decided]
  · rw [if_neg decides]
    have decided : ¬(prev.sameShape next = true ∧ next.refetch = false) := by simpa using decides
    rw [← and_assoc, eq_false decided, false_and]
    cases changed <;> simp

theorem renderAt_eq_ok_iff (steps : List Step) (node : RouteTree) (d : DataPath) :
    (source.renderAt steps node mode).outcome = .ok d ↔
      ∃ content, source.load ⟨steps, node.segment⟩ node mode = .ok content ∧
        d = ⟨steps, ⟨node.segment, node, content.content, content.head⟩⟩ := by
  rw [renderAt, Rendering.bind_outcome_eq_ok_iff]
  simp only [askLoad, mapError_eq_ok_iff]
  constructor
  · intro holds
    rcases holds with ⟨content, loads, equal⟩
    cases equal
    exact ⟨content, loads, rfl⟩
  · intro holds
    rcases holds with ⟨content, loads, rfl⟩
    exact ⟨content, loads, rfl⟩

/-- The data paths that a walk emits: one for a node that is rendered, or else those for the slots
of the node, in order. -/
inductive Emits (source : ContentSource) (mode : RenderMode) :
    RouteTree → RouteTree → List Step → List DataPath → Prop
  | node {next prev : RouteTree} {steps : List Step} {content : Content}
      (changed : ¬source.Unchanged prev next ⟨steps, next.segment⟩)
      (loads : source.load ⟨steps, next.segment⟩ next mode = .ok content) :
      Emits source mode next prev steps
        [⟨steps, ⟨next.segment, next, content.content, content.head⟩⟩]
  | slots {next prev : RouteTree} {steps : List Step} {piece : String → List DataPath}
      (unchanged : source.Unchanged prev next ⟨steps, next.segment⟩)
      (children : ∀ key child other, next.slots.get? key = some child →
        prev.slots.get? key = some other →
          Emits source mode child other (steps ++ [⟨next.segment, key⟩]) (piece key)) :
      Emits source mode next prev steps (next.slots.keys.flatMap piece)

private theorem exists_piece {α : Type} {keys : List String}
    (pieces : { key // key ∈ keys } → List α) :
    ∃ piece : String → List α, (∀ key, piece key.1 = pieces key) ∧
      keys.attach.flatMap pieces = keys.flatMap piece := by
  let piece (key : String) : List α := if member : key ∈ keys then pieces ⟨key, member⟩ else []
  have same (key : String) (member : key ∈ keys) : pieces ⟨key, member⟩ = piece key := by
    simp only [piece, dif_pos member]
  refine ⟨piece, fun key => (same key.1 key.2).symm, ?_⟩
  rw [List.flatMap_subtype same, List.unattach_attach]

/-- One step of a walk. -/
theorem changesFrom_eq (next prev : RouteTree) (steps : List Step) :
    source.changesFrom mode next prev steps = (do
      if ← source.isChanged prev next ⟨steps, next.segment⟩ then
        let path ← source.renderAt steps next mode
        pure [path]
      else
        next.slots.keys.attach |> Rendering.gather fun key =>
          match prev.slots.get? key.1 with
          | some prevChild =>
            source.changesFrom mode (next.slots.value key.1 key.2) prevChild
              (steps ++ [⟨next.segment, key.1⟩])
          | none => pure []) := by
  obtain ⟨_, ⟨_, _, _⟩, _, _, _⟩ := next
  rfl

/-- A walk emits its data paths by a derivation. -/
theorem emits_of_changesFrom {next prev : RouteTree} {steps : List Step} {ds : List DataPath}
    (walked : (source.changesFrom mode next prev steps).outcome = .ok ds) :
    Emits source mode next prev steps ds := by
  induction next using RouteTree.induction generalizing prev steps ds with
  | node next ih =>
    rw [changesFrom_eq, Rendering.bind_outcome_eq_ok_iff] at walked
    obtain ⟨changed, decided, walked⟩ := walked
    rw [isChanged_eq_ok_iff] at decided
    cases changed with
    | true =>
      rw [if_pos rfl, Rendering.bind_outcome_eq_ok_iff] at walked
      obtain ⟨d, rendered, equal⟩ := walked
      obtain ⟨content, loads, rfl⟩ := (renderAt_eq_ok_iff ..).1 rendered
      cases equal
      exact .node (fun unchanged => Bool.noConfusion (decided.2 unchanged)) loads
    | false =>
      rw [if_neg Bool.false_ne_true] at walked
      obtain ⟨pieces, each, rfl⟩ := Rendering.gather_outcome_eq_ok walked
      obtain ⟨piece, same, all⟩ := exists_piece pieces
      rw [all]
      refine .slots (decided.1 rfl) ?_
      intro key c other found found'
      have member := (Dict.mem_keys_iff _ key).2 ⟨c, found⟩
      have walk := each ⟨key, member⟩ (List.mem_attach ..)
      rw [found', ← same] at walk
      rw [← Dict.value_eq_of_get? next.slots member found]
      exact ih key member walk

/-! ### What is emitted -/

/-- A data path brings a node of the next tree, with what the source renders for it, to the end of
steps that can be taken in the previous tree. -/
structure Brings (source : ContentSource) (mode : RenderMode) (next prev : RouteTree)
    (steps : List Step) (d : DataPath) : Prop where
  node : next.descend? steps = some d.patch.tree
  follows : prev.Follows steps
  own : d.patch.segment = d.patch.tree.segment
  loads : source.load d.path d.patch.tree mode = .ok ⟨d.patch.content, d.patch.head⟩

namespace Emits

variable {next prev : RouteTree} {steps : List Step} {ds : List DataPath}

/-- A data path from a slot that both nodes have is one from the nodes themselves. -/
theorem brings_cons {key : String} {child other : RouteTree} {more : List Step} {d : DataPath}
    (alike : prev.Alike next) (found : next.slots.get? key = some child)
    (found' : prev.slots.get? key = some other) (brings : Brings source mode child other more d) :
    Brings source mode next prev (⟨next.segment, key⟩ :: more) d := by
  refine ⟨?_, ?_, brings.own, brings.loads⟩
  · rw [RouteTree.descend?, if_pos (Segment.matchesSegment_refl _), found]
    exact brings.node
  · rw [RouteTree.follows_cons_iff, alike.segment]
    exact ⟨Segment.matchesSegment_refl _, other, found', brings.follows⟩

/-- Every data path continues the steps at which the walk began. -/
theorem exists_brings (emits : Emits source mode next prev steps ds) :
    ∀ d ∈ ds, ∃ more, d.steps = steps ++ more ∧ Brings source mode next prev more d := by
  induction emits with
  | node changed loads =>
    intro d member
    rw [List.mem_singleton] at member
    subst member
    exact ⟨[], (List.append_nil _).symm, rfl, rfl, rfl, loads⟩
  | @slots next prev steps piece unchanged _ ih =>
    intro d member
    obtain ⟨key, inside, member⟩ := List.mem_flatMap.1 member
    obtain ⟨other, child, found', found⟩ := unchanged.alike.exists_get? inside
    obtain ⟨more, continued, brings⟩ := ih key child other found found' d member
    refine ⟨⟨next.segment, key⟩ :: more, ?_, brings_cons unchanged.alike found found' brings⟩
    rw [continued, List.append_assoc]
    rfl

/-- No data path of a walk gets in the way of another: where the walk divides, their places go
through different slots. -/
theorem pairwise_separate (emits : Emits source mode next prev steps ds) :
    ds.Pairwise DataPath.Separate := by
  induction emits with
  | node changed loads => exact List.pairwise_singleton _ _
  | @slots next prev steps piece unchanged children ih =>
    rw [List.pairwise_flatMap]
    constructor
    · intro key inside
      obtain ⟨other, child, found', found⟩ := unchanged.alike.exists_get? inside
      exact ih key child other found found'
    · have through : ∀ key ∈ next.slots.keys, ∀ d ∈ piece key, ∃ back,
          d.place = steps.map Step.key ++ key :: back := by
        intro key inside d member
        obtain ⟨other, child, found', found⟩ := unchanged.alike.exists_get? inside
        obtain ⟨more, continued, -⟩ :=
          (children key child other found found').exists_brings d member
        exact ⟨more.map Step.key, by simp [DataPath.place, continued]⟩
      refine List.Pairwise.imp_of_mem ?_ next.slots.nodup
      intro key key' inside inside' different d member e member'
      obtain ⟨back, first⟩ := through key inside d member
      obtain ⟨back', second⟩ := through key' inside' e member'
      exact DataPath.separate_of_ne different first second

/-- What a walk leaves alone is alike in both trees. -/
theorem rel_place? (emits : Emits source mode next prev steps ds) {keys : List String}
    (outside : ∀ d ∈ ds, ¬d.place <+: steps.map Step.key ++ keys) :
    Option.Rel RouteTree.Alike (prev.place? keys) (next.place? keys) := by
  induction emits generalizing keys with
  | node changed loads =>
    exact absurd (List.prefix_append _ keys) (outside _ (List.mem_singleton_self _))
  | @slots next prev steps piece unchanged children ih =>
    cases keys with
    | nil => exact .some unchanged.alike
    | cons key keys =>
      rw [RouteTree.place?_cons, RouteTree.place?_cons]
      rcases unchanged.alike.get?_cases key with
        ⟨missing', missing⟩ | ⟨other, child, found', found⟩
      · rw [missing, missing']
        exact .none
      · rw [found, found']
        apply ih key child other found found'
        intro d member
        have inside := (Dict.mem_keys_iff ..).2 ⟨child, found⟩
        simpa using outside d (List.mem_flatMap.2 ⟨key, inside, member⟩)

end Emits

end ContentSource

/-! ### A server -/

namespace Server

variable {server : Server} {next : RouteTree} {mode : RenderMode}

theorem renderPaths_of_exceeds {fault : Fault}
    (exceeds : next.checkWithin server.options.limits = .error fault) (prev : Option RouteTree) :
    server.renderPaths prev next mode = ⟨[], .error (.route fault)⟩ := by
  have refused : (server.checkLimits next).outcome = .error (.route fault) := by
    rw [checkLimits, Rendering.ofExcept, exceeds]
    rfl
  exact Rendering.bind_of_eq_error refused _

section Passes

variable (passes : next.checkWithin server.options.limits = .ok ())

include passes

theorem checkLimits_outcome : (server.checkLimits next).outcome = .ok () :=
  (mapError_eq_ok_iff ..).2 passes

theorem renderPaths_some (prev : RouteTree) :
    server.renderPaths (some prev) next mode = server.source.changes prev next mode := by
  rw [renderPaths, Rendering.bind_of_eq_ok (checkLimits_outcome passes)]
  rfl

theorem renderPaths_none :
    server.renderPaths none next mode =
      server.source.renderAt [] next mode >>= fun path => pure [path] := by
  rw [renderPaths, Rendering.bind_of_eq_ok (checkLimits_outcome passes)]
  rfl

end Passes

variable {ds : List DataPath}

theorem checkWithin_of_renderPaths {prev : Option RouteTree}
    (rendered : (server.renderPaths prev next mode).outcome = .ok ds) :
    next.checkWithin server.options.limits = .ok () := by
  cases checked : next.checkWithin server.options.limits with
  | ok => rfl
  | error fault =>
    rw [renderPaths_of_exceeds checked] at rendered
    cases rendered

/-- What is rendered for a client with a tree is what the walk from that tree emits. -/
theorem renderPaths_some_eq_ok_iff (prev : RouteTree) :
    (server.renderPaths (some prev) next mode).outcome = .ok ds ↔
      next.checkWithin server.options.limits = .ok () ∧
        (server.source.changes prev next mode).outcome = .ok ds := by
  constructor
  · intro rendered
    have passes := checkWithin_of_renderPaths rendered
    exact ⟨passes, renderPaths_some passes prev ▸ rendered⟩
  · rintro ⟨passes, walked⟩
    rwa [renderPaths_some passes]

/-- What is rendered for a client without a tree is the whole of the next one. -/
theorem renderPaths_none_eq_ok_iff :
    (server.renderPaths none next mode).outcome = .ok ds ↔
      next.checkWithin server.options.limits = .ok () ∧
        ∃ content, server.source.load ⟨[], next.segment⟩ next mode = .ok content ∧
          ds = [⟨[], ⟨next.segment, next, content.content, content.head⟩⟩] := by
  constructor
  · intro rendered
    have passes := checkWithin_of_renderPaths rendered
    rw [renderPaths_none passes, Rendering.bind_outcome_eq_ok_iff] at rendered
    obtain ⟨d, loaded, equal⟩ := rendered
    obtain ⟨content, loads, rfl⟩ := (ContentSource.renderAt_eq_ok_iff ..).1 loaded
    cases equal
    exact ⟨passes, content, loads, rfl⟩
  · rintro ⟨passes, content, loads, rfl⟩
    rw [renderPaths_none passes, Rendering.bind_outcome_eq_ok_iff]
    exact ⟨_, (ContentSource.renderAt_eq_ok_iff ..).2 ⟨content, loads, rfl⟩, rfl⟩

end Server

end RouteSync
