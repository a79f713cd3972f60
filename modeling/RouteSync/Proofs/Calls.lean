import RouteSync.Proofs.Searching
import RouteSync.Proofs.Topmost

/-!
# The calls of a rendering

Which calls a server makes, and in what order, can be said without its walk. A node is called about
if both trees have its place and nothing above it must be rendered: it is rendered at once where the
trees differ or the next one is marked, and elsewhere the source is asked first. These calls, taken
over the next tree's places in depth-first order of slots, are the plan of a rendering, and a
rendering makes the calls of its plan in turn, up to the first one that fails.

No call is made twice. So nothing is lost by a source whose answers are determined by the call: one
that answers by what it was asked before answers each rendering like some source of that kind.
-/

namespace RouteSync

/-- The path of the node that a call is about. -/
def Call.path : Call → SegmentPath
  | .load path _ _ => path
  | .needsRender path _ => path

/-- The node that a call is about. -/
def Call.node : Call → RouteTree
  | .load _ node _ => node
  | .needsRender _ node => node

namespace ContentSource

/-- The reason for which a call fails. A question is always answered. -/
def failure? (source : ContentSource) : Call → Option String
  | .load path node mode =>
    match source.load path node mode with
    | .ok _ => none
    | .error reason => some reason
  | .needsRender .. => none

/-- A rendering makes the planned calls in turn: all of them, and then it succeeds, or those up to
the first that fails, and then it fails for the same reason. -/
inductive MakesInTurn (source : ContentSource) {α : Type} (planned : List Call) (r : Rendering α) :
    Prop
  | all (succeed : ∀ call ∈ planned, source.failure? call = none) (made : r.calls = planned)
      (outcome : ∃ a, r.outcome = .ok a)
  | upTo (front back : List Call) (call : Call) (reason : String)
      (cut : planned = front ++ call :: back)
      (succeed : ∀ call ∈ front, source.failure? call = none)
      (fails : source.failure? call = some reason) (made : r.calls = front ++ [call])
      (outcome : r.outcome = .error (.contentLoad reason))

namespace MakesInTurn

variable {source : ContentSource} {α β : Type} {planned more : List Call}

theorem pure (source : ContentSource) (a : α) :
    source.MakesInTurn [] (Pure.pure a : Rendering α) :=
  .all (by simp) rfl ⟨a, rfl⟩

theorem askNeedsRender (source : ContentSource) (path : SegmentPath) (node : RouteTree) :
    source.MakesInTurn [.needsRender path node] (source.askNeedsRender path node) :=
  .all (by simp [failure?]) rfl ⟨_, rfl⟩

theorem askLoad (source : ContentSource) (path : SegmentPath) (node : RouteTree)
    (mode : RenderMode) :
    source.MakesInTurn [.load path node mode] (source.askLoad path node mode) := by
  cases loaded : source.load path node mode with
  | ok content =>
    refine .all ?_ rfl ⟨content, ?_⟩
    · simp [failure?, loaded]
    · rw [ContentSource.askLoad, loaded]
      rfl
  | error reason =>
    refine .upTo [] [] _ reason rfl (by simp) ?_ rfl ?_
    · rw [failure?, loaded]
    · rw [ContentSource.askLoad, loaded]
      rfl

/-- One rendering after another makes the calls of the one and then those of the other. -/
theorem bind {first : Rendering α} {second : α → Rendering β}
    (makes : source.MakesInTurn planned first)
    (makes' : ∀ a, first.outcome = .ok a → source.MakesInTurn more (second a)) :
    source.MakesInTurn (planned ++ more) (first >>= second) := by
  cases makes with
  | all succeed made outcome =>
    obtain ⟨a, outcome⟩ := outcome
    rw [Rendering.bind_of_eq_ok outcome, made]
    cases makes' a outcome with
    | all succeed' made' outcome' =>
      refine .all ?_ (by rw [made']) outcome'
      intro call member
      exact (List.mem_append.1 member).elim (succeed call) (succeed' call)
    | upTo front back call reason cut succeed' fails made' outcome' =>
      refine .upTo (planned ++ front) back call reason ?_ ?_ fails ?_ outcome'
      · rw [cut, List.append_assoc]
      · intro call member
        exact (List.mem_append.1 member).elim (succeed call) (succeed' call)
      · rw [made', List.append_assoc]
  | upTo front back call reason cut succeed fails made outcome =>
    rw [Rendering.bind_of_eq_error outcome]
    refine .upTo front (back ++ more) call reason ?_ succeed fails made rfl
    rw [cut, List.append_assoc, List.cons_append]

theorem gather {f : α → Rendering (List β)} {plan : α → List Call} {xs : List α}
    (each : ∀ a ∈ xs, source.MakesInTurn (plan a) (f a)) :
    source.MakesInTurn (xs.flatMap plan) (Rendering.gather f xs) := by
  induction xs with
  | nil => exact pure source []
  | cons a rest ih =>
    obtain ⟨first, others⟩ := List.forall_mem_cons.1 each
    rw [List.flatMap_cons, Rendering.gather, ← List.append_nil (rest.flatMap plan)]
    apply bind first
    intro front _
    apply bind (ih others)
    intro back _
    exact pure source (front ++ back)

/-- What is made are the first calls of the plan. -/
theorem isPrefix_calls {r : Rendering α} (makes : source.MakesInTurn planned r) :
    r.calls <+: planned := by
  cases makes with
  | all _ made _ => exact made ▸ List.prefix_rfl
  | upTo front back call _ cut _ _ made _ =>
    rw [made, cut]
    exact ⟨back, by simp⟩

end MakesInTurn

/-! ### The plan -/

/-- The calls about a node that stands where `old` stood: one to render it if it must be rendered in
any case, and otherwise a question, with the call to render it if the answer is yes. -/
def callsFor (source : ContentSource) (mode : RenderMode) (old node : RouteTree)
    (path : SegmentPath) : List Call :=
  if old.sameShape node && !node.refetch then
    .needsRender path node :: if source.needsRender path node then [.load path node mode] else []
  else [.load path node mode]

/-- The calls about what the next tree has at a place: none unless the place is reached. -/
def callsAt (source : ContentSource) (mode : RenderMode) (prev next : RouteTree)
    (above : List Step) (keys : List String) : List Call :=
  match prev.place? keys, next.located? above keys with
  | some old, some (path, node) =>
    if source.Reached prev next above keys then source.callsFor mode old node path else []
  | _, _ => []

/-- The calls about all that the next tree has, in depth-first order of slots. -/
def callsFrom (source : ContentSource) (mode : RenderMode) (prev next : RouteTree)
    (above : List Step) : List Call :=
  next.places.flatMap (source.callsAt mode prev next above)

variable {source : ContentSource} {mode : RenderMode} {prev next child other old node : RouteTree}
  {above : List Step} {path : SegmentPath} {key : String} {keys : List String} {call : Call}

theorem callsFor_of_unchanged (unchanged : source.Unchanged old node path) :
    source.callsFor mode old node path = [.needsRender path node] := by
  obtain ⟨alike, unmarked, unasked⟩ := (unchanged_iff ..).1 unchanged
  simp [callsFor, alike, unmarked, unasked]

theorem callsFor_of_changed (changed : ¬source.Unchanged old node path) :
    source.callsFor mode old node path =
      (if old.sameShape node && !node.refetch then [.needsRender path node] else []) ++
        [.load path node mode] := by
  rw [unchanged_iff] at changed
  rw [callsFor]
  by_cases decides : (old.sameShape node && !node.refetch) = true
  · obtain ⟨alike, unmarked⟩ : old.sameShape node = true ∧ node.refetch = false := by
      simpa using decides
    have asked : source.needsRender path node = true := by
      rw [← Bool.not_eq_false]
      exact fun unasked => changed ⟨alike, unmarked, unasked⟩
    simp [alike, unmarked, asked]
  · rw [if_neg decides, if_neg decides, List.nil_append]

theorem nodup_callsFor : (source.callsFor mode old node path).Nodup := by
  rw [callsFor]
  split
  · split <;> simp
  · simp

/-- The calls about a node are about its own path. -/
theorem about_of_mem_callsFor (member : call ∈ source.callsFor mode old node path) :
    call.path = path ∧ call.node = node := by
  rw [callsFor] at member
  split at member
  · rcases List.mem_cons.1 member with rfl | member
    · exact ⟨rfl, rfl⟩
    · split at member
      · rw [List.mem_singleton.1 member]
        exact ⟨rfl, rfl⟩
      · cases member
  · rw [List.mem_singleton.1 member]
    exact ⟨rfl, rfl⟩

theorem located?_of_mem_callsAt (member : call ∈ source.callsAt mode prev next above keys) :
    next.located? above keys = some (call.path, call.node) := by
  rw [callsAt] at member
  split at member
  · rename_i old path node _ located
    split at member
    · obtain ⟨rfl, rfl⟩ := about_of_mem_callsFor member
      exact located
    · cases member
  · cases member

theorem nodup_callsAt : (source.callsAt mode prev next above keys).Nodup := by
  rw [callsAt]
  split
  · split
    · exact nodup_callsFor
    · exact List.nodup_nil
  · exact List.nodup_nil

theorem mem_nodesFrom_of_mem_callsFrom (member : call ∈ source.callsFrom mode prev next above) :
    (call.path, call.node) ∈ next.nodesFrom above := by
  obtain ⟨keys, inside, member⟩ := List.mem_flatMap.1 member
  exact List.mem_filterMap.2 ⟨keys, inside, located?_of_mem_callsAt member⟩

/-- No call is planned twice. -/
theorem nodup_callsFrom : (source.callsFrom mode prev next above).Nodup := by
  refine List.nodup_flatMap.2 ⟨fun _ _ => nodup_callsAt, ?_⟩
  refine next.nodup_places.imp ?_
  intro keys keys' different call member member'
  have first := RouteTree.keys_of_located? (located?_of_mem_callsAt member)
  have second := RouteTree.keys_of_located? (located?_of_mem_callsAt member')
  exact different (List.append_cancel_left (first.symm.trans second))

/-! ### Through one slot -/

theorem callsAt_nil : source.callsAt mode prev next above [] =
    source.callsFor mode prev next ⟨above, next.segment⟩ := by
  simp [callsAt, RouteTree.located?, reached_nil]

/-- A place below the root is reached only if the root is unchanged. -/
theorem Reached.root (reached : source.Reached prev next above (key :: keys)) :
    source.Unchanged prev next ⟨above, next.segment⟩ :=
  unchangedAt_nil_iff.1 (reached [] List.nil_prefix (by simp))

/-- What is reached in the next tree stands where the previous tree has something, too. -/
theorem Reached.exists_place? (reached : source.Reached prev next above keys)
    (place : next.place? keys = some node) : ∃ old, prev.place? keys = some old := by
  induction keys generalizing prev next above with
  | nil => exact ⟨prev, rfl⟩
  | cons key keys ih =>
    obtain ⟨child, found, place⟩ := (RouteTree.place?_cons_eq_some_iff ..).1 place
    have inside := (Dict.mem_keys_iff ..).2 ⟨child, found⟩
    obtain ⟨other, _, found', -⟩ := reached.root.alike.exists_get? inside
    rw [RouteTree.place?_cons_of_get? found']
    exact ih ((reached_cons_iff found found' reached.root).1 reached) place

/-- Below a changed root, no call is made. -/
theorem callsFrom_of_changed (changed : ¬source.Unchanged prev next ⟨above, next.segment⟩) :
    source.callsFrom mode prev next above =
      source.callsFor mode prev next ⟨above, next.segment⟩ := by
  have none_below (key : String) (keys : List String) :
      source.callsAt mode prev next above (key :: keys) = [] := by
    have unreached : ¬source.Reached prev next above (key :: keys) :=
      fun reached => changed reached.root
    rw [callsAt]
    split
    · exact if_neg unreached
    · rfl
  rw [callsFrom, RouteTree.places_eq, List.flatMap_cons, callsAt_nil, List.flatMap_assoc]
  simp [List.flatMap_map, none_below]

/-- Below an unchanged root, the calls are those of one slot after another. -/
theorem callsFrom_of_unchanged (unchanged : source.Unchanged prev next ⟨above, next.segment⟩) :
    source.callsFrom mode prev next above =
      .needsRender ⟨above, next.segment⟩ next :: next.slots.keys.flatMap fun key =>
        (next.slots.get? key).elim [] fun child => (prev.slots.get? key).elim [] fun other =>
          source.callsFrom mode other child (above ++ [⟨next.segment, key⟩]) := by
  rw [callsFrom, RouteTree.places_eq, List.flatMap_cons, callsAt_nil,
    callsFor_of_unchanged unchanged, List.flatMap_assoc, List.singleton_append]
  congr 1
  apply List.flatMap_congr
  intro key inside
  obtain ⟨other, child, found', found⟩ := unchanged.alike.exists_get? inside
  rw [found, found', Option.elim_some, Option.elim_some, Option.elim_some, List.flatMap_map,
    callsFrom]
  congr 1
  funext keys
  rw [callsAt, callsAt, RouteTree.place?_cons_of_get? found',
    RouteTree.located?_cons_of_get? found]
  simp only [reached_cons_iff found found' unchanged]

/-! ### A walk -/

theorem makesInTurn_renderAt (steps : List Step) (node : RouteTree) :
    source.MakesInTurn [.load ⟨steps, node.segment⟩ node mode] (source.renderAt steps node mode) :=
  .bind (.askLoad ..) fun _ _ => .pure ..

theorem makesInTurn_isChanged (prev next : RouteTree) (path : SegmentPath) :
    source.MakesInTurn
      (if prev.sameShape next && !next.refetch then [.needsRender path next] else [])
      (source.isChanged prev next path) := by
  rw [isChanged]
  split
  · exact .askNeedsRender ..
  · exact .pure ..

/-- A walk makes its planned calls. -/
theorem makesInTurn_changesFrom (prev next : RouteTree) (above : List Step) :
    source.MakesInTurn (source.callsFrom mode prev next above)
      (source.changesFrom mode next prev above) := by
  induction next using RouteTree.slotInduction generalizing prev above with
  | node next ih =>
    have asks := source.makesInTurn_isChanged prev next ⟨above, next.segment⟩
    rw [changesFrom_eq]
    by_cases unchanged : source.Unchanged prev next ⟨above, next.segment⟩
    · have decides : (prev.sameShape next && !next.refetch) = true := by
        have parts := (unchanged_iff ..).1 unchanged
        simp [parts]
      rw [if_pos decides] at asks
      rw [callsFrom_of_unchanged unchanged, ← List.singleton_append]
      refine .bind asks fun changed decided => ?_
      obtain rfl : changed = false := ((isChanged_eq_ok_iff ..).1 decided).2 unchanged
      rw [if_neg Bool.false_ne_true, ← Dict.flatMap_attach next.slots fun key child =>
        (prev.slots.get? key).elim [] fun other =>
          source.callsFrom mode other child (above ++ [Step.mk next.segment key])]
      apply MakesInTurn.gather
      intro key _
      cases prev.slots.get? key.1 with
      | none => exact .pure ..
      | some other => exact ih key.1 _ (Dict.get?_value next.slots key.2) ..
    · rw [callsFrom_of_changed unchanged, callsFor_of_changed unchanged]
      refine .bind asks fun changed decided => ?_
      obtain rfl : changed = true := by
        have decided := (isChanged_eq_ok_iff ..).1 decided
        simpa [unchanged] using decided
      rw [if_pos rfl, ← List.append_nil [_]]
      exact .bind (makesInTurn_renderAt ..) fun _ _ => .pure ..

end ContentSource

/-! ### A server -/

namespace Server

/-- The calls by which a client that has `prev` is brought to `next`. -/
def plan (server : Server) (prev : Option RouteTree) (next : RouteTree) (mode : RenderMode) :
    List Call :=
  match prev with
  | some prev => server.source.callsFrom mode prev next []
  | none => [.load ⟨[], next.segment⟩ next mode]

variable (server : Server) (prev : Option RouteTree) (next : RouteTree) (mode : RenderMode)

theorem mem_nodes_of_mem_plan {call : Call} (member : call ∈ server.plan prev next mode) :
    (call.path, call.node) ∈ next.nodes := by
  cases prev with
  | some prev => exact ContentSource.mem_nodesFrom_of_mem_callsFrom member
  | none =>
    rw [List.mem_singleton.1 member, RouteTree.nodes, RouteTree.nodesFrom_eq]
    exact List.mem_cons_self

theorem nodup_plan : (server.plan prev next mode).Nodup := by
  cases prev with
  | some prev => exact ContentSource.nodup_callsFrom
  | none => exact List.nodup_singleton _

theorem makesInTurn_renderPaths (passes : next.checkWithin server.options.limits = .ok ()) :
    server.source.MakesInTurn (server.plan prev next mode) (server.renderPaths prev next mode) := by
  cases prev with
  | some prev =>
    rw [renderPaths_some passes]
    exact ContentSource.makesInTurn_changesFrom prev next []
  | none =>
    rw [renderPaths_none passes]
    exact .bind (ContentSource.makesInTurn_renderAt [] next) fun _ _ => .pure ..

/-- A server calls its source not at all for a tree that exceeds its limits, and fails as the check of
the limits does. For any other tree it makes the calls of its plan in turn, up to the first that
fails. No call is made twice, and the path of each leads to the node that it is about. What the plan
reaches in the next tree has a counterpart in the previous one. -/
theorem renderPaths_calls :
    (∀ fault, next.checkWithin server.options.limits = .error fault →
        server.renderPaths prev next mode = ⟨[], .error (.route fault)⟩) ∧
      (next.checkWithin server.options.limits = .ok () →
        server.source.MakesInTurn (server.plan prev next mode)
          (server.renderPaths prev next mode)) ∧
      (server.renderPaths prev next mode).calls.Nodup ∧
      (∀ call ∈ (server.renderPaths prev next mode).calls,
        next.nodeAt? call.path = some call.node) ∧
      ∀ old, prev = some old → ∀ keys node, next.place? keys = some node →
        server.source.Reached old next [] keys → ∃ other, old.place? keys = some other := by
  have planned : (server.renderPaths prev next mode).calls <+: server.plan prev next mode := by
    cases checked : next.checkWithin server.options.limits with
    | error fault =>
      rw [renderPaths_of_exceeds checked]
      exact List.nil_prefix
    | ok => exact (makesInTurn_renderPaths server prev next mode checked).isPrefix_calls
  refine ⟨fun _ exceeds => renderPaths_of_exceeds exceeds prev,
    makesInTurn_renderPaths server prev next mode,
    planned.sublist.nodup (nodup_plan server prev next mode), ?_, ?_⟩
  · intro call made
    exact RouteTree.nodeAt?_of_mem_nodes
      (mem_nodes_of_mem_plan server prev next mode (planned.subset made))
  · rintro old - keys node place reached
    exact reached.exists_place? place

/-- A node that is marked, one that the source asks for and cannot render, and one that comes after
it: the last one is not asked about. A server that allows one level only refuses the tree. -/
theorem renderPaths_calls_shop :
    let login : RouteTree := { RouteTree.leaf (.fixed "login") with refetch := true }
    let shop := (RouteTree.leaf (.fixed "shop")).withSlot "cart" (.leaf (.fixed "summary"))
    let root (item : String) : RouteTree :=
      (((RouteTree.leaf (.fixed "")).withSlot "modal" login).withSlot "children" shop).withSlot
        "footer" (.leaf (.param "id" item .single))
    let script : Script :=
      { Script.echo with failing := [.fixed "summary"], needed := [.fixed "summary"] }
    let server : Server := ⟨.ofBuildId "b1", script.toSource⟩
    let narrow : Server :=
      ⟨{ server.options with limits := { Limits.standard with maxDepth := 1 } }, script.toSource⟩
    let r := server.renderPaths (some (root "7")) (root "8") .full
    ((root "8").checkWithin server.options.limits = .ok () ∧
        server.source.MakesInTurn (server.plan (some (root "7")) (root "8") .full) r ∧
        r.calls.map Call.display = ["check ", "load  -modal-> login", "check  -children-> shop",
          "check  -children-> shop -cart-> summary", "load  -children-> shop -cart-> summary"] ∧
        r.outcome =
          .error (.contentLoad "backend down at  -children-> shop -cart-> summary") ∧
        (∃ call ∈ r.calls, call.path.keys = ["children", "cart"] ∧
          (root "8").nodeAt? call.path = some call.node) ∧
        server.source.Reached (root "7") (root "8") [] ["children", "cart"] ∧
        ∃ other, (root "7").place? ["children", "cart"] = some other) ∧
      ∃ fault, (root "8").checkWithin narrow.options.limits = .error fault ∧
        narrow.renderPaths (some (root "7")) (root "8") .full = ⟨[], .error (.route fault)⟩ := by
  intro login shop root script server narrow r
  have passes : (root "8").checkWithin server.options.limits = .ok () := rfl
  have exceeds : (root "8").checkWithin narrow.options.limits =
      .error (.overLimit (.depth 1 [.index 1, .name "children", .index 1, .name "cart"])) := rfl
  have reached : server.source.Reached (root "7") (root "8") [] ["children", "cart"] := by
    decide +kernel
  obtain ⟨-, makes, -, leads, counterpart⟩ :=
    renderPaths_calls server (some (root "7")) (root "8") .full
  refine ⟨⟨passes, makes passes, by decide +kernel, ?_, ?_, reached, ?_⟩, _, exceeds, ?_⟩
  · have reason : "backend down at " ++ SegmentPath.display ⟨[⟨.fixed "", "children"⟩,
        ⟨.fixed "shop", "cart"⟩], .fixed "summary"⟩ =
          "backend down at  -children-> shop -cart-> summary" := by decide +kernel
    rw [← reason]
    rfl
  · have made : r.calls[4] ∈ r.calls := List.getElem_mem ..
    exact ⟨r.calls[4], made, by decide +kernel, leads _ made⟩
  · exact counterpart _ rfl ["children", "cart"] _ rfl reached
  · exact (renderPaths_calls narrow (some (root "7")) (root "8") .full).1 _ exceeds

end Server

end RouteSync
