import RouteSync.Exchange.Session
import RouteSync.Proofs.Messages
import RouteSync.Proofs.Reaching

/-!
# Conversations

In a conversation a server sends one tree after another to a client of its build and limits, each
either whole or as the changes from the one before, over the wire and with varying content. The
client's tree is then always the same as the one sent last: its slots may come into another order,
which no walk sees.
-/

namespace RouteSync

/-! ### Leading a client to a tree -/

namespace DataPath

/-- What becomes of content on the way does not touch the tree. -/
theorem applyAll_map_arrived (ds : List DataPath) (base : RouteTree) :
    applyAll (ds.map arrived) base = applyAll ds base := by
  induction ds generalizing base with
  | nil => rfl
  | cons d rest ih =>
    simp only [List.map_cons, applyAll, ih]
    rfl

/-- Data paths bring parts of the next tree to their places, and lead a client's tree to it. -/
structure LeadTo (ds : List DataPath) (base next : RouteTree) : Prop where
  own : ∀ d ∈ ds, d.patch.segment = d.patch.tree.segment
  parts : ∀ d ∈ ds, next.place? d.place = some d.patch.tree
  reach : ∃ tree, applyAll ds base = .ok tree ∧ tree.same next = true

theorem leadTo_of_emits {source : ContentSource} {mode : RenderMode} {next prev base : RouteTree}
    {ds : List DataPath} (emits : source.Emits mode next prev [] ds)
    (same : base.same prev = true) : LeadTo ds base next where
  own _ member := (emits.brings member).own
  parts _ member := (emits.place?_next member).2
  reach := ⟨putAll ds base, emits.applyAll_eq_ok same, emits.same_putAll same⟩

/-- The whole tree leads there from everywhere. -/
theorem leadTo_of_whole (base next : RouteTree) (content head : Option Json) :
    LeadTo [⟨[], ⟨next.segment, next, content, head⟩⟩] base next where
  own d member := by
    rw [List.mem_singleton] at member
    rw [member]
  parts d member := by
    rw [List.mem_singleton] at member
    rw [member]
    rfl
  reach := ⟨next, rfl, RouteTree.same_refl next⟩

end DataPath

/-- What a server renders leads its client to the next tree, which is within the server's limits. -/
theorem Server.leadTo_of_renderPaths {server : Server} {prev : Option RouteTree}
    {next base : RouteTree} {mode : RenderMode} {ds : List DataPath}
    (rendered : (server.renderPaths prev next mode).outcome = .ok ds)
    (same : ∀ t, prev = some t → base.same t = true) :
    next.checkWithin server.options.limits = .ok () ∧ DataPath.LeadTo ds base next := by
  cases prev with
  | some prev =>
    obtain ⟨passes, walked⟩ := (renderPaths_some_eq_ok_iff prev).1 rendered
    exact ⟨passes, DataPath.leadTo_of_emits (ContentSource.emits_of_changesFrom walked)
      (same prev rfl)⟩
  | none =>
    obtain ⟨passes, content, -, rfl⟩ := renderPaths_none_eq_ok_iff.1 rendered
    exact ⟨passes, DataPath.leadTo_of_whole base next _ _⟩

/-! ### Turns -/

/-- What the client asks for: a page, or an action and a page after it. -/
inductive Request where
  | navigation (mode : RenderMode)
  | action (result : Json)

/-- One tree that the server sends: as the changes from the one before, if there is one and
`fromLast` says so, or else whole. The content comes from a source of its own. -/
structure Turn where
  source : ContentSource
  request : Request
  fromLast : Bool
  next : RouteTree

namespace Session

/-- The server sends a tree to the client, where `last` is the one it has sent before. -/
def take (s : Session) (last : Option RouteTree) (turn : Turn) : Delivery :=
  let s := { s with server := ⟨s.server.options, turn.source⟩ }
  let prev := if turn.fromLast then last else none
  match turn.request with
  | .navigation mode => s.navigate prev turn.next mode
  | .action result => s.act (some (prev, turn.next)) result

/-- The server sends one tree after another. -/
def converse (s : Session) (last : Option RouteTree) : List Turn → List Delivery
  | [] => []
  | turn :: rest =>
    let delivery := s.take last turn
    delivery :: delivery.session.converse (some turn.next) rest

/-- The client takes what the server sends, and its tree is the same as the one sent last. -/
structure InStep (s : Session) (last : Option RouteTree) : Prop where
  build : s.client.buildId = s.server.options.buildId
  limits : s.client.limits = s.server.options.limits
  tree : ∀ t, last = some t → s.tree.same t = true

/-- The delivery has led the client to a tree, by a patch. -/
structure Delivered (delivery : Delivery) (next : RouteTree) : Prop where
  patched : ∃ contents, delivery.outcome = .ok (some (.patched delivery.session.tree contents))
  same : delivery.session.tree.same next = true

/-- There is something on the wire when the response could be made. -/
theorem exists_envelope_of_wire {s : Session} {context : Context} {response : Rendering Envelope}
    (sent : (s.deliver context response).wire.isSome = true) :
    ∃ envelope, response.outcome = .ok envelope := by
  cases made : response.outcome with
  | ok envelope => exact ⟨envelope, rfl⟩
  | error fault =>
    rw [deliver, made] at sent
    cases sent

section Delivery

variable {s : Session} {prev last : Option RouteTree} {next : RouteTree}

/-- An envelope that arrives with data paths that lead to a tree leads the client to it. -/
theorem deliver_of_leadTo {context : Context} {response : Rendering Envelope}
    {envelope arrived : Envelope} {ds : List DataPath} (inStep : s.InStep prev)
    (made : response.outcome = .ok envelope)
    (read : Envelope.ofJsonWithin s.client.limits context envelope.toJson = .ok arrived)
    (build : arrived.buildId = s.server.options.buildId)
    (carries : arrived.data? = some (.paths (ds.map DataPath.arrived)))
    (leads : DataPath.LeadTo ds s.tree next) :
    Delivered (s.deliver context response) next ∧
      (s.deliver context response).session.InStep (some next) := by
  obtain ⟨tree, applied, same⟩ := leads.reach
  rw [← DataPath.applyAll_map_arrived] at applied
  have received := (Client.read_eq_ok_iff ..).2 ⟨read, build.trans inStep.build.symm⟩
  have navigated := Client.navigate_of_applyAll received carries applied
  have delivered : s.deliver context response = ⟨response.calls, some envelope.toJson,
      .ok (some (.patched tree ((ds.map DataPath.arrived).map DataPath.placedContent))),
      { s with tree := tree }⟩ := by
    rw [deliver, made]
    simp only [receive, navigated]
    rfl
  rw [delivered]
  refine ⟨⟨⟨_, rfl⟩, same⟩, inStep.build, inStep.limits, ?_⟩
  intro t equal
  cases equal
  exact same

/-- What the server has rendered for its client is flight data that the client can read. -/
theorem read_of_renderPaths {mode : RenderMode} {ds : List DataPath} (inStep : s.InStep prev)
    (rendered : (s.server.renderPaths prev next mode).outcome = .ok ds) :
    FlightData.ofJsonWithin s.client.limits (FlightData.paths ds).toJson =
        .ok (.paths (ds.map DataPath.arrived)) ∧
      DataPath.LeadTo ds s.tree next := by
  obtain ⟨passes, leads⟩ := Server.leadTo_of_renderPaths rendered inStep.tree
  refine ⟨FlightData.ofJsonWithin_toJson leads.own ?_, leads⟩
  intro d member
  rw [inStep.limits]
  exact RouteTree.checkWithin_of_place? passes (leads.parts d member)

theorem navigate_delivered {mode : RenderMode} (inStep : s.InStep prev)
    (sent : (s.navigate prev next mode).wire.isSome = true) :
    Delivered (s.navigate prev next mode) next ∧
      (s.navigate prev next mode).session.InStep (some next) := by
  obtain ⟨envelope, made⟩ := exists_envelope_of_wire sent
  obtain ⟨ds, rendered, equal⟩ := (Rendering.bind_outcome_eq_ok_iff ..).1 made
  cases equal
  obtain ⟨read, leads⟩ := read_of_renderPaths inStep rendered
  have arrives := Envelope.ofJsonWithin_navigation s.client.limits .navigation .navigation
    s.server.options.buildId (.paths ds)
  rw [read] at arrives
  exact deliver_of_leadTo inStep made arrives rfl rfl leads

theorem act_delivered {result : Json} (inStep : s.InStep prev) (plain : result.kind ≠ .string)
    (sent : (s.act (some (prev, next)) result).wire.isSome = true) :
    Delivered (s.act (some (prev, next)) result) next ∧
      (s.act (some (prev, next)) result).session.InStep (some next) := by
  obtain ⟨envelope, made⟩ := exists_envelope_of_wire sent
  obtain ⟨ds, rendered, equal⟩ := (Rendering.bind_outcome_eq_ok_iff ..).1 made
  cases equal
  obtain ⟨read, leads⟩ := read_of_renderPaths inStep rendered
  have arrives := Envelope.ofJsonWithin_actionResult s.client.limits plain
    s.server.options.buildId (.paths ds)
  rw [read] at arrives
  exact deliver_of_leadTo inStep made arrives rfl rfl leads

/-- A turn whose content can be rendered leads the client to the tree that is sent. -/
theorem take_delivered {turn : Turn} (inStep : s.InStep last)
    (plain : ∀ result, turn.request = .action result → result.kind ≠ .string)
    (sent : (s.take last turn).wire.isSome = true) :
    Delivered (s.take last turn) turn.next ∧
      (s.take last turn).session.InStep (some turn.next) := by
  obtain ⟨source, request, fromLast, next⟩ := turn
  have ready : InStep { s with server := ⟨s.server.options, source⟩ }
      (if fromLast then last else none) := by
    refine ⟨inStep.build, inStep.limits, ?_⟩
    intro t equal
    cases fromLast with
    | true => exact inStep.tree t equal
    | false => cases equal
  cases request with
  | navigation mode => exact navigate_delivered ready sent
  | action result => exact act_delivered ready (plain result rfl) sent

end Delivery

theorem converse_delivered {s : Session} {last : Option RouteTree} {turns : List Turn}
    (inStep : s.InStep last)
    (plain : ∀ turn ∈ turns, ∀ result, turn.request = .action result → result.kind ≠ .string)
    (sent : ∀ delivery ∈ s.converse last turns, delivery.wire.isSome = true) :
    List.Forall₂ (fun turn delivery => Delivered delivery turn.next) turns
      (s.converse last turns) := by
  induction turns generalizing s last with
  | nil => exact .nil
  | cons turn rest ih =>
    obtain ⟨first, others⟩ := List.forall_mem_cons.1 sent
    obtain ⟨plainFirst, plainRest⟩ := List.forall_mem_cons.1 plain
    obtain ⟨delivered, after⟩ := take_delivered inStep plainFirst first
    exact .cons delivered (ih after plainRest others)

/-- In a conversation with a client of the server's build and limits, from whatever tree the client
begins, every response that could be rendered patches the client's tree, and makes it the same as
the tree sent, as long as no action answers with a string. -/
theorem converse_agrees (s : Session) (turns : List Turn)
    (build : s.client.buildId = s.server.options.buildId)
    (limits : s.client.limits = s.server.options.limits)
    (plain : ∀ turn ∈ turns, ∀ result, turn.request = .action result → result.kind ≠ .string)
    (sent : ∀ delivery ∈ s.converse none turns, delivery.wire.isSome = true) :
    List.Forall₂ (fun turn delivery =>
      (∃ contents, delivery.outcome = .ok (some (.patched delivery.session.tree contents))) ∧
        delivery.session.tree.same turn.next = true) turns (s.converse none turns) := by
  have inStep : s.InStep none := ⟨build, limits, fun t equal => by cases equal⟩
  exact (converse_delivered inStep plain sent).imp fun _ _ delivered =>
    ⟨delivered.patched, delivered.same⟩

/-- A navigation, an action that changes one slot, and a prefetch of the way back. -/
theorem converse_agrees_back_and_forth :
    let page (value : String) : RouteTree :=
      ((RouteTree.leaf (.fixed "")).withSlot "modal" (.leaf .page)).withSlot "children"
        (.leaf (.param "id" value .single))
    let source := Script.echo.toSource
    let s : Session := ⟨⟨.ofBuildId "b1", source⟩, ⟨"b1", .standard⟩, .leaf (.fixed "stale")⟩
    let turns : List Turn := [⟨source, .navigation .full, false, page "7"⟩,
      ⟨source, .action (.bool true), true, page "8"⟩,
      ⟨source, .navigation .prefetch, true, page "7"⟩]
    s.client.buildId = s.server.options.buildId ∧ s.client.limits = s.server.options.limits ∧
      (∀ turn ∈ turns, ∀ result, turn.request = .action result → result.kind ≠ .string) ∧
      (∀ delivery ∈ s.converse none turns, delivery.wire.isSome = true) ∧
      List.Forall₂ (fun turn delivery =>
        (∃ contents, delivery.outcome = .ok (some (.patched delivery.session.tree contents))) ∧
          delivery.session.tree.same turn.next = true) turns (s.converse none turns) := by
  intro page source s turns
  have plain : ∀ turn ∈ turns, ∀ result, turn.request = .action result →
      result.kind ≠ .string := by
    simp [turns, Json.kind]
  have all : (s.converse none turns).all (fun delivery => delivery.wire.isSome) = true := by
    decide +kernel
  have sent := List.all_eq_true.1 all
  exact ⟨rfl, rfl, plain, sent, converse_agrees s turns rfl rfl plain sent⟩

end Session

end RouteSync
