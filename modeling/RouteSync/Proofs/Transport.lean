import RouteSync.Proofs.Conversation
import RouteSync.Proofs.Nesting
import RouteSync.Proofs.Topmost
import RouteSync.Render.Scripted

/-!
# Responses as text

A response travels as text, and the reader of text counts brackets where the limits on trees count
steps. A response without content has three arrays around its trees and each tree two brackets more
than twice its depth, so the text is read back as the response itself up to a depth of 61, and not at
all beyond it. The standard limits let deeper trees out, which a client reads only from values.

Nothing of this depends on how values are spelled: it holds for every printer and reader of which
the one takes back what the other makes, and for those of this library in particular.
-/

namespace RouteSync

variable {print : Json → String} {read? : String → Option Json}

namespace Client

/-- The text of a value without doubles is read as the value is, unless it is nested too deep. -/
theorem readTextBy_print (roundTrips : Json.RoundTrips print read?) (client : Client)
    (context : Context) {v : Json} (exact : v.Exact) :
    client.readTextBy read? context (print v) =
      if v.nesting ≤ Json.Document.maxNesting then client.read context v
      else .error .notJson := by
  rw [readTextBy, roundTrips v exact]
  by_cases shallow : v.nesting ≤ Json.Document.maxNesting
  · simp only [if_pos shallow]
  · simp only [if_neg shallow]

/-- Whether the text of a response can be read depends on how deep its trees are alone. -/
theorem readTextBy_navigation (roundTrips : Json.RoundTrips print read?) (client : Client)
    (context asked : Context) (buildId : String) {ds : List DataPath}
    (withheld : ∀ d ∈ ds, d.Withheld) :
    client.readTextBy read? context (print (Envelope.navigation asked buildId (.paths ds)).toJson) =
      if ∀ d ∈ ds, 2 * d.patch.tree.depth + 5 ≤ Json.Document.maxNesting then
        client.read context (Envelope.navigation asked buildId (.paths ds)).toJson
      else .error .notJson := by
  -- Five brackets are not steps of a tree: three arrays around it, and two of the deepest node.
  have fits : (Envelope.navigation asked buildId (.paths ds)).toJson.nesting ≤
      Json.Document.maxNesting ↔
        ∀ d ∈ ds, 2 * d.patch.tree.depth + 5 ≤ Json.Document.maxNesting := by
    rw [Json.Document.maxNesting, Envelope.nesting_navigation_le_iff withheld 124]
    simp only [RouteTree.nesting_toJson]
    apply forall₂_congr
    intro d _
    omega
  rw [readTextBy_print roundTrips client context (Envelope.exact_navigation withheld)]
  simp only [fits]

/-- The text of a response that brings a whole tree is not JSON for the reader if the tree is too
deep. -/
theorem readTextBy_whole (roundTrips : Json.RoundTrips print read?) (client : Client)
    (context asked : Context) (buildId : String) {t : RouteTree}
    (deep : Json.Document.maxNesting < 2 * t.depth + 5) :
    client.readTextBy read? context
      (print (Envelope.navigation asked buildId (.paths [⟨[], .ofTree t⟩])).toJson) =
        .error .notJson := by
  have withheld : ∀ d ∈ [(⟨[], .ofTree t⟩ : DataPath)], d.Withheld := by
    intro d member
    rw [List.mem_singleton] at member
    rw [member]
    exact ⟨rfl, rfl⟩
  rw [readTextBy_navigation roundTrips client context asked buildId withheld, if_neg]
  intro shallow
  exact absurd (shallow _ (List.mem_singleton_self _)) (Nat.not_le.2 deep)

end Client

namespace Server

variable {server : Server} {prev : Option RouteTree} {next : RouteTree} {mode : RenderMode}

/-- The source renders every node, and gives neither content nor a head for any. -/
def Withholds (server : Server) : Prop :=
  ∀ path node mode, server.source.load path node mode = .ok ⟨none, none⟩

theorem renderPaths_whole (withholds : server.Withholds)
    (passes : next.checkWithin server.options.limits = .ok ()) :
    (server.renderPaths none next mode).outcome = .ok [⟨[], .ofTree next⟩] :=
  renderPaths_none_eq_ok_iff.2 ⟨passes, _, withholds .., rfl⟩

/-- A server whose source does not fail renders every tree that is within its limits. -/
theorem exists_renderPaths (withholds : server.Withholds)
    (passes : next.checkWithin server.options.limits = .ok ()) :
    ∃ ds, (server.renderPaths prev next mode).outcome = .ok ds := by
  cases prev with
  | none => exact ⟨_, renderPaths_whole withholds passes⟩
  | some prev =>
    rw [renderPaths_some passes]
    exact ContentSource.exists_changesFrom fun _ _ _ _ => ⟨_, withholds _ _ _⟩

/-- What a source without content renders carries none. -/
theorem withheld_of_renderPaths (withholds : server.Withholds) {ds : List DataPath}
    (rendered : (server.renderPaths prev next mode).outcome = .ok ds) : ∀ d ∈ ds, d.Withheld := by
  have nothing {path : SegmentPath} {node : RouteTree} {content : Content}
      (loads : server.source.load path node mode = .ok content) :
      content.content = none ∧ content.head = none := by
    rw [withholds] at loads
    cases loads
    exact ⟨rfl, rfl⟩
  intro d member
  cases prev with
  | some prev =>
    obtain ⟨-, walked⟩ := (renderPaths_some_eq_ok_iff prev).1 rendered
    obtain ⟨_, -, brings⟩ := (ContentSource.emits_of_changesFrom walked).exists_brings d member
    exact nothing brings.loads
  | none =>
    obtain ⟨-, content, loads, rfl⟩ := renderPaths_none_eq_ok_iff.1 rendered
    rw [List.mem_singleton] at member
    subst member
    exact nothing loads

/-- What a server renders leads to the next tree from the one that it began with. -/
theorem leadTo_of_prev {ds : List DataPath}
    (rendered : (server.renderPaths prev next mode).outcome = .ok ds) :
    next.checkWithin server.options.limits = .ok () ∧
      DataPath.LeadTo ds (prev.getD next) next := by
  apply leadTo_of_renderPaths rendered
  intro t given
  rw [given]
  exact t.same_refl

/-- A client of the server's build and limits reads a response without content as it was made. -/
theorem read_of_renderPaths (withholds : server.Withholds) {client : Client}
    (build : client.buildId = server.options.buildId)
    (limits : client.limits = server.options.limits) {ds : List DataPath}
    (rendered : (server.renderPaths prev next mode).outcome = .ok ds) :
    client.read .navigation
        (Envelope.navigation .navigation server.options.buildId (.paths ds)).toJson =
      .ok (.navigation .navigation server.options.buildId (.paths ds)) := by
  obtain ⟨passes, leads⟩ := leadTo_of_prev rendered
  have canonical : ∀ d ∈ (FlightData.paths ds).dataPaths, d.Canonical := by
    intro d member
    obtain ⟨content, head⟩ := withheld_of_renderPaths withholds rendered d member
    exact ⟨leads.own d member, by simp [content], by simp [head]⟩
  have trees : ∀ d ∈ ds, d.patch.tree.checkWithin client.limits = .ok () := by
    intro d member
    rw [limits]
    exact RouteTree.checkWithin_of_place? passes (leads.parts d member)
  rw [Client.read_eq_ok_iff]
  refine ⟨?_, build.symm⟩
  rw [Envelope.ofJsonWithin_navigation, mapError_eq_ok_iff, map_eq_ok_iff]
  refine ⟨_, ?_, rfl⟩
  rw [FlightData.ofJsonWithin_toJson_of_canonical client.limits canonical, map_eq_ok_iff]
  exact ⟨(), (forM_eq_ok_iff ..).2 trees, rfl⟩

/-- A server answers every navigation to a tree within its limits, and its client reads the answer.
Where no content comes with it, the client reads the printed answer just the same exactly if the
trees in it are at most 61 deep, and finds no JSON in the text if one of them is deeper. -/
theorem readTextBy_of_navigation (roundTrips : Json.RoundTrips print read?)
    (withholds : server.Withholds) {client : Client}
    (build : client.buildId = server.options.buildId)
    (limits : client.limits = server.options.limits) (prev : Option RouteTree)
    (passes : next.checkWithin server.options.limits = .ok ()) (mode : RenderMode) :
    ∃ envelope, (server.navigation prev next mode).outcome = .ok envelope ∧
      client.read .navigation envelope.toJson = .ok envelope ∧
      client.readTextBy read? .navigation (print envelope.toJson) =
        (if ∀ d ∈ envelope.dataPaths, 2 * d.patch.tree.depth + 5 ≤ Json.Document.maxNesting then
          .ok envelope else .error .notJson) ∧
      (2 * next.depth + 5 ≤ Json.Document.maxNesting →
        client.readTextBy read? .navigation (print envelope.toJson) = .ok envelope) := by
  obtain ⟨ds, rendered⟩ : ∃ ds, (server.renderPaths prev next mode).outcome = .ok ds :=
    exists_renderPaths withholds passes
  let envelope : Envelope := .navigation .navigation server.options.buildId (.paths ds)
  have withheld := withheld_of_renderPaths withholds rendered
  have read : client.read .navigation envelope.toJson = .ok envelope :=
    read_of_renderPaths withholds build limits rendered
  have asText : client.readTextBy read? .navigation (print envelope.toJson) =
      if ∀ d ∈ ds, 2 * d.patch.tree.depth + 5 ≤ Json.Document.maxNesting then
        .ok envelope else .error .notJson := by
    rw [Client.readTextBy_navigation roundTrips client .navigation .navigation _ withheld, read]
  refine ⟨envelope, ?_, read, asText, ?_⟩
  · exact (Rendering.bind_outcome_eq_ok_iff ..).2 ⟨ds, rendered, rfl⟩
  · intro shallow
    rw [asText, if_pos]
    intro d member
    have below := RouteTree.add_depth_le_of_place? ((leadTo_of_prev rendered).2.parts d member)
    omega

/-- The text that this library makes of an answer is read just the same exactly if the trees in the
answer are at most 61 deep, and has no JSON in it if one of them is deeper. -/
theorem readText_of_navigation (withholds : server.Withholds) {client : Client}
    (build : client.buildId = server.options.buildId)
    (limits : client.limits = server.options.limits) (prev : Option RouteTree)
    (passes : next.checkWithin server.options.limits = .ok ()) (mode : RenderMode) :
    ∃ envelope, (server.navigation prev next mode).outcome = .ok envelope ∧
      client.read .navigation envelope.toJson = .ok envelope ∧
      client.readText .navigation envelope.toJson.text =
        (if ∀ d ∈ envelope.dataPaths, 2 * d.patch.tree.depth + 5 ≤ Json.Document.maxNesting then
          .ok envelope else .error .notJson) ∧
      (2 * next.depth + 5 ≤ Json.Document.maxNesting →
        client.readText .navigation envelope.toJson.text = .ok envelope) :=
  readTextBy_of_navigation Json.roundTrips_text withholds build limits prev passes mode

/-! ### The deepest trees that text can carry -/

/-- So many nodes below one another. -/
def chain : Nat → RouteTree
  | 0 => .leaf (.fixed "a")
  | n + 1 => (RouteTree.leaf (.fixed "a")).withSlot "children" (chain n)

/-- A server with the standard limits that renders everything without content. -/
def silent : Server := ⟨.ofBuildId "b1", { Script.echo with content := .withheld }.toSource⟩

theorem silent_withholds : silent.Withholds := by
  intro path node mode
  show Script.load { Script.echo with content := .withheld } path node mode = _
  simp [Script.load, Script.echo]

theorem get?_chain_succ {n : Nat} {key : String} {child : RouteTree}
    (found : (chain (n + 1)).slots.get? key = some child) : key = "children" ∧ child = chain n := by
  rw [chain] at found
  by_cases here : key = "children"
  · rw [here, RouteTree.get?_withSlot_self] at found
    exact ⟨here, (Option.some.inj found).symm⟩
  · rw [RouteTree.get?_withSlot_of_ne _ _ here] at found
    cases found

theorem checkFrom_chain {n depth : Nat} (shallow : depth + n ≤ 64) :
    (chain n).checkFrom .standard depth = .ok () := by
  induction n generalizing depth with
  | zero =>
    rw [RouteTree.checkFrom_eq_ok_iff]
    refine ⟨shallow, ⟨by decide, by decide, fun _ _ => rfl⟩, ?_⟩
    intro key child found
    cases found
  | succ n ih =>
    rw [RouteTree.checkFrom_eq_ok_iff]
    refine ⟨Nat.le_trans (Nat.le_add_right depth _) shallow, ⟨?_, ?_, fun _ _ => rfl⟩, ?_⟩
    · show ∀ text ∈ (Segment.fixed "a").texts, _
      decide
    · show 1 ≤ _
      decide
    · intro key child found
      rw [(get?_chain_succ found).2]
      exact ih (by omega)

/-- With the standard limits a chain of depth 61 is read from text. -/
theorem readText_of_navigation_chain :
    (chain 61).depth = 61 ∧ (chain 61).checkWithin .standard = .ok () ∧ ∃ envelope,
      (silent.navigation none (chain 61) .full).outcome = .ok envelope ∧
        Client.readText ⟨"b1", .standard⟩ .navigation envelope.toJson.text = .ok envelope := by
  have depth : (chain 61).depth = 61 := by decide +kernel
  have passes : (chain 61).checkWithin .standard = .ok () := checkFrom_chain (by decide)
  have room : 2 * (chain 61).depth + 5 ≤ Json.Document.maxNesting := by
    rw [depth]
    decide
  let client : Client := ⟨"b1", .standard⟩
  have build : client.buildId = silent.options.buildId := rfl
  obtain ⟨envelope, made, -, -, asText⟩ :=
    readText_of_navigation silent_withholds build rfl none passes .full
  exact ⟨depth, passes, envelope, made, asText room⟩

/-- A tree of depth 62 is within the standard limits, and the text of the response that brings it is
not read. -/
theorem not_readText_of_navigation :
    ¬∀ (server : Server) (client : Client) (prev : Option RouteTree) (next : RouteTree)
        (mode : RenderMode) (envelope : Envelope), server.Withholds →
      server.options.limits = .standard → client.limits = .standard →
      client.buildId = server.options.buildId →
      (server.navigation prev next mode).outcome = .ok envelope →
        client.readText .navigation envelope.toJson.text =
          client.read .navigation envelope.toJson := by
  intro agree
  let client : Client := ⟨"b1", .standard⟩
  have build : client.buildId = silent.options.buildId := rfl
  have depth : (chain 62).depth = 62 := by decide +kernel
  have deep : Json.Document.maxNesting < 2 * (chain 62).depth + 5 := by
    rw [depth]
    decide
  have rendered : (silent.renderPaths none (chain 62) .full).outcome =
      .ok [⟨[], .ofTree (chain 62)⟩] :=
    renderPaths_whole silent_withholds (checkFrom_chain (by decide))
  have equal := agree silent client none (chain 62) .full _ silent_withholds rfl rfl build
    ((Rendering.bind_outcome_eq_ok_iff ..).2 ⟨_, rendered, rfl⟩)
  rw [Client.readText, Client.readTextBy_whole Json.roundTrips_text client _ _ _ deep,
    read_of_renderPaths silent_withholds build rfl rendered] at equal
  cases equal

end Server

end RouteSync
