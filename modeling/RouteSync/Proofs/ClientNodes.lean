import RouteSync.Proofs.Runs
import RouteSync.Render.Scripted

/-!
# The nodes of a client's tree

A data path brings the nodes of its tree and makes no other: on the way to its place it only fills
slots anew. So every node of a client's tree has come with the first tree or with a tree that was
applied since, and what limits ask of a single node holds of the client's tree after every run, no
matter what the steps of data paths are, which no limits are put on.
-/

namespace RouteSync

namespace RouteTree

/-- Where a node of a patched tree stems from: the first tree has it at its place, or a data path has
brought it there. But for what is in its slots it is the same node. -/
inductive Stems (first : RouteTree) (ds : List DataPath) (keys : List String) (node : RouteTree) :
    Prop
  | kept {old : RouteTree} (found : first.place? keys = some old) (alike : node.AlikeInOrder old)
  | brought {d : DataPath} {more : List String} {old : RouteTree} (member : d ∈ ds)
      (place : keys = d.place ++ more) (found : d.patch.tree.place? more = some old)
      (alike : node.AlikeInOrder old)

theorem Stems.of_alikeInOrder {first node old : RouteTree} {ds : List DataPath}
    {keys : List String} (alike : node.AlikeInOrder old) (stems : Stems first ds keys old) :
    Stems first ds keys node := by
  cases stems with
  | kept found alike' => exact .kept found (alike.trans alike')
  | brought member place found alike' => exact .brought member place found (alike.trans alike')

/-- At and below the place of a data path its own nodes stand, and elsewhere nodes that were there
before. -/
theorem stems_put {first base : RouteTree} {ds : List DataPath} {d : DataPath} (member : d ∈ ds)
    (before : ∀ keys node, base.place? keys = some node → Stems first ds keys node)
    (follows : base.Follows d.steps) :
    ∀ keys node, (base.put d.place d.patch.tree).place? keys = some node →
      Stems first ds keys node := by
  intro keys node found
  by_cases below : d.place <+: keys
  · obtain ⟨more, rfl⟩ := below
    obtain ⟨old, replaced⟩ := follows.exists_place?
    have place := place?_put_append d.patch.tree replaced more
    exact .brought member rfl (place.symm.trans found) (.refl node)
  · obtain ⟨old, stood, alike⟩ := exists_place?_of_put below found
    exact .of_alikeInOrder alike (before keys old stood)

end RouteTree

namespace Session

open RouteTree (Stems)

/-- In every run the nodes of the client's tree stem from its first tree and from the data paths that
it has applied. -/
theorem stems_receiveAll (s : Session) (messages : List (Context × Json)) :
    ∀ keys node, (s.receiveAll messages).tree.place? keys = some node →
      Stems s.tree (s.appliedAll messages) keys node := by
  apply receiveAll_induction (P := fun tree => ∀ keys node, tree.place? keys = some node →
    Stems s.tree (s.appliedAll messages) keys node)
  · intro keys node found
    exact .kept found (.refl node)
  · intro base d member before follows
    exact RouteTree.stems_put member before follows

/-- If the client's limits allow every node of its tree by itself, they do so after every run of
responses, whoever has sent them. The steps of a data path take no part in that: they are read
whatever they are, if only the tree keeps within the limits. -/
theorem allows_receiveAll (s : Session) (messages : List (Context × Json))
    (start : ∀ keys node, s.tree.place? keys = some node → s.client.limits.Allows node) :
    (∀ keys node, (s.receiveAll messages).tree.place? keys = some node →
        s.client.limits.Allows node) ∧
      ∀ steps tree, (∃ d, DataPath.ofJsonWithin s.client.limits
          (DataPath.mk steps (.ofTree tree)).toJson = .ok d) ↔
        tree.checkWithin s.client.limits = .ok () := by
  constructor
  · intro keys node found
    -- Limits do not look into slots, so they allow a node as they allow the one it stems from.
    cases s.stems_receiveAll messages keys node found with
    | kept stood alike => exact alike.alike.symm.allows (start keys _ stood)
    | brought member _ brought alike =>
      have passes := checkWithin_of_mem_appliedAll _ member
      have allowed := ((RouteTree.checkWithin_eq_ok_iff ..).1 passes).2 _ _ brought
      exact alike.alike.symm.allows allowed
  · intro steps tree
    rw [DataPath.ofJsonWithin_toJson s.client.limits rfl]
    simp only [map_eq_ok_iff]
    constructor
    · rintro ⟨_, _, passes, -⟩
      exact passes
    · intro passes
      exact ⟨_, (), passes, rfl⟩

/-- Two data paths, the second of them above the first one, whose steps name the parameter in another
kind, and then one into a slot that no limits would allow: the first two are applied, the third is
not. -/
theorem allows_receiveAll_above :
    let limits := { Limits.strict with maxSlots := 1, maxSegmentBytes := 4 }.withAllowedSlots
      ["modal"]
    let below (child : RouteTree) : RouteTree :=
      (RouteTree.leaf (.fixed "")).withSlot "children" child
    let item := (RouteTree.leaf (.param "id" "7" .single)).withSlot "children" (.leaf (.fixed "tab"))
    let cart := (RouteTree.leaf (.fixed "cart")).withSlot "modal" (.leaf (.fixed "pay"))
    let s : Session :=
      ⟨⟨.ofBuildId "b1", Script.echo.toSource⟩, ⟨"b1", limits⟩, below item⟩
    let inside : DataPath :=
      ⟨[⟨.fixed "", "children"⟩, ⟨.param "id" "7" .rest, "children"⟩], .ofTree (.leaf (.fixed "map"))⟩
    let above : DataPath := ⟨[⟨.fixed "", "children"⟩], .ofTree cart⟩
    let astray : DataPath := ⟨[⟨.fixed "", "no such slot"⟩], .ofTree cart⟩
    let response (ds : List DataPath) : Context × Json :=
      (.navigation, (Envelope.navigation .navigation "b1" (.paths ds)).toJson)
    let messages := [response [inside, above], response [astray]]
    (∀ keys node, s.tree.place? keys = some node → limits.Allows node) ∧
      (s.receiveAll messages).tree.same (below cart) = true ∧
      ∀ keys node, (s.receiveAll messages).tree.place? keys = some node → limits.Allows node := by
  intro limits below item cart s inside above astray response messages
  have start : ∀ keys node, s.tree.place? keys = some node → limits.Allows node :=
    ((RouteTree.checkWithin_eq_ok_iff limits s.tree).1 rfl).2
  exact ⟨start, by decide +kernel, (allows_receiveAll s messages start).1⟩

end Session

end RouteSync
