import RouteSync.Render.Source

/-!
# Changes from one tree to the next

Two trees are walked together along the slots of the next one. A node is rendered whole where the
two differ in shape, where the next one is marked to be fetched again, and where the content
source asks for it; its slots are not walked then. Elsewhere the walk goes on into every slot, so
that what is rendered are the topmost changed nodes.
-/

namespace RouteSync.ContentSource

/-- Whether a node must be rendered. The source is asked only if the trees do not decide. -/
def isChanged (source : ContentSource) (prev next : RouteTree) (path : SegmentPath) :
    Rendering Bool :=
  if prev.sameShape next && !next.refetch then source.askNeedsRender path next else pure true

/-- The data paths that lead from `prev` to `next`, both standing at the end of the steps. -/
def changesFrom (source : ContentSource) (mode : RenderMode) :
    (next prev : RouteTree) → List Step → Rendering (List DataPath)
  | next@⟨segment, ⟨keys, _, child⟩, _, _, _⟩, prev, steps => do
    if ← source.isChanged prev next ⟨steps, segment⟩ then
      let path ← source.renderAt steps next mode
      pure [path]
    else
      keys.attach |> Rendering.gather fun key =>
        match prev.slots.get? key.1 with
        | some prevChild =>
          source.changesFrom mode (child key.1 key.2) prevChild (steps ++ [⟨segment, key.1⟩])
        | none => pure []

/-- The data paths that lead from one tree to the next. -/
def changes (source : ContentSource) (prev next : RouteTree) (mode : RenderMode) :
    Rendering (List DataPath) := source.changesFrom mode next prev []

end RouteSync.ContentSource
