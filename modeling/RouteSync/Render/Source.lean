import RouteSync.DataPath
import RouteSync.Exchange.Fault

/-!
# Content sources

A content source renders the nodes of a tree. It is asked in a fixed order, and a `Rendering` is a
computation together with the calls it makes: the calls are part of the result, also when a later
one fails.
-/

namespace RouteSync

/-- Whether everything is rendered, or content may be withheld. -/
inductive RenderMode where
  | full
  | prefetch
  deriving DecidableEq

/-- What is rendered for a node: its content and its head, each present or withheld. -/
structure Content where
  content : Option Json
  head : Option Json

/-- Renders nodes, and says which of them must be rendered again although they have not changed. -/
structure ContentSource where
  load : SegmentPath → RouteTree → RenderMode → Except String Content
  needsRender : SegmentPath → RouteTree → Bool

/-- A call of a content source. -/
inductive Call where
  | load (path : SegmentPath) (node : RouteTree) (mode : RenderMode)
  | needsRender (path : SegmentPath) (node : RouteTree)

/-- A computation that may fail, with the calls it makes in order. -/
structure Rendering (α : Type) where
  calls : List Call
  outcome : Except ExchangeFault α

namespace Rendering

variable {α β : Type}

/-- The second computation after the first, if that succeeds. -/
def andThen (first : Rendering α) (second : α → Rendering β) : Rendering β :=
  match first.outcome with
  | .ok a => ⟨first.calls ++ (second a).calls, (second a).outcome⟩
  | .error fault => ⟨first.calls, .error fault⟩

instance : Monad Rendering where
  pure a := ⟨[], .ok a⟩
  bind := andThen

/-- A computation without calls. -/
def ofExcept (outcome : Except ExchangeFault α) : Rendering α := ⟨[], outcome⟩

/-- Appends the results for one element after another. -/
def gather (f : α → Rendering (List β)) : List α → Rendering (List β)
  | [] => pure []
  | a :: rest => do
    let front ← f a
    let back ← gather f rest
    pure (front ++ back)

end Rendering

namespace ContentSource

/-- Asks whether a node must be rendered. -/
def askNeedsRender (source : ContentSource) (path : SegmentPath) (node : RouteTree) :
    Rendering Bool :=
  ⟨[.needsRender path node], .ok (source.needsRender path node)⟩

/-- Renders a node. -/
def askLoad (source : ContentSource) (path : SegmentPath) (node : RouteTree) (mode : RenderMode) :
    Rendering Content :=
  ⟨[.load path node mode], (source.load path node mode).mapError .contentLoad⟩

/-- Renders the node at the end of the steps into a data path that replaces it. -/
def renderAt (source : ContentSource) (steps : List Step) (node : RouteTree) (mode : RenderMode) :
    Rendering DataPath := do
  let content ← source.askLoad ⟨steps, node.segment⟩ node mode
  pure ⟨steps, ⟨node.segment, node, content.content, content.head⟩⟩

end ContentSource

end RouteSync
