import RouteSync.Exchange.Envelope
import RouteSync.Render.Changes
import RouteSync.Render.Options
import RouteSync.RouteTree.Bounded

/-!
# Servers

A server renders the way from the tree a client has to the next one, and puts it into an envelope of
its build. A tree that exceeds the server's limits is refused before any content is asked for.
-/

namespace RouteSync

/-- The options of a server, and the source of its content. -/
structure Server where
  options : RenderOptions
  source : ContentSource

namespace Server

/-- Refuses a tree that exceeds the server's limits. -/
def checkLimits (server : Server) (next : RouteTree) : Rendering Unit :=
  .ofExcept ((next.checkWithin server.options.limits).mapError .route)

/-- Renders the whole tree into one data path. -/
def renderWhole (server : Server) (next : RouteTree) (mode : RenderMode) : Rendering DataPath := do
  server.checkLimits next
  server.source.renderAt [] next mode

/-- Renders the data paths by which a client that has `prev` comes to `next`; the whole tree for a
client without one. -/
def renderPaths (server : Server) (prev : Option RouteTree) (next : RouteTree) (mode : RenderMode) :
    Rendering (List DataPath) := do
  server.checkLimits next
  match prev with
  | some prev => server.source.changes prev next mode
  | none => do
    let path ← server.source.renderAt [] next mode
    pure [path]

/-- Answers a navigation. -/
def navigation (server : Server) (prev : Option RouteTree) (next : RouteTree) (mode : RenderMode) :
    Rendering Envelope := do
  let paths ← server.renderPaths prev next mode
  pure (.navigation .navigation server.options.buildId (.paths paths))

/-- Answers a request with a redirect. -/
def redirect (server : Server) (asked : Context) (url : String) : Envelope :=
  .navigation asked server.options.buildId (.redirect url)

/-- Answers an action by its result, and, if it has changed the tree, by the way to the next one. -/
def action (server : Server) (update : Option (Option RouteTree × RouteTree)) (result : Json) :
    Rendering Envelope :=
  match update with
  | none => pure (.actionResult result server.options.buildId none)
  | some (prev, next) => do
    let paths ← server.renderPaths prev next .full
    pure (.actionResult result server.options.buildId (some (.paths paths)))

end Server

end RouteSync
