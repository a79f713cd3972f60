import RouteSync.Exchange.Client
import RouteSync.Exchange.Server

/-!
# Sessions

A session is a server, a client and the tree the client holds. Each response goes over the wire: the
server's envelope is encoded, and the client reads the encoded value. The client's tree changes only
when a response is read and applied in full.
-/

namespace RouteSync

/-- A server, a client and the client's tree. -/
structure Session where
  server : Server
  client : Client
  tree : RouteTree

/-- What one response comes to: the calls the server makes of its content source, the encoded
envelope if there is one, the outcome at the client, and the session after it. -/
structure Delivery where
  calls : List Call
  wire : Option Json
  outcome : Except ExchangeFault (Option Navigation)
  session : Session

namespace Session

/-- The session after a navigation of the client. -/
def follow (s : Session) (outcome : Except ExchangeFault (Option Navigation)) : Session :=
  match outcome with
  | .ok (some (.patched tree _)) => { s with tree := tree }
  | _ => s

/-- The client receives an envelope in wire form. -/
def receive (s : Session) (context : Context) (raw : Json) :
    Except ExchangeFault (Option Navigation) × Session :=
  let outcome := s.client.navigate s.tree context raw
  (outcome, s.follow outcome)

/-- The server's response is sent to the client. -/
def deliver (s : Session) (context : Context) (response : Rendering Envelope) : Delivery :=
  match response.outcome with
  | .error fault => ⟨response.calls, none, .error fault, s⟩
  | .ok envelope =>
    let wire := envelope.toJson
    let (outcome, s) := s.receive context wire
    ⟨response.calls, some wire, outcome, s⟩

/-- The client navigates to the next tree. -/
def navigate (s : Session) (prev : Option RouteTree) (next : RouteTree) (mode : RenderMode) :
    Delivery := s.deliver .navigation (s.server.navigation prev next mode)

/-- The client invokes an action. -/
def act (s : Session) (update : Option (Option RouteTree × RouteTree)) (result : Json) : Delivery :=
  s.deliver .action (s.server.action update result)

/-- The server redirects the client. -/
def redirect (s : Session) (context : Context) (url : String) : Delivery :=
  s.deliver context (pure (s.server.redirect context url))

/-- The client applies one data path to its tree. -/
def patch (s : Session) (path : DataPath) : Except ExchangeFault (PlacedContent × Session) :=
  match path.applyTo s.tree with
  | .ok tree => .ok (path.placedContent, { s with tree := tree })
  | .error fault => .error (.route fault)

end Session

end RouteSync
