import RouteSync.Exchange.Envelope
import RouteSync.Json.Reader
import RouteSync.Patching

/-!
# Clients

A client reads the responses made by the build it runs, and applies what they carry to its tree. A
response is decoded before its build is looked at.
-/

namespace RouteSync

/-- The build that a client runs, and the limits on the trees it accepts. -/
structure Client where
  buildId : String
  limits : Limits

namespace Client

/-- Reads an envelope of the client's own build. -/
def read (client : Client) (context : Context) (raw : Json) : Except ExchangeFault Envelope := do
  let envelope ← Envelope.ofJsonWithin client.limits context raw
  if envelope.buildId = client.buildId then .ok envelope
  else .error (.staleBuild client.buildId envelope.buildId)

/-- Reads an envelope from the value that a reader takes from a text. -/
def readTextBy (read? : String → Option Json) (client : Client) (context : Context)
    (text : String) : Except ExchangeFault Envelope :=
  match read? text with
  | some raw => client.read context raw
  | none => .error .notJson

/-- Reads the text of an envelope. -/
def readText (client : Client) (context : Context) (text : String) :
    Except ExchangeFault Envelope :=
  client.readTextBy Json.ofText? context text

/-- Reads an envelope and applies its flight data, if it has any, to the client's tree. -/
def navigate (client : Client) (base : RouteTree) (context : Context) (raw : Json) :
    Except ExchangeFault (Option Navigation) := do
  let envelope ← client.read context raw
  match envelope.data? with
  | none => .ok none
  | some data => (data.applyTo base |>.map some).mapError .route

end Client

end RouteSync
