import MqttConformance.Effect
import MqttConformance.Config.Client

/-!
The HTTP client: it sends requests and logs each one together with what became of it. A request to a
URL without a host is refused before it is logged, one with a foreign scheme after. How long a request
has taken is not logged here, and the services decide whether a timeout has cut it short.
-/

namespace MqttConformance.Http

/-- A client, by the text that names it in requests and by whether it checks certificates. -/
structure Client where
  userAgent : String
  verifiesCertificates : Bool
  deriving DecidableEq, Repr

namespace Client

/-- The name that the client gives itself. -/
def defaultUserAgent : String := "mqtt-compliance/0.1.0"

/-- Whether a text can stand in a header: it has no control other than the tab. -/
def isHeaderText (s : String) : Bool :=
  (Utf8.encode s).all fun b => (b ≥ 0x20 && b != 0x7f) || b == 0x09

def certificateWarning : Log.Event where
  level := .warn
  source := .http
  message := "TLS certificate verification is disabled for the conformance service"

/-- A client with the given settings. -/
def build (config : Config.Http) (userAgent : String) : Activity Client := do
  if config.acceptInvalidCerts then Effect.report certificateWarning
  if isHeaderText userAgent then return ⟨userAgent, !config.acceptInvalidCerts⟩
  else Effect.fail (.http .userAgent)

end Client

namespace Request

/-- What log records say about a request. -/
def fields (r : Request) : List (String × Log.FieldValue) :=
  [("api", .name r.api.label), ("method", .text r.method.name), ("url", .text r.url.render)]

def sendingEvent (r : Request) : Log.Event :=
  ⟨.debug, .http, "sending request", r.fields⟩

def completedEvent (r : Request) (status : Status) : Log.Event :=
  ⟨.info, .http, "request completed", r.fields ++ [("status", .number status.code)]⟩

def failedEvent (r : Request) (failure : Failure) : Log.Event :=
  ⟨.warn, .http, "request failed: " ++ failure.message, r.fields⟩

/-- The answer that the services give, if the scheme is one that requests are sent to. -/
def answered (r : Request) : Activity (Except Failure Response) := do
  if r.url.scheme = "http" ∨ r.url.scheme = "https" then
    let n ← Effect.requestCount
    Effect.act (.send r)
    return (← Effect.services).answer n r
  else return .error (.scheme r.url)

/-- Sends a request. -/
def send (r : Request) : Activity (Except Failure Response) := do
  if !r.url.hasHost then return .error (.scheme r.url)
  Effect.report r.sendingEvent
  let result ← r.answered
  match result with
  | .ok response => Effect.report (r.completedEvent response.status)
  | .error failure => Effect.report (r.failedEvent failure)
  return result

/-- That the answer was no success. -/
def refusedEvent (r : Request) (response : Response) : Log.Event :=
  ⟨.error, .http, "request returned an error status",
    [("operation", .name r.api.label), ("status", .number response.status.code),
      ("url", .text response.url.render)]⟩

/-- Sends a request that has to succeed. -/
def sendChecked (r : Request) : Activity Response := do
  let result ← r.send
  match ← Effect.passed (Log.passResult .error (r.api.label ++ ": request failed") result) with
  | .error failure => Effect.fail (.sending failure)
  | .ok response =>
    if response.status.isSuccess then return response
    else
      Effect.report (r.refusedEvent response)
      Effect.fail (.refused r.api response.status)

end Request

end MqttConformance.Http
