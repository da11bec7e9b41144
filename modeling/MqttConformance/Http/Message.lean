import MqttConformance.FileSystem
import MqttConformance.Http.Status
import MqttConformance.Log.Passing
import MqttConformance.Url.Basic

/-!
Requests to the conformance service and what becomes of them. A body arrives in chunks, and either
all of it arrives or it breaks off with a failure.
-/

namespace MqttConformance.Http

/-- The three things that the client asks of the service. -/
inductive Api where
  | submit
  | start
  | download
  deriving DecidableEq, Repr

/-- The name of the interface in messages. -/
def Api.label : Api → String
  | submit => "conformance-cfg"
  | start => "conformance-run"
  | download => "history-download"

/-- The request method. -/
inductive Method where
  | get
  | post
  deriving DecidableEq, Repr

def Method.name : Method → String
  | get => "GET"
  | post => "POST"

/-- A request; only a submission has a body. -/
structure Request where
  api : Api
  method : Method
  url : Url
  body : Option Bytes := none
  deriving DecidableEq, Repr

/-- What lies below a failure: the messages that lead from the client down to the system, and how
log records show all of it. -/
structure Cause where
  messages : List String
  shown : String
  deriving DecidableEq, Repr

/-- Why an exchange did not work out. -/
inductive Failure where
  /-- The request could not be sent. -/
  | sending (url : Url) (cause : Cause)
  /-- The scheme is not one that requests are sent to. -/
  | scheme (url : Url)
  /-- The answers led from one place to the next and never ended. -/
  | redirecting (url : Url) (cause : Cause)
  /-- The body broke off. -/
  | reading (cause : Cause)
  /-- The text that names the client cannot stand in a header. -/
  | userAgent
  deriving DecidableEq, Repr

namespace Failure

def message : Failure → String
  | sending url _ => "error sending request for url (" ++ url.render ++ ")"
  | scheme url => "builder error for url (" ++ url.render ++ ")"
  | redirecting url _ => "error following redirect for url (" ++ url.render ++ ")"
  | reading _ => "error decoding response body"
  | userAgent => "builder error"

/-- The messages below the failure's own. -/
def causes : Failure → List String
  | sending _ cause => cause.messages
  | scheme _ => ["URL scheme is not allowed"]
  | redirecting _ cause => cause.messages
  | reading cause => cause.messages
  | userAgent => ["failed to parse header value"]

/-- The kind of the failure, the URL that it names, and how its cause is shown. -/
def parts : Failure → String × Option Url × String
  | sending url cause => ("Request", some url, cause.shown)
  | scheme url => ("Builder", some url, "BadScheme")
  | redirecting url cause => ("Redirect", some url, cause.shown)
  | reading cause => ("Decode", none, cause.shown)
  | userAgent => ("Builder", none, "http::Error(InvalidHeaderValue)")

/-- The failure of an exchange as log records show it. -/
def shown (failure : Failure) : String :=
  let (kind, url, source) := failure.parts
  let place := (url.map fun url => ", url: " ++ Text.quote url.render).getD ""
  "Reqwest(reqwest::Error \x7b kind: " ++ kind ++ place ++ ", source: " ++ source ++ " \x7d)"

instance : Log.Described Failure := ⟨shown⟩

end Failure

/-- The text of some bytes, without a byte order mark. -/
def Body.textOf : Bytes → String
  | 0xef :: 0xbb :: 0xbf :: rest => Utf8.decodeLossy rest
  | bytes => Utf8.decodeLossy bytes

/-- The body of an answer: the chunks that arrive, what cuts it short, and how its bytes read as
text, which depends on the kind of content that the answer declares. -/
structure Body where
  chunks : List Bytes
  failure : Option Failure := none
  decode : Bytes → String := Body.textOf

namespace Body

/-- All bytes that arrive. -/
def bytes (b : Body) : Bytes := b.chunks.flatten

/-- The body as a stream of chunks, a failure last. -/
def stream (b : Body) : List (Except IoFault Bytes) :=
  b.chunks.map .ok ++ (b.failure.map fun f => .error (.other f.message)).toList

/-- The text of a body that arrives completely. -/
def text (b : Body) : Except Failure String :=
  match b.failure with
  | some failure => .error failure
  | none => .ok (b.decode b.bytes)

theorem text_of_failure {b : Body} {failure : Failure} (h : b.failure = some failure) :
    b.text = .error failure := by
  rw [text, h]

theorem text_of_complete {b : Body} (h : b.failure = none) : b.text = .ok (b.decode b.bytes) := by
  rw [text, h]

end Body

/-- An answer, with the place that gave it. -/
structure Response where
  status : Status
  url : Url
  body : Body

end MqttConformance.Http
