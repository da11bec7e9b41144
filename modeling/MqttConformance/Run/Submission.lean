import MqttConformance.Http.Client
import MqttConformance.Json.Printer
import MqttConformance.Run.Endpoints

/-!
The start of a run: its configuration is read, submitted and answered with an identifier, and the
run of that name is started. The configuration is any JSON document; its content is not looked at.
-/

namespace MqttConformance.Run

/-- The configuration of a run. -/
structure Configuration where
  json : Json
  deriving Repr

namespace Configuration

def ofBytes (bytes : Bytes) : Except ClientError Configuration :=
  match Json.ofBytes bytes with
  | .ok json => .ok ⟨json⟩
  | .error error => .error (.configInvalid error)

/-- The configuration in a file. -/
def ofFile (files : FileSystem) (path : Path) : Except ClientError Configuration :=
  match files.read path with
  | .ok bytes => ofBytes bytes
  | .error fault => .error (.configUnreadable path fault)

/-- Reads the configuration in a file. -/
def load (path : Path) : Activity Configuration := do
  Effect.ofExcept (ofFile (← Effect.files) path)

end Configuration

/-- What the service answered to a submission. -/
structure Submission where
  id : Identifier
  /-- The text of the answer, as it came. -/
  response : String
  deriving DecidableEq, Repr

namespace Submission

/-- The run that the body of an answer names. -/
def identifierIn (body : Bytes) : Except ClientError Identifier :=
  match Receipt.ofBytes body with
  | .error error => .error (.receiptInvalid error)
  | .ok receipt =>
    match receipt.identifier with
    | .ok id => .ok id
    | .error .missing => .error .identifierMissing
    | .error (.invalid text) => .error (.identifierInvalid text)

def info (message : String) : Log.Event := ⟨.info, .submission, message, []⟩

def request (url : Url) (config : Configuration) : Http.Request :=
  ⟨.submit, .post, url, some config.json.encode⟩

/-- Submits a configuration. -/
def submit (e : Endpoints) (config : Configuration) : Activity Submission := do
  let url ← Effect.ofExcept e.submitUrl
  Effect.report (info ("Submitting run configuration to " ++ url.render))
  let response ← (request url config).sendChecked
  let body ← Effect.lift .http response.body.text
  Effect.report (info ("Submission response: " ++ body))
  let id ← Effect.ofExcept (identifierIn (Utf8.encode body))
  Effect.report (info ("Run identifier: " ++ id.text))
  return ⟨id, body⟩

/-- That a run was started with an answer other than success. -/
def startWarning (id : Identifier) (status : Http.Status) : Log.Event :=
  ⟨.warn, .submission, "Run start for " ++ id.text ++ " returned HTTP status " ++ status.render ++
    "; continuing", []⟩

/-- Starts a run. Any answer will do. -/
def start (e : Endpoints) (run : Identifier) : Activity Unit := do
  let url ← Effect.ofExcept (e.startUrl run)
  Effect.report (info ("Starting run " ++ run.text))
  let response ← Effect.lift .sending (← (⟨.start, .get, url, none⟩ : Http.Request).send)
  if !response.status.isSuccess then Effect.report (startWarning run response.status)

end Submission

end MqttConformance.Run
