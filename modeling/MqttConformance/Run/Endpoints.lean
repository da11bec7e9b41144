import MqttConformance.ClientError
import MqttConformance.Config.Client
import MqttConformance.Run.Identifier
import MqttConformance.Url.Parse
import MqttConformance.Url.Segments

/-!
Where the conformance service and its notification channel are. The routes of the service are its
base URL with segments added, so a run identifier is escaped where that is needed, and a slash at
the end of the base URL does not matter.
-/

namespace MqttConformance.Run

/-- The base URL of the service and the URL of its notification channel. -/
structure Endpoints where
  base : Url
  notification : Url
  deriving DecidableEq, Repr

namespace Endpoints

/-- The base URL that a text denotes; it has to take segments. -/
def readBase (text : String) : Except ClientError Url :=
  match Url.ofText text with
  | .error fault => .error (.url fault)
  | .ok url => if url.cannotBeBase then .error (.endpoint url.render) else .ok url

/-- The notification URL that a text denotes. -/
def readNotification (text : String) : Except ClientError Url :=
  match Url.ofText text with
  | .error fault => .error (.url fault)
  | .ok url =>
    if url.scheme = "ws" ∨ url.scheme = "wss" then .ok url
    else .error (.endpoint ("notification URL must use ws:// or wss://, got " ++ url.render))

/-- The endpoints that two texts denote. -/
def ofTexts (base notification : String) : Except ClientError Endpoints := do
  let base ← readBase base
  let notification ← readNotification notification
  return ⟨base, notification⟩

def ofConfig (config : Config.Endpoints) : Except ClientError Endpoints :=
  ofTexts config.baseUrl config.notificationUrl

/-- The base URL with segments added. -/
def route (e : Endpoints) (segments : List String) : Except ClientError Url :=
  match e.base.extend? segments with
  | some url => .ok url
  | none => .error (.endpoint e.base.render)

/-- Where configurations are submitted. -/
def submitUrl (e : Endpoints) : Except ClientError Url :=
  e.route ["conformance", "cfg", "mqtt", "broker"]

/-- Where a run is started. -/
def startUrl (e : Endpoints) (id : Identifier) : Except ClientError Url :=
  e.route ["conformance", "run", "mqtt", id.text]

/-- Where the archive of a run is. -/
def downloadUrl (e : Endpoints) (id : Identifier) : Except ClientError Url :=
  e.route ["history", "download", "mqtt", id.text]

end Endpoints

end MqttConformance.Run
