import MqttConformance.Channel
import MqttConformance.Http.Message
import MqttConformance.Json.Error

/-!
Why the client gave up, from the configuration of a run to its archive, with the messages an
operator reads: one for the error itself and one for each cause below it.
-/

namespace MqttConformance

/-- An error of the client. -/
inductive ClientError where
  | configUnreadable (path : Path) (fault : IoFault)
  | configInvalid (error : Json.Error)
  | endpoint (text : String)
  | url (fault : Url.Fault)
  | receiptInvalid (error : Json.Error)
  | identifierMissing
  | identifierInvalid (text : String)
  | refused (api : Http.Api) (status : Http.Status)
  | io (fault : IoFault)
  | sending (failure : Http.Failure)
  | http (failure : Http.Failure)
  | channel (fault : Channel.Fault)
  deriving DecidableEq, Repr

namespace ClientError

def message : ClientError → String
  | configUnreadable path fault =>
    "Cannot read run configuration " ++ Text.quotePath path.bytes ++ ": " ++ fault.message
  | configInvalid error => "Run configuration is not valid JSON: " ++ error.message
  | endpoint text => "Invalid endpoint URL: " ++ text
  | url fault => "Parse Error: " ++ fault.message
  | receiptInvalid error => "Submission response is not valid JSON: " ++ error.message
  | identifierMissing => "Submission response has no \"timestamp\" field"
  | identifierInvalid text => "Invalid run identifier: " ++ text
  | refused api status => api.label ++ " failed with HTTP status " ++ status.render
  | io fault => "IO Error: " ++ fault.message
  | sending failure => "ReqwestMiddleware Error: " ++ failure.message
  | http failure => "Reqwest Error: " ++ failure.message
  | channel fault => "Notification channel error: " ++ fault.message

/-- The messages below the error's own. -/
def causes : ClientError → List String
  | configUnreadable _ fault => [fault.message]
  | configInvalid error => [error.message]
  | url fault => [fault.message]
  | receiptInvalid error => [error.message]
  | io fault => [fault.message]
  | sending failure => failure.message :: failure.causes
  | http failure => failure.message :: failure.causes
  | channel fault => fault.message :: fault.causes
  | endpoint _ | identifierMissing | identifierInvalid _ | refused _ _ => []

end ClientError

end MqttConformance
