import MqttConformance.FileSystem
import MqttConformance.Http.Status
import MqttConformance.Log.Passing

/-!
The notification channel: the items that the service sends, one after another, and how the channel
goes on after the last of them.
-/

namespace MqttConformance

namespace Channel

/-- Why the channel failed. -/
inductive Fault where
  | closed
  | alreadyClosed
  | reset
  | io (fault : IoFault)
  | refused (status : Http.Status)
  | other (text : String)
  deriving DecidableEq, Repr

namespace Fault

def message : Fault → String
  | closed => "Connection closed normally"
  | alreadyClosed => "Trying to work with closed connection"
  | reset => "WebSocket protocol error: Connection reset without closing handshake"
  | io fault => "IO error: " ++ fault.message
  | refused status => "HTTP error: " ++ status.render
  | other text => text

/-- The messages below the fault's own. -/
def causes : Fault → List String
  | reset => ["Connection reset without closing handshake"]
  | io fault => [fault.message]
  | _ => []

/-- The fault as log records show it. -/
def shown : Fault → String
  | closed => "ConnectionClosed"
  | alreadyClosed => "AlreadyClosed"
  | reset => "Protocol(ResetWithoutClosingHandshake)"
  | io fault => "Io(" ++ fault.shown ++ ")"
  | refused status => "Http(" ++ status.render ++ ")"
  | other text => text

instance : Log.Described Fault := ⟨shown⟩

/-- Whether the fault only says that the other side has gone. -/
def isPeerGone : Fault → Bool
  | closed | alreadyClosed | reset => true
  | _ => false

end Fault

/-- The reason for closing: a code and a text. -/
structure CloseReason where
  code : Nat
  text : String
  deriving DecidableEq, Repr

/-- What arrives on the channel. -/
inductive Item where
  | text (s : String)
  | binary (bytes : Bytes)
  | ping (bytes : Bytes)
  | pong (bytes : Bytes)
  | frame (bytes : Bytes)
  | close (reason : Option CloseReason)
  | fault (f : Fault)
  deriving DecidableEq, Repr

/-- A close item as log records show it. -/
def describeClose : Option CloseReason → String
  | none => "None"
  | some reason =>
    "Some(CloseFrame \x7b code: " ++ toString reason.code ++ ", reason: " ++
      Text.quote reason.text ++ " \x7d)"

/-- An item as log records show it. -/
def Item.describe : Item → String
  | text s => "Text(" ++ Text.quote s ++ ")"
  | binary bytes => "Binary(" ++ Text.quotePath bytes ++ ")"
  | ping bytes => "Ping(" ++ Text.quotePath bytes ++ ")"
  | pong bytes => "Pong(" ++ Text.quotePath bytes ++ ")"
  | frame bytes => "Frame(" ++ Text.quotePath bytes ++ ")"
  | close reason => "Close(" ++ describeClose reason ++ ")"
  | fault f => f.shown

/-- How a channel goes on after its last item. -/
inductive Tail where
  /-- It ends. -/
  | ended
  /-- It stays open, and nothing more arrives. -/
  | silent
  deriving DecidableEq, Repr

end Channel

/-- An established channel, and what becomes of an attempt to close it. -/
structure Channel where
  items : List Channel.Item
  tail : Channel.Tail
  closing : Except Channel.Fault Unit := .ok ()

end MqttConformance
