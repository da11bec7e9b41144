import MqttConformance.Effect
import MqttConformance.Text.Blank

/-!
The wait for the end of a run. Texts that arrive on the notification channel are passed on, one by
one, until the channel ends, until the service closes it, or until a text equals the completion
marker up to blanks around it. Nothing bounds the wait: a channel that stays open and silent holds
it up for ever. Nor does anything bound the count of messages, which is a number here.
-/

namespace MqttConformance.Run

/-- Why a wait ended. -/
inductive Completion where
  | channelClosed
  | markerReceived
  deriving DecidableEq, Repr

/-- The name of the reason in messages. -/
def Completion.label : Completion → String
  | channelClosed => "ChannelClosed"
  | markerReceived => "MarkerReceived"

/-- How a wait ended, and how many messages came before. -/
structure WaitOutcome where
  messagesReceived : Nat
  reason : Completion
  deriving DecidableEq, Repr

/-- A wait on a channel for a completion marker. -/
structure Waiter where
  url : Url
  marker : Option String
  deriving DecidableEq, Repr

namespace Waiter

/-- A marker of blanks alone is none. -/
def ofMarker (url : Url) (marker : Option String) : Waiter :=
  ⟨url, marker.filter fun m => !(Text.trimChars m.toList).isEmpty⟩

/-- Whether a text ends the wait. -/
def isMarker (w : Waiter) (text : String) : Bool :=
  match w.marker with
  | some marker => Text.trimChars text.toList == Text.trimChars marker.toList
  | none => false

def event (level : Log.Level) (message : String) : Log.Event := ⟨level, .completion, message, []⟩

def waitingEvent (w : Waiter) : Log.Event :=
  event .info ("Waiting for completion on " ++ w.url.render)

/-- What is logged if there is no marker to wait for. -/
def noMarkerText : String :=
  "No completion marker configured; waiting for the service to close the channel"

def endedEvent (count : Nat) : Log.Event :=
  event .info ("Notification channel ended after " ++ toString count ++ " messages")

def droppedEvent (fault : Channel.Fault) : Log.Event :=
  event .warn ("Notification channel dropped without a close handshake: " ++ fault.message)

def closedEvent (count : Nat) (reason : Option Channel.CloseReason) : Log.Event :=
  event .info ("Notification channel closed by the service after " ++ toString count ++
    " messages: " ++ Channel.describeClose reason)

def messageEvent (count : Nat) (text : String) : Log.Event :=
  event .debug ("Notification " ++ toString count ++ ": " ++ text)

def markerEvent (count : Nat) : Log.Event :=
  event .info ("Completion marker received after " ++ toString count ++ " messages")

def ignoredEvent (item : Channel.Item) : Log.Event :=
  event .debug ("Ignoring " ++ item.describe ++ " after close")

def lateFaultEvent (fault : Channel.Fault) : Log.Event :=
  event .debug ("Notification channel error after close: " ++ fault.message)

/-- Reads on after the service has closed the channel, until it fails or ends. -/
def drain (tail : Channel.Tail) : List Channel.Item → Activity Unit
  | [] =>
    match tail with
    | .ended => pure ()
    | .silent => Effect.block
  | item :: items => do
    Effect.act (.receive item)
    match item with
    | .fault fault => if fault.isPeerGone then return else Effect.report (lateFaultEvent fault)
    | item =>
      Effect.report (ignoredEvent item)
      drain tail items

/-- Closes the channel; that it fails changes nothing. -/
def close (closing : Except Channel.Fault Unit) : Activity Unit := do
  Effect.act .closeChannel
  let _ ← Effect.passed (Log.passResult .warn "closing the notification channel" closing)

/-- Passes a message on. -/
def deliver (count : Nat) (text : String) : Activity Unit := do
  Effect.report (messageEvent count text)
  Effect.act (.observe text)

/-- The text of an item that carries a message. -/
def message? : Channel.Item → Option String
  | .text s => some s
  | .binary bytes => some (Utf8.decodeLossy bytes)
  | _ => none

/-- Follows the items of a channel, with the number of messages so far. -/
def follow (w : Waiter) (channel : Channel) : List Channel.Item → Nat → Activity WaitOutcome
  | [], count =>
    match channel.tail with
    | .ended => do
      Effect.report (endedEvent count)
      return ⟨count, .channelClosed⟩
    | .silent => Effect.block
  | item :: items, count => do
    Effect.act (.receive item)
    match item with
    | .fault fault =>
      if fault.isPeerGone then
        Effect.report (droppedEvent fault)
        return ⟨count, .channelClosed⟩
      else Effect.fail (.channel fault)
    | .close reason =>
      Effect.report (closedEvent count reason)
      drain channel.tail items
      return ⟨count, .channelClosed⟩
    | item =>
      match message? item with
      | none => follow w channel items count
      | some text =>
        deliver (count + 1) text
        if w.isMarker text then
          Effect.report (markerEvent (count + 1))
          close channel.closing
          return ⟨count + 1, .markerReceived⟩
        else follow w channel items (count + 1)

/-- Opens the notification channel. -/
def connect (w : Waiter) : Activity Channel := do
  Effect.act (.connect w.url)
  Effect.lift .channel ((← Effect.services).channel w.url)

/-- Waits for the end of a run. -/
def wait (w : Waiter) : Activity WaitOutcome := do
  Effect.report w.waitingEvent
  let _ ← Effect.passed (Log.passOption .info noMarkerText w.marker)
  let channel ← w.connect
  w.follow channel channel.items 0

end Waiter

end MqttConformance.Run
