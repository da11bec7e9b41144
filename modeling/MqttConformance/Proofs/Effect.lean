import Mathlib
import MqttConformance.Effect

/-! How effects end. `Effect.Ends` says of an effect in given surroundings how it ends, what it has
done by then and which files it leaves; what it logs is left open, since no effect reads the log.
There is one rule for each operation, and `Ends.bind` puts two effects together. -/

namespace MqttConformance

namespace Action

/-- Whether an action sends a request. -/
def isSend : Action → Bool
  | .send _ => true
  | _ => false

/-- Whether an action reaches a service: it sends a request or opens a channel. -/
def isContact : Action → Bool
  | .send _ | .connect _ => true
  | _ => false

/-- Whether an action is what a listener does on an open channel: it reads an item, passes a message
on or closes the channel. Nothing is sent on the channel by it. -/
def isListening : Action → Bool
  | .receive _ | .observe _ | .closeChannel => true
  | .send _ | .connect _ | .print _ => false

/-- The message that an action passes on. -/
def observed? : Action → Option String
  | .observe message => some message
  | _ => none

theorem isContact_eq_false {action : Action} (h : action.isListening = true) :
    action.isContact = false := by
  cases action with
  | send | connect => cases h
  | _ => rfl

theorem isSend_eq_false {action : Action} (h : action.isContact = false) :
    action.isSend = false := by
  cases action with
  | send => cases h
  | _ => rfl

end Action

/-- The number of requests sent so far. -/
def World.sent (world : World) : Nat := world.trace.countP Action.isSend

namespace Effect

variable {ε δ α β : Type} {services : Services} {world : World}
variable {outcome : Outcome ε α} {actions : List Action} {files : FileSystem}

@[simp] theorem run_services : (Effect.services : Effect ε Services).run services world =
    (.done services, world) := rfl

@[simp] theorem run_requestCount : (requestCount : Effect ε Nat).run services world =
    (.done world.sent, world) := by
  refine congrArg (fun n => (Outcome.done n, world)) (List.countP_congr fun action _ => ?_)
  cases action <;> exact Iff.rfl

/-- An effect has a value only if its first part has one. -/
theorem done_of_bind {a : Effect ε α} {next : α → Effect ε β} {value : β} {world' : World}
    (h : (a >>= next).run services world = (.done value, world')) :
    ∃ first between, a.run services world = (.done first, between) ∧
      (next first).run services between = (.done value, world') := by
  rw [run_bind] at h
  split at h
  · next first between ha => exact ⟨first, between, ha, h⟩
  all_goals cases h

/-- In the given surroundings the effect ends with `outcome`, after `actions`, leaving `files`. -/
def Ends (a : Effect ε α) (services : Services) (world : World) (outcome : Outcome ε α)
    (actions : List Action) (files : FileSystem) : Prop :=
  ∃ events, a.run services world =
    (outcome, ⟨files, world.trace ++ actions, world.log ++ events⟩)

namespace Ends

theorem outcome_eq {a : Effect ε α} (h : a.Ends services world outcome actions files) :
    (a.run services world).1 = outcome := by
  obtain ⟨events, h⟩ := h
  rw [h]

theorem trace_eq {a : Effect ε α} (h : a.Ends services world outcome actions files) :
    (a.run services world).2.trace = world.trace ++ actions := by
  obtain ⟨events, h⟩ := h
  rw [h]

theorem files_eq {a : Effect ε α} (h : a.Ends services world outcome actions files) :
    (a.run services world).2.files = files := by
  obtain ⟨events, h⟩ := h
  rw [h]

theorem pure {value : α} (hf : world.files = files) :
    (Pure.pure value : Effect ε α).Ends services world (.done value) [] files :=
  hf ▸ ⟨[], by simp⟩

theorem fail {error : ε} (hf : world.files = files) :
    (Effect.fail error : Effect ε α).Ends services world (.failed error) [] files :=
  hf ▸ ⟨[], by simp⟩

theorem block (hf : world.files = files) :
    (Effect.block : Effect ε α).Ends services world .blocked [] files := hf ▸ ⟨[], by simp⟩

theorem ofOutcome (hf : world.files = files) :
    (Effect.ofOutcome outcome).Ends services world outcome [] files :=
  hf ▸ ⟨[], by simp⟩

theorem act {action : Action} (hf : world.files = files) :
    (Effect.act action : Effect ε Unit).Ends services world (.done ()) [action] files :=
  hf ▸ ⟨[], by simp⟩

theorem report {event : Log.Event} (hf : world.files = files) :
    (Effect.report event : Effect ε Unit).Ends services world (.done ()) [] files :=
  hf ▸ ⟨[event], by simp⟩

theorem passed {passing : α × List Log.Event} (hf : world.files = files) :
    (Effect.passed passing : Effect ε α).Ends services world (.done passing.1) [] files :=
  hf ▸ ⟨passing.2, by simp⟩

theorem setFiles :
    (Effect.setFiles files : Effect ε Unit).Ends services world (.done ()) [] files :=
  ⟨[], by simp⟩

theorem readFiles (hf : world.files = files) :
    (Effect.files : Effect ε FileSystem).Ends services world (.done files) [] files :=
  hf ▸ ⟨[], by simp⟩

theorem readServices (hf : world.files = files) :
    (Effect.services : Effect ε Services).Ends services world (.done services) [] files :=
  hf ▸ ⟨[], by simp⟩

theorem lift {wrap : δ → ε} {result : Except δ α} (hf : world.files = files) :
    (Effect.lift wrap result).Ends services world (.ofExcept (result.mapError wrap)) [] files := by
  cases result with
  | ok value => exact pure hf
  | error fault => exact fail hf

theorem ofExcept {result : Except ε α} (hf : world.files = files) :
    (Effect.ofExcept result).Ends services world (.ofExcept result) [] files := by
  cases result with
  | ok value => exact pure hf
  | error error => exact fail hf

/-- The second effect starts in a world of which only the files and the number of requests are
known; nothing else in a world changes what an effect does. -/
theorem bind {a : Effect ε α} {next : α → Effect ε β} {value : α} {first second : List Action}
    {between after : FileSystem} {outcome : Outcome ε β}
    (ha : a.Ends services world (.done value) first between)
    (hnext : ∀ world' : World, world'.sent = world.sent + first.countP Action.isSend →
      world'.files = between → (next value).Ends services world' outcome second after) :
    (a >>= next).Ends services world outcome (first ++ second) after := by
  obtain ⟨events, ha⟩ := ha
  have hsent : (⟨between, world.trace ++ first, world.log ++ events⟩ : World).sent =
      world.sent + first.countP Action.isSend := List.countP_append
  obtain ⟨more, hb⟩ := hnext _ hsent rfl
  refine ⟨events ++ more, ?_⟩
  rw [run_bind, ha]
  simpa only [List.append_assoc] using hb

/-- An effect before one without actions. -/
theorem bind_then_quiet {a : Effect ε α} {next : α → Effect ε β} {value : α}
    {after : FileSystem} {outcome : Outcome ε β}
    (ha : a.Ends services world (.done value) actions files)
    (hnext : ∀ world' : World, world'.files = files →
      (next value).Ends services world' outcome [] after) :
    (a >>= next).Ends services world outcome actions after := by
  simpa using ha.bind fun world' _ hf => hnext world' hf

/-- An effect without actions before another. -/
theorem bind_quiet {a : Effect ε α} {next : α → Effect ε β} {value : α} {between : FileSystem}
    {outcome : Outcome ε β} (ha : a.Ends services world (.done value) [] between)
    (hnext : ∀ world' : World, world'.sent = world.sent → world'.files = between →
      (next value).Ends services world' outcome actions files) :
    (a >>= next).Ends services world outcome actions files := ha.bind hnext

theorem bind_failed {a : Effect ε α} {next : α → Effect ε β} {error : ε}
    (ha : a.Ends services world (.failed error) actions files) :
    (a >>= next).Ends services world (.failed error) actions files := by
  obtain ⟨events, ha⟩ := ha
  exact ⟨events, by rw [run_bind, ha]⟩

theorem bind_blocked {a : Effect ε α} {next : α → Effect ε β}
    (ha : a.Ends services world .blocked actions files) :
    (a >>= next).Ends services world .blocked actions files := by
  obtain ⟨events, ha⟩ := ha
  exact ⟨events, by rw [run_bind, ha]⟩

theorem bind_crashed {a : Effect ε α} {next : α → Effect ε β} {message : String}
    (ha : a.Ends services world (.crashed message) actions files) :
    (a >>= next).Ends services world (.crashed message) actions files := by
  obtain ⟨events, ha⟩ := ha
  exact ⟨events, by rw [run_bind, ha]⟩

/-- An effect before one that only looks at its value. -/
theorem bind_map {a : Effect ε α} {next : α → Effect ε β} {f : α → β}
    (ha : a.Ends services world outcome actions files)
    (hnext : ∀ value (world' : World), world'.files = files →
      (next value).Ends services world' (.done (f value)) [] files) :
    (a >>= next).Ends services world (outcome.map f) actions files := by
  cases outcome with
  | done value => exact ha.bind_then_quiet (hnext value)
  | failed error => exact ha.bind_failed
  | blocked => exact ha.bind_blocked
  | crashed message => exact ha.bind_crashed

end Ends

end Effect

end MqttConformance
