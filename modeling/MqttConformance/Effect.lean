import MqttConformance.ClientError
import MqttConformance.Log.Event
import MqttConformance.Outcome
import MqttConformance.Run.Copy

/-!
Effects: what the client does in its surroundings. An effect runs against services, which answer
each request, open each channel and store what is written, and against a world, which holds the
files, the actions so far and the log. It ends with a value, with an error, with a wait that never
ends, or with a crash.
-/

namespace MqttConformance

/-- Something the client does that its surroundings notice. -/
inductive Action where
  | send (request : Http.Request)
  | connect (url : Url)
  | receive (item : Channel.Item)
  | observe (message : String)
  | closeChannel
  | print (line : String)
  deriving DecidableEq, Repr

/-- What the services do: the answer to a request, by the number of requests before it, the channel
behind a URL, and how the disk takes what is written to a new file. -/
structure Services where
  answer : Nat → Http.Request → Except Http.Failure Http.Response
  channel : Url → Except Channel.Fault Channel
  disk : Run.Copy.Writer := {}

/-- Services that no network leads to. -/
def Services.unreachable : Services where
  answer _ request :=
    .error (.sending request.url {
      messages := ["client error (Connect)", "tcp connect error",
        IoFault.networkUnreachable.message]
      shown := "hyper_util::client::legacy::Error(Connect, ConnectError(\"tcp connect error\", " ++
        IoFault.networkUnreachable.shown ++ "))" })
  channel _ := .error (.io .networkUnreachable)

/-- The surroundings of the client. -/
structure World where
  files : FileSystem
  trace : List Action := []
  log : List Log.Event := []
  deriving Repr

/-- Something that is done in the surroundings, with a value or an error at its end. -/
def Effect (ε α : Type) : Type := Services → World → Outcome ε α × World

/-- Something the client does. -/
abbrev Activity (α : Type) : Type := Effect ClientError α

namespace Effect

variable {ε δ α β : Type}

/-- An effect in given surroundings. -/
def run (a : Effect ε α) (services : Services) (world : World) : Outcome ε α × World :=
  a services world

protected def pure (value : α) : Effect ε α := fun _ world => (.done value, world)

/-- One effect after another; the second starts only if the first has a value. -/
protected def bind (a : Effect ε α) (next : α → Effect ε β) : Effect ε β := fun services world =>
  match a services world with
  | (.done value, world) => next value services world
  | (.failed error, world) => (.failed error, world)
  | (.blocked, world) => (.blocked, world)
  | (.crashed message, world) => (.crashed message, world)

instance : Monad (Effect ε) where
  pure := Effect.pure
  bind := Effect.bind

@[simp] theorem run_pure (value : α) (services : Services) (world : World) :
    (pure value : Effect ε α).run services world = (.done value, world) := rfl

theorem run_bind (a : Effect ε α) (next : α → Effect ε β) (services : Services) (world : World) :
    (a >>= next).run services world =
      match a.run services world with
      | (.done value, world) => (next value).run services world
      | (.failed error, world) => (.failed error, world)
      | (.blocked, world) => (.blocked, world)
      | (.crashed message, world) => (.crashed message, world) := rfl

/-- Ends with an error. -/
def fail (error : ε) : Effect ε α := fun _ world => (.failed error, world)

/-- Waits for ever. -/
def block : Effect ε α := fun _ world => (.blocked, world)

/-- Ends as a computation has ended. -/
def ofOutcome (outcome : Outcome ε α) : Effect ε α := fun _ world => (outcome, world)

/-- The value of a computation that may fail. -/
def lift (wrap : δ → ε) : Except δ α → Effect ε α
  | .ok value => pure value
  | .error fault => fail (wrap fault)

/-- The value of a computation with errors of the same kind. -/
def ofExcept (result : Except ε α) : Effect ε α := lift (fun error => error) result

/-- The same effect with its error seen in another way. -/
def mapError (f : δ → ε) (a : Effect δ α) : Effect ε α := fun services world =>
  match a services world with
  | (.done value, world) => (.done value, world)
  | (.failed error, world) => (.failed (f error), world)
  | (.blocked, world) => (.blocked, world)
  | (.crashed message, world) => (.crashed message, world)

/-- Does something that the surroundings notice. -/
def act (action : Action) : Effect ε Unit := fun _ world =>
  (.done (), { world with trace := world.trace ++ [action] })

/-- Logs an event. -/
def report (event : Log.Event) : Effect ε Unit := fun _ world =>
  (.done (), { world with log := world.log ++ [event] })

/-- A value, with the events that are logged in passing. -/
def passed (passing : α × List Log.Event) : Effect ε α := fun _ world =>
  (.done passing.1, { world with log := world.log ++ passing.2 })

/-- The files as they are. -/
def files : Effect ε FileSystem := fun _ world => (.done world.files, world)

def setFiles (files : FileSystem) : Effect ε Unit := fun _ world =>
  (.done (), { world with files := files })

/-- The services. -/
def services : Effect ε Services := fun services world => (.done services, world)

/-- The number of requests so far. -/
def requestCount : Effect ε Nat := fun _ world =>
  (.done (world.trace.countP fun | .send _ => true | _ => false), world)

@[simp] theorem run_fail (error : ε) (services : Services) (world : World) :
    (fail error : Effect ε α).run services world = (.failed error, world) := rfl

@[simp] theorem run_block (services : Services) (world : World) :
    (block : Effect ε α).run services world = (.blocked, world) := rfl

@[simp] theorem run_ofOutcome (outcome : Outcome ε α) (services : Services) (world : World) :
    (ofOutcome outcome).run services world = (outcome, world) := rfl

@[simp] theorem run_act (action : Action) (services : Services) (world : World) :
    (act action : Effect ε Unit).run services world =
      (.done (), { world with trace := world.trace ++ [action] }) := rfl

@[simp] theorem run_report (event : Log.Event) (services : Services) (world : World) :
    (report event : Effect ε Unit).run services world =
      (.done (), { world with log := world.log ++ [event] }) := rfl

@[simp] theorem run_passed (passing : α × List Log.Event) (services : Services) (world : World) :
    (passed passing : Effect ε α).run services world =
      (.done passing.1, { world with log := world.log ++ passing.2 }) := rfl

@[simp] theorem run_files (services : Services) (world : World) :
    (files : Effect ε FileSystem).run services world = (.done world.files, world) := rfl

@[simp] theorem run_setFiles (fs : FileSystem) (services : Services) (world : World) :
    (setFiles fs : Effect ε Unit).run services world = (.done (), { world with files := fs }) := rfl

end Effect

end MqttConformance
