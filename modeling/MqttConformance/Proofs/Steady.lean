import MqttConformance.Proofs.Effect
import MqttConformance.Run.Workflow

/-! What the phases of a run depend on. An effect is steady if the services, the files and the
number of requests before it settle how it ends, what it does and which files it leaves; the actions
that it may do are part of the notion. Every operation is steady, and so is what is put together
from steady effects. So a phase comes to the same wherever it is carried out, whatever has been
logged or printed before. -/

namespace MqttConformance

/-- Whether an action prints a line. -/
def Action.isPrint : Action → Bool
  | .print _ => true
  | _ => false

@[simp] theorem Action.isPrint_print (line : String) : (Action.print line).isPrint = true := rfl

/-- The ways to end without a value. -/
inductive Halt (ε : Type) where
  | failed (error : ε)
  | blocked
  | crashed (message : String)

namespace Halt

variable {ε δ α β : Type}

def outcome : Halt ε → Outcome ε α
  | failed error => .failed error
  | blocked => .blocked
  | crashed message => .crashed message

def map (f : ε → δ) : Halt ε → Halt δ
  | failed error => .failed (f error)
  | blocked => .blocked
  | crashed message => .crashed message

end Halt

theorem Outcome.done_or_halt {ε α : Type} (outcome : Outcome ε α) :
    (∃ value, outcome = .done value) ∨ ∃ halt : Halt ε, outcome = halt.outcome := by
  cases outcome with
  | done value => exact .inl ⟨value, rfl⟩
  | failed error => exact .inr ⟨.failed error, rfl⟩
  | blocked => exact .inr ⟨.blocked, rfl⟩
  | crashed message => exact .inr ⟨.crashed message, rfl⟩

namespace Effect

variable {ε δ α β : Type} {services : Services} {world : World} {actions : List Action}
variable {files : FileSystem} {halt : Halt ε}

/-! ## Ends that depend on little -/

/-- With `n` requests before it and the given files, the effect ends with `outcome`, after
`actions`, leaving `after`. -/
def EndsFrom (a : Effect ε α) (services : Services) (n : Nat) (files : FileSystem)
    (outcome : Outcome ε α) (actions : List Action) (after : FileSystem) : Prop :=
  ∀ world : World, world.sent = n → world.files = files →
    a.Ends services world outcome actions after

namespace EndsFrom

variable {n : Nat} {between after : FileSystem} {first second : List Action}

theorem bind {a : Effect ε α} {next : α → Effect ε β} {value : α} {outcome : Outcome ε β}
    (ha : a.EndsFrom services n files (.done value) first between)
    (hnext : (next value).EndsFrom services (n + first.countP Action.isSend) between outcome second
      after) :
    (a >>= next).EndsFrom services n files outcome (first ++ second) after := by
  intro world hn hf
  refine (ha world hn hf).bind fun world' hn' hf' => hnext world' ?_ hf'
  rw [hn', hn]

/-- An effect without actions that leaves the files alone. -/
theorem quiet_bind {a : Effect ε α} {next : α → Effect ε β} {value : α} {outcome : Outcome ε β}
    (ha : a.EndsFrom services n files (.done value) [] files)
    (hnext : (next value).EndsFrom services n files outcome actions after) :
    (a >>= next).EndsFrom services n files outcome actions after := ha.bind hnext

/-- Nothing comes after an effect without a value. -/
theorem bind_halt {a : Effect ε α} {next : α → Effect ε β}
    (h : a.EndsFrom services n files halt.outcome actions after) :
    (a >>= next).EndsFrom services n files halt.outcome actions after := by
  intro world hn hf
  have hends := h world hn hf
  cases halt with
  | failed error => exact hends.bind_failed
  | blocked => exact hends.bind_blocked
  | crashed message => exact hends.bind_crashed

theorem mapError_done {a : Effect δ α} {f : δ → ε} {value : α}
    (h : a.EndsFrom services n files (.done value) actions after) :
    (a.mapError f).EndsFrom services n files (.done value) actions after := by
  intro world hn hf
  obtain ⟨events, h⟩ := h world hn hf
  refine ⟨events, ?_⟩
  unfold run mapError at *
  rw [h]

theorem mapError_halt {a : Effect ε α} {f : ε → δ}
    (h : a.EndsFrom services n files halt.outcome actions after) :
    (a.mapError f).EndsFrom services n files (halt.map f).outcome actions after := by
  intro world hn hf
  obtain ⟨events, h⟩ := h world hn hf
  refine ⟨events, ?_⟩
  unfold run mapError at *
  rw [h]
  cases halt <;> rfl

theorem pure (value : α) :
    (Pure.pure value : Effect ε α).EndsFrom services n files (.done value) [] files :=
  fun _ _ hf => .pure hf

theorem report (event : Log.Event) :
    (Effect.report event : Effect ε Unit).EndsFrom services n files (.done ()) [] files :=
  fun _ _ hf => .report hf

theorem act (action : Action) :
    (Effect.act action : Effect ε Unit).EndsFrom services n files (.done ()) [action] files :=
  fun _ _ hf => .act hf

end EndsFrom

/-! ## Steady effects -/

/-- The services, the number of requests before it and the files settle everything about the effect
but what it logs, and it only does what is allowed. -/
def Steady (allowed : Action → Bool) (a : Effect ε α) : Prop :=
  ∀ services n files, ∃ outcome actions after, (∀ action ∈ actions, allowed action) ∧
    a.EndsFrom services n files outcome actions after

namespace Steady

variable {allowed : Action → Bool}

theorem of_quiet {a : Effect ε α} (h : ∀ services n files, ∃ outcome after,
    a.EndsFrom services n files outcome [] after) : a.Steady allowed := by
  intro services n files
  obtain ⟨outcome, after, hends⟩ := h services n files
  exact ⟨outcome, [], after, fun _ hmem => (List.not_mem_nil hmem).elim, hends⟩

theorem pure (value : α) : (Pure.pure value : Effect ε α).Steady allowed :=
  .of_quiet fun _ _ _ => ⟨_, _, .pure value⟩

theorem fail (error : ε) : (Effect.fail error : Effect ε α).Steady allowed :=
  .of_quiet fun _ _ _ => ⟨_, _, fun _ _ hf => .fail hf⟩

theorem block : (Effect.block : Effect ε α).Steady allowed :=
  .of_quiet fun _ _ _ => ⟨_, _, fun _ _ hf => .block hf⟩

theorem ofOutcome (outcome : Outcome ε α) : (Effect.ofOutcome outcome).Steady allowed :=
  .of_quiet fun _ _ _ => ⟨_, _, fun _ _ hf => .ofOutcome hf⟩

theorem report (event : Log.Event) : (Effect.report event : Effect ε Unit).Steady allowed :=
  .of_quiet fun _ _ _ => ⟨_, _, .report event⟩

theorem passed (passing : α × List Log.Event) :
    (Effect.passed passing : Effect ε α).Steady allowed :=
  .of_quiet fun _ _ _ => ⟨_, _, fun _ _ hf => .passed hf⟩

theorem readFiles : (Effect.files : Effect ε FileSystem).Steady allowed :=
  .of_quiet fun _ _ _ => ⟨_, _, fun _ _ hf => .readFiles hf⟩

theorem setFiles (fs : FileSystem) : (Effect.setFiles fs : Effect ε Unit).Steady allowed :=
  .of_quiet fun _ _ _ => ⟨_, _, fun _ _ _ => .setFiles⟩

theorem readServices : (Effect.services : Effect ε Services).Steady allowed :=
  .of_quiet fun _ _ _ => ⟨_, _, fun _ _ hf => .readServices hf⟩

theorem requestCount : (Effect.requestCount : Effect ε Nat).Steady allowed := by
  refine .of_quiet fun services n files => ⟨.done n, files, fun world hn hf => ⟨[], ?_⟩⟩
  rw [run_requestCount, hn, List.append_nil, List.append_nil, ← hf]

theorem act {action : Action} (h : allowed action) :
    (Effect.act action : Effect ε Unit).Steady allowed :=
  fun _ _ _ => ⟨_, _, _, by simpa using h, .act action⟩

theorem lift (wrap : δ → ε) (result : Except δ α) : (Effect.lift wrap result).Steady allowed := by
  cases result with
  | ok value => exact pure value
  | error fault => exact fail _

theorem ofExcept (result : Except ε α) : (Effect.ofExcept result).Steady allowed := lift _ result

theorem ite {c : Prop} [Decidable c] {a b : Effect ε α} (ha : a.Steady allowed)
    (hb : b.Steady allowed) : (if c then a else b).Steady allowed := by
  split
  · exact ha
  · exact hb

theorem bind {a : Effect ε α} {next : α → Effect ε β} (ha : a.Steady allowed)
    (hnext : ∀ value, (next value).Steady allowed) : (a >>= next).Steady allowed := by
  intro services n files
  obtain ⟨outcome, actions, between, hall, hends⟩ := ha services n files
  rcases outcome.done_or_halt with ⟨value, rfl⟩ | ⟨halt, rfl⟩
  · obtain ⟨outcome, more, after, hall', hends'⟩ :=
      hnext value services (n + actions.countP Action.isSend) between
    refine ⟨outcome, actions ++ more, after, fun action hmem => ?_, hends.bind hends'⟩
    rcases List.mem_append.1 hmem with hmem | hmem
    · exact hall action hmem
    · exact hall' action hmem
  · exact ⟨_, actions, between, hall, hends.bind_halt⟩

end Steady

end Effect

/-! ## Requests -/

namespace Http

open Effect (Steady)

theorem Client.steady_build (config : Config.Http) (userAgent : String) :
    (Client.build config userAgent).Steady Action.isSend := by
  have hrest : (if Client.isHeaderText userAgent then
      pure ⟨userAgent, !config.acceptInvalidCerts⟩
      else Effect.fail (.http .userAgent) : Activity Client).Steady Action.isSend :=
    .ite (.pure _) (.fail _)
  unfold Client.build
  exact .ite (.bind (.report _) fun _ => hrest) hrest

namespace Request

variable (r : Request)

theorem steady_answered : r.answered.Steady Action.isSend := by
  unfold answered
  refine .ite ?_ (.pure _)
  refine .bind .requestCount fun n => ?_
  refine .bind (.act rfl) fun _ => ?_
  exact .bind .readServices fun _ => .pure _

theorem steady_send : r.send.Steady Action.isSend := by
  unfold send
  refine .ite (.pure _) ?_
  refine .bind (.report _) fun _ => ?_
  refine .bind r.steady_answered fun result => ?_
  cases result with
  | ok response => exact .bind (.report _) fun _ => .pure _
  | error failure => exact .bind (.report _) fun _ => .pure _

theorem steady_sendChecked : r.sendChecked.Steady Action.isSend := by
  unfold sendChecked
  refine .bind r.steady_send fun sent => .bind (.passed _) fun result => ?_
  cases result with
  | ok response => exact .ite (.pure _) (.bind (.report _) fun _ => .fail _)
  | error failure => exact .fail _

end Request

end Http

/-! ## Phases -/

namespace Run

open Effect (Steady)

theorem Configuration.steady_load (path : Path) : (load path).Steady Action.isSend :=
  .bind .readFiles fun _ => .ofExcept _

namespace Submission

variable (e : Endpoints)

theorem steady_submit (config : Configuration) : (submit e config).Steady Action.isSend := by
  unfold submit
  refine .bind (.ofExcept _) fun url => ?_
  refine .bind (.report _) fun _ => ?_
  refine .bind (Http.Request.steady_sendChecked _) fun response => ?_
  refine .bind (.lift _ _) fun body => ?_
  refine .bind (.report _) fun _ => ?_
  refine .bind (.ofExcept _) fun id => ?_
  exact .bind (.report _) fun _ => .pure _

theorem steady_start (run : Identifier) : (start e run).Steady Action.isSend := by
  unfold start
  refine .bind (.ofExcept _) fun url => ?_
  refine .bind (.report _) fun _ => ?_
  refine .bind (Http.Request.steady_send _) fun result => ?_
  refine .bind (.lift _ _) fun response => ?_
  exact .ite (.report _) (.pure _)

end Submission

namespace Waiter

theorem steady_drain (tail : Channel.Tail) (items : List Channel.Item) :
    (drain tail items).Steady (!·.isPrint) := by
  induction items with
  | nil =>
    cases tail with
    | ended => exact .pure _
    | silent => exact .block
  | cons item items ih =>
    refine .bind (.act rfl) fun _ => ?_
    cases item with
    | fault fault => exact .ite (.pure _) (.report _)
    | _ => exact .bind (.report _) fun _ => ih

theorem steady_close (closing : Except Channel.Fault Unit) :
    (close closing).Steady (!·.isPrint) := by
  exact .bind (.act rfl) fun _ => .bind (.passed _) fun _ => .pure _

theorem steady_deliver (count : Nat) (text : String) : (deliver count text).Steady (!·.isPrint) :=
  .bind (.report _) fun _ => .act rfl

variable (w : Waiter)

theorem steady_follow (channel : Channel) (items : List Channel.Item) (count : Nat) :
    (w.follow channel items count).Steady (!·.isPrint) := by
  induction items generalizing count with
  | nil =>
    unfold follow
    cases channel.tail with
    | ended => exact .bind (.report _) fun _ => .pure _
    | silent => exact .block
  | cons item items ih =>
    have hmessage (text : String) : (do
        deliver (count + 1) text
        if w.isMarker text then
          Effect.report (markerEvent (count + 1))
          close channel.closing
          return ⟨count + 1, .markerReceived⟩
        else w.follow channel items (count + 1) : Activity WaitOutcome).Steady (!·.isPrint) := by
      refine .bind (steady_deliver _ _) fun _ => .ite ?_ (ih _)
      exact .bind (.report _) fun _ => .bind (steady_close _) fun _ => .pure _
    refine .bind (.act rfl) fun _ => ?_
    cases item with
    | fault fault => exact .ite (.bind (.report _) fun _ => .pure _) (.fail _)
    | close reason =>
      exact .bind (.report _) fun _ => .bind (steady_drain _ _) fun _ => .pure _
    | text s => exact hmessage s
    | binary bytes => exact hmessage _
    | _ => exact ih _

theorem steady_wait : w.wait.Steady (!·.isPrint) := by
  have hconnect : w.connect.Steady (!·.isPrint) :=
    .bind (.act rfl) fun _ => .bind .readServices fun _ => .lift _ _
  have hrest :=
    hconnect.bind fun channel => w.steady_follow channel channel.items 0
  unfold wait
  exact .bind (.report _) fun _ => .bind (.passed _) fun _ => hrest

end Waiter

namespace Downloader

variable (d : Downloader)

theorem steady_copyTo (place : Location) (body : Http.Body) :
    (d.copyTo place body).Steady Action.isSend := by
  unfold copyTo
  refine .bind .readServices fun _ => .bind .readFiles fun _ => ?_
  exact .bind (.setFiles _) fun _ => .ofOutcome _

theorem steady_store (path : Path) (body : Http.Body) :
    (d.store path body).Steady Action.isSend := by
  unfold store
  refine .bind .readFiles fun files => ?_
  refine .bind (.lift _ _) fun made => ?_
  exact .bind (.setFiles _) fun _ => d.steady_copyTo _ _

theorem steady_download (run : Identifier) : (d.download run).Steady Action.isSend := by
  unfold download
  refine .bind (.ofExcept _) fun url => ?_
  refine .bind (.report _) fun _ => ?_
  refine .bind (Http.Request.steady_sendChecked _) fun response => ?_
  refine .bind (d.steady_store _ _) fun count => ?_
  exact .bind (.report _) fun _ => .pure _

end Downloader

namespace Runner

theorem steady_build (config : Config.Client) : (build config).Steady Action.isSend :=
  .bind (.ofExcept _) fun _ => .bind (Http.Client.steady_build _ _) fun _ => .pure _

variable (r : Runner)

theorem steady_submit (path : Path) : (r.submit path).Steady Action.isSend := by
  unfold submit
  refine .bind (.report _) fun _ => ?_
  refine .bind (Configuration.steady_load path) fun config => ?_
  refine .bind (Submission.steady_submit _ _) fun submission => ?_
  exact .bind (Submission.steady_start _ _) fun _ => .pure _

theorem steady_wait : r.wait.Steady (!·.isPrint) := r.waiter.steady_wait

theorem steady_download (run : Identifier) : (r.download run).Steady Action.isSend :=
  r.downloader.steady_download run

end Runner

end Run

end MqttConformance
