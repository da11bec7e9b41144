import MqttConformance.Proofs.Exchange
import MqttConformance.Proofs.Steady

/-!
# Requests in the log

What an effect does and logs is told by the calls of the HTTP client that it makes (`Narrated`). A
call of a URL with a host is logged by two events next to each other, one before it is sent and one
that says what became of it (`Http.Request.bracket`). Nothing else logs such events, and no error is
logged but for a call that has to succeed and does not (`Http.Request.faults`). What these events
hold is written out here, and not taken from the client. `Effect.Tells` says so of an effect in given
surroundings and for given calls, `Effect.Calls` wherever it runs; there is one rule for each
operation on effects.
-/

namespace MqttConformance

namespace Log.Event

variable (event : Event)

def isError : Bool := event.level == .error

/-- That a request is about to be sent. -/
def opensRequest : Bool := event.source == .http && event.message == "sending request"

/-- What has become of a request. -/
def closesRequest : Bool := event.source == .http &&
  (event.message == "request completed" ||
    "request failed: ".toList.isPrefixOf event.message.toList)

def isAboutRequest : Bool := event.opensRequest || event.closesRequest

/-- Neither an error nor about a request. -/
def isQuiet : Bool := !event.isError && !event.isAboutRequest

variable {event}

theorem isQuiet_iff : event.isQuiet = true ↔ event.isError = false ∧
    event.opensRequest = false ∧ event.closesRequest = false := by
  simp [isQuiet, isAboutRequest]

end Log.Event

open Log (Event FieldValue)

/-- Whether an answer has a code from 200 up to 299. -/
def Http.Response.succeeds (response : Response) : Bool :=
  200 ≤ response.status.code && response.status.code < 300

namespace Http.Request

section

variable (r : Request)

/-- The interface that a request is made of. -/
def interface : String :=
  match r.api with
  | .submit => "conformance-cfg"
  | .start => "conformance-run"
  | .download => "history-download"

/-- Interface, method and URL of a request, as every event about it has them. -/
def described : List (String × FieldValue) :=
  [("api", .name r.interface),
    ("method", .text (match r.method with | .get => "GET" | .post => "POST")),
    ("url", .text r.url.render)]

/-- The event before a request is sent. -/
def openingEvent : Event where
  level := .debug
  source := .http
  message := "sending request"
  fields := r.described

/-- The event that says what has become of a request: an answer with its status, or no answer. -/
def closingEvent : Except Failure Response → Event
  | .ok response =>
    { level := .info
      source := .http
      message := "request completed"
      fields := r.described ++ [("status", .number response.status.code)] }
  | .error failure =>
    { level := .warn
      source := .http
      message := "request failed: " ++ failure.message
      fields := r.described }

/-- What the client logs about a request. A request to a URL without a host is not logged. -/
def bracket (result : Except Failure Response) : List Event :=
  if r.url.hasHost then [r.openingEvent, r.closingEvent result] else []

/-- That there is no answer, or one other than success. -/
def isUnsuccessful : Except Failure Response → Bool
  | .error _ => true
  | .ok response => !response.succeeds

/-- The error that a request has no answer. -/
def unansweredError (failure : Failure) : Event where
  level := .error
  source := .faults
  message := r.interface ++ ": request failed, error: " ++ failure.shown
  fields := []

/-- The error that an answer is no success. -/
def refusedError (response : Response) : Event where
  level := .error
  source := .http
  message := "request returned an error status"
  fields := [("operation", .name r.interface), ("status", .number response.status.code),
    ("url", .text response.url.render)]

/-- What is logged about a request that had to succeed. -/
def faults : Except Failure Response → List Event
  | .error failure => [r.unansweredError failure]
  | .ok response => if response.succeeds then [] else [r.refusedError response]

end

variable {r : Request} {services : Services} {world : World}

/-! ## The client as an equation -/

theorem label_api : r.api.label = r.interface := by
  unfold interface
  cases r.api <;> rfl

theorem fields_eq : r.fields = r.described := by
  unfold fields described
  rw [label_api]
  cases r.method <;> rfl

theorem sendingEvent_eq : r.sendingEvent = r.openingEvent := by
  rw [sendingEvent, fields_eq, openingEvent]

theorem completedEvent_eq {response : Response} :
    r.completedEvent response.status = r.closingEvent (.ok response) := by
  rw [completedEvent, fields_eq, closingEvent]

theorem failedEvent_eq {failure : Failure} :
    r.failedEvent failure = r.closingEvent (.error failure) := by
  rw [failedEvent, fields_eq, closingEvent]

theorem run_answered (hhost : r.url.hasHost = true) : r.answered.run services world =
    (.done (r.exchange services world.sent), { world with trace := world.trace ++ r.sends }) := by
  unfold answered exchange sends leaves
  by_cases h : r.url.scheme = "http" ∨ r.url.scheme = "https"
  · simp [h, hhost, Effect.run_bind]
  · simp [h, hhost]

/-- The log has no say in what becomes of a request. -/
theorem run_send : r.send.run services world =
    (.done (r.exchange services world.sent), { world with
      trace := world.trace ++ r.sends
      log := world.log ++ r.bracket (r.exchange services world.sent) }) := by
  unfold send bracket
  cases hhost : r.url.hasHost with
  | false => simp [exchange, sends, leaves, hhost]
  | true =>
    have hsent (events : List Event) : (World.sent { world with log := events }) = world.sent := rfl
    simp only [Bool.not_true, Bool.false_eq_true, if_false, if_true, Effect.run_bind,
      Effect.run_report, run_answered hhost, hsent]
    cases r.exchange services world.sent with
    | ok response => simp [Effect.run_bind, sendingEvent_eq, completedEvent_eq]
    | error failure => simp [Effect.run_bind, sendingEvent_eq, failedEvent_eq]

/-- What is logged in passing of a request without an answer. -/
theorem passResult_send {result : Except Failure Response} :
    (Log.passResult .error (r.api.label ++ ": request failed") result).2 =
      match result with
      | .ok _ => []
      | .error failure => [r.unansweredError failure] := by
  cases result with
  | ok response => rfl
  | error failure =>
    have hmessage : r.interface ++ ": request failed" ++ ", error: " =
        r.interface ++ ": request failed, error: " := String.append_assoc
    show [Log.faultEvent .error (r.api.label ++ ": request failed") failure] = _
    rw [Log.faultEvent, label_api, hmessage]
    rfl

theorem refusedEvent_eq {response : Response} : r.refusedEvent response = r.refusedError response := by
  rw [refusedEvent, label_api, refusedError]

theorem run_sendChecked : r.sendChecked.run services world =
    (.ofExcept (r.accepted services world.sent), { world with
      trace := world.trace ++ r.sends
      log := world.log ++ (r.bracket (r.exchange services world.sent) ++
        r.faults (r.exchange services world.sent)) }) := by
  unfold sendChecked accepted
  rw [Effect.run_bind, run_send]
  simp only [Effect.run_bind, Effect.run_passed, Log.passResult_fst, passResult_send]
  cases r.exchange services world.sent with
  | error failure => simp [faults, Outcome.ofExcept]
  | ok response =>
    cases hs : response.status.isSuccess with
    | true =>
      have hsucceeds : response.succeeds = true := hs
      simp [hs, hsucceeds, faults, Outcome.ofExcept]
    | false =>
      have hsucceeds : response.succeeds = false := hs
      simp [hs, hsucceeds, Effect.run_bind, faults, refusedEvent_eq, Outcome.ofExcept]

end Http.Request

/-! ## Calls and what tells of them -/

namespace Http.Request

variable {r : Request} {result : Except Failure Response}

theorem kind_openingEvent : r.openingEvent.isError = false ∧
    r.openingEvent.opensRequest = true ∧ r.openingEvent.closesRequest = false := by
  simp only [Event.isError, Event.opensRequest, Event.closesRequest, openingEvent]
  decide

theorem kind_closingEvent : (r.closingEvent result).isError = false ∧
    (r.closingEvent result).opensRequest = false ∧
    (r.closingEvent result).closesRequest = true := by
  cases result with
  | ok response =>
    simp only [Event.isError, Event.opensRequest, Event.closesRequest, closingEvent]
    decide
  | error failure =>
    have hprefix : "request failed: ".toList.isPrefixOf
        (r.closingEvent (.error failure)).message.toList := by
      rw [closingEvent, String.toList_append]
      exact List.isPrefixOf_iff_prefix.2 (List.prefix_append _ _)
    have hmessage : (r.closingEvent (.error failure)).message ≠ "sending request" := by
      intro h
      rw [h] at hprefix
      revert hprefix
      decide
    refine ⟨rfl, ?_, ?_⟩
    · rw [Event.opensRequest, beq_eq_false_iff_ne.2 hmessage, Bool.and_false]
    · rw [Event.closesRequest, hprefix, Bool.or_true, Bool.and_true]
      rfl

/-- A fault is one event, which is not about a request. -/
theorem faults_eq : (isUnsuccessful result = false ∧ r.faults result = []) ∨
    isUnsuccessful result = true ∧ ∃ event, r.faults result = [event] ∧ event.isError = true ∧
      event.opensRequest = false ∧ event.closesRequest = false := by
  cases result with
  | error failure => exact .inr ⟨rfl, _, rfl, rfl, rfl, rfl⟩
  | ok response =>
    cases hs : response.succeeds with
    | true => exact .inl (by simp [faults, isUnsuccessful, hs])
    | false =>
      have hrefused : (r.refusedError response).isError = true ∧
          (r.refusedError response).opensRequest = false ∧
          (r.refusedError response).closesRequest = false := by
        simp only [Event.isError, Event.opensRequest, Event.closesRequest, refusedError]
        decide
      exact .inr ⟨by simp [isUnsuccessful, hs], _, by simp [faults, hs], hrefused⟩

theorem kind_of_mem_bracket {event : Event} (h : event ∈ r.bracket result) :
    event.isError = false ∧ event.isAboutRequest = true := by
  unfold bracket at h
  split at h
  · rcases List.mem_pair.1 h with rfl | rfl
    · simp [Event.isAboutRequest, kind_openingEvent]
    · simp [Event.isAboutRequest, kind_closingEvent]
  · cases h

end Http.Request

/-- A call of the HTTP client and what has become of it. -/
structure Call where
  request : Http.Request
  result : Except Http.Failure Http.Response

namespace Call

variable (c : Call)

/-- The errors that are logged about a call. The start of a run does not have to succeed. -/
def errors : List Event := if c.request.api = .start then [] else c.request.faults c.result

/-- What is logged about a call. -/
def events : List Event := c.request.bracket c.result ++ c.errors

/-- Whether a call has to succeed and does not. -/
def isFault : Bool := c.request.api != .start && Http.Request.isUnsuccessful c.result

variable {c}

theorem kind_of_mem_errors {event : Event} (h : event ∈ c.errors) :
    event.isError = true ∧ event.isAboutRequest = false := by
  unfold errors at h
  split at h
  · cases h
  · rcases @Http.Request.faults_eq c.request c.result with ⟨-, hnone⟩ | ⟨-, fault, hone, hkind⟩
    · rw [hnone] at h
      cases h
    · rw [hone] at h
      obtain rfl := List.mem_singleton.1 h
      simp [hkind, Event.isAboutRequest]

theorem filter_events : c.events.filter Event.isAboutRequest = c.request.bracket c.result := by
  have hbracket := List.filter_eq_self.2 fun event (h : event ∈ c.request.bracket c.result) =>
    (Http.Request.kind_of_mem_bracket h).2
  have herrors : c.errors.filter Event.isAboutRequest = [] :=
    List.filter_eq_nil_iff.2 fun event h => by simp [(kind_of_mem_errors h).2]
  rw [events, List.filter_append, hbracket, herrors, List.append_nil]

theorem filter_isError_events : c.events.filter Event.isError = c.errors := by
  have hbracket : (c.request.bracket c.result).filter Event.isError = [] :=
    List.filter_eq_nil_iff.2 fun event h => by simp [(Http.Request.kind_of_mem_bracket h).1]
  have herrors := List.filter_eq_self.2 fun event (h : event ∈ c.errors) =>
    (kind_of_mem_errors h).1
  rw [events, List.filter_append, hbracket, herrors, List.nil_append]

theorem length_errors : c.errors.length = c.isFault.toNat := by
  unfold errors isFault
  by_cases hstart : c.request.api = .start
  · simp [hstart]
  · rw [if_neg hstart, bne_iff_ne.2 hstart]
    rcases @Http.Request.faults_eq c.request c.result with ⟨hu, hnone⟩ | ⟨hu, _, hone, -⟩
    · simp [hu, hnone]
    · simp [hu, hone]

theorem countP_isError : c.events.countP Event.isError = c.isFault.toNat := by
  rw [List.countP_eq_length_filter, filter_isError_events, length_errors]

/-- Only the events about a request tell of one. -/
theorem countP_eq_bracket {p : Event → Bool}
    (h : ∀ event, event.isAboutRequest = false → p event = false) :
    c.events.countP p = (c.request.bracket c.result).countP p := by
  have herrors : c.errors.countP p = 0 :=
    List.countP_eq_zero.2 fun event hmem => by simp [h event (kind_of_mem_errors hmem).2]
  rw [events, List.countP_append, herrors, Nat.add_zero]

theorem countP_opensRequest :
    c.events.countP Event.opensRequest = c.request.url.hasHost.toNat := by
  rw [countP_eq_bracket fun _ h => (Bool.or_eq_false_iff.1 h).1]
  unfold Http.Request.bracket
  cases c.request.url.hasHost <;>
    simp [Http.Request.kind_openingEvent, Http.Request.kind_closingEvent]

theorem countP_closesRequest :
    c.events.countP Event.closesRequest = c.request.url.hasHost.toNat := by
  rw [countP_eq_bracket fun _ h => (Bool.or_eq_false_iff.1 h).2]
  unfold Http.Request.bracket
  cases c.request.url.hasHost <;>
    simp [Http.Request.kind_openingEvent, Http.Request.kind_closingEvent]

end Call

/-- Actions and events, in their order, that come from calls of the HTTP client: each call that
leaves is an action, and logs its events next to each other; between calls nothing is sent, and the
log is quiet. `Given` says what becomes of a call by the number of requests before it. -/
inductive Narrated (Given : Nat → Call → Prop) :
    Nat → List Action → List Event → List Call → Prop
  | nil {n : Nat} : Narrated Given n [] [] []
  | act {n : Nat} {action : Action} {actions : List Action} {events : List Event}
      {calls : List Call} : action.isSend = false → Narrated Given n actions events calls →
      Narrated Given n (action :: actions) events calls
  | event {n : Nat} {event : Event} {actions : List Action} {events : List Event}
      {calls : List Call} : event.isQuiet = true → Narrated Given n actions events calls →
      Narrated Given n actions (event :: events) calls
  | call {n : Nat} {c : Call} {actions : List Action} {events : List Event}
      {calls : List Call} : Given n c →
      Narrated Given (n + c.request.sends.length) actions events calls →
      Narrated Given n (c.request.sends ++ actions) (c.events ++ events) (c :: calls)

namespace Narrated

variable {Given Given' : Nat → Call → Prop} {n : Nat} {actions actions' : List Action}
variable {events events' : List Event} {calls calls' : List Call}

theorem single {c : Call} (h : Given n c) :
    Narrated Given n c.request.sends c.events [c] := by
  simpa using Narrated.call h .nil

/-- Quiet events tell of no call. -/
theorem quiet (h : ∀ event ∈ events, event.isQuiet = true) : Narrated Given n [] events [] := by
  induction events with
  | nil => exact .nil
  | cons event events ih =>
    obtain ⟨hevent, hevents⟩ := List.forall_mem_cons.1 h
    exact .event hevent (ih hevents)

theorem mono (hgiven : ∀ n c, Given n c → Given' n c) (h : Narrated Given n actions events calls) :
    Narrated Given' n actions events calls := by
  induction h with
  | nil => exact .nil
  | act ha _ ih => exact .act ha ih
  | event he _ ih => exact .event he ih
  | call hc _ ih => exact .call (hgiven _ _ hc) ih

/-- What holds of every call can be added to what becomes of it. -/
theorem and {P : Call → Prop} (h : Narrated Given n actions events calls)
    (hall : ∀ c ∈ calls, P c) : Narrated (fun n c => P c ∧ Given n c) n actions events calls := by
  induction h with
  | nil => exact .nil
  | act ha _ ih => exact .act ha (ih hall)
  | event he _ ih => exact .event he (ih hall)
  | call hc _ ih =>
    obtain ⟨hfirst, hrest⟩ := List.forall_mem_cons.1 hall
    exact .call ⟨hfirst, hc⟩ (ih hrest)

theorem countP_sends (r : Http.Request) : r.sends.countP Action.isSend = r.sends.length := by
  unfold Http.Request.sends
  split <;> rfl

theorem append (h : Narrated Given n actions events calls)
    (h' : Narrated Given (n + actions.countP Action.isSend) actions' events' calls') :
    Narrated Given n (actions ++ actions') (events ++ events') (calls ++ calls') := by
  induction h with
  | nil => exact h'
  | act ha _ ih =>
    refine .act ha (ih ?_)
    rwa [List.countP_cons_of_neg (by simp [ha])] at h'
  | event he _ ih => exact .event he (ih h')
  | @call n c actions events calls hc _ ih =>
    rw [List.countP_append, countP_sends, ← Nat.add_assoc] at h'
    rw [List.append_assoc, List.append_assoc]
    exact .call hc (ih h')

theorem given_of_mem {c : Call} (h : Narrated Given n actions events calls) (hc : c ∈ calls) :
    ∃ n, Given n c := by
  induction h with
  | nil => cases hc
  | act _ _ ih => exact ih hc
  | event _ _ ih => exact ih hc
  | call hgiven _ ih =>
    rcases List.mem_cons.1 hc with rfl | hc
    · exact ⟨_, hgiven⟩
    · exact ih hc

/-- What is sent is what the calls send. -/
theorem sends_eq (h : Narrated Given n actions events calls) :
    actions.filter Action.isSend = calls.flatMap (·.request.sends) := by
  induction h with
  | nil => rfl
  | act ha _ ih => rwa [List.filter_cons_of_neg (by simp [ha])]
  | event _ _ ih => exact ih
  | @call n c actions events calls _ _ ih =>
    have hsends : c.request.sends.filter Action.isSend = c.request.sends := by
      rw [List.filter_eq_self, ← List.countP_eq_length]
      exact countP_sends _
    rw [List.filter_append, hsends, ih, List.flatMap_cons]

/-- As many requests are sent as calls leave. -/
theorem countP_isSend (h : Narrated Given n actions events calls) :
    actions.countP Action.isSend = calls.countP (·.request.leaves) := by
  induction h with
  | nil => rfl
  | act ha _ ih => rwa [List.countP_cons_of_neg (by simp [ha])]
  | event _ _ ih => exact ih
  | @call n c actions events calls _ _ ih =>
    rw [List.countP_append, countP_sends, ih, List.countP_cons, Nat.add_comm]
    unfold Http.Request.sends
    cases c.request.leaves <;> rfl

/-- The events about requests are the pairs of the calls, one after another. -/
theorem filter_isAboutRequest (h : Narrated Given n actions events calls) :
    events.filter Event.isAboutRequest = calls.flatMap fun c => c.request.bracket c.result := by
  induction h with
  | nil => rfl
  | act _ _ ih => exact ih
  | event he _ ih =>
    obtain ⟨-, hopens, hcloses⟩ := Event.isQuiet_iff.1 he
    rwa [List.filter_cons_of_neg (by simp [Event.isAboutRequest, hopens, hcloses])]
  | @call n c actions events calls _ _ ih =>
    rw [List.filter_append, Call.filter_events, ih, List.flatMap_cons]

/-- What is counted of the events of each call is counted of all events, if it is not counted of
quiet events. -/
theorem countP_events {p : Event → Bool} {q : Call → Bool}
    (h : Narrated Given n actions events calls)
    (hquiet : ∀ event : Event, event.isQuiet = true → p event = false)
    (hcall : ∀ c : Call, c.events.countP p = (q c).toNat) :
    events.countP p = calls.countP q := by
  induction h with
  | nil => rfl
  | act _ _ ih => exact ih
  | event he _ ih => rwa [List.countP_cons_of_neg (by simp [hquiet _ he])]
  | @call n c actions events calls _ _ ih =>
    rw [List.countP_append, hcall, ih, List.countP_cons, Nat.add_comm]
    cases q c <;> rfl

/-- The errors are those of the calls, one after another. -/
theorem filter_isError (h : Narrated Given n actions events calls) :
    events.filter Event.isError = calls.flatMap Call.errors := by
  induction h with
  | nil => rfl
  | act _ _ ih => exact ih
  | event he _ ih => rwa [List.filter_cons_of_neg (by simp [(Event.isQuiet_iff.1 he).1])]
  | @call n c actions events calls _ _ ih =>
    rw [List.filter_append, Call.filter_isError_events, ih, List.flatMap_cons]

theorem countP_isError (h : Narrated Given n actions events calls) :
    events.countP Event.isError = calls.countP Call.isFault :=
  h.countP_events (fun _ hquiet => (Event.isQuiet_iff.1 hquiet).1) fun _ => Call.countP_isError

/-- Each call of a URL with a host is logged by one event before it and one after it. -/
theorem countP_opensRequest (h : Narrated Given n actions events calls) :
    events.countP Event.opensRequest = calls.countP (·.request.url.hasHost) :=
  h.countP_events (fun _ hquiet => (Event.isQuiet_iff.1 hquiet).2.1) fun _ => Call.countP_opensRequest

theorem countP_closesRequest (h : Narrated Given n actions events calls) :
    events.countP Event.closesRequest = calls.countP (·.request.url.hasHost) :=
  h.countP_events (fun _ hquiet => (Event.isQuiet_iff.1 hquiet).2.2) fun _ => Call.countP_closesRequest

end Narrated

/-! ## Effects that are told by calls -/

namespace Effect

variable {ε δ α β : Type} {services : Services} {world : World} {calls calls' : List Call}

/-- In the given surroundings, what the effect does and logs is told by the calls. -/
def Tells (a : Effect ε α) (services : Services) (world : World) (calls : List Call) : Prop :=
  ∃ actions events, (a.run services world).2.trace = world.trace ++ actions ∧
    (a.run services world).2.log = world.log ++ events ∧
    Narrated (fun n c => c.result = c.request.exchange services n) world.sent actions events calls

/-- Wherever it runs, the effect is told by calls, and they are calls of the requests `P`. -/
def Calls (P : Http.Request → Prop) (a : Effect ε α) : Prop :=
  ∀ services world, ∃ calls, (∀ c ∈ calls, P c.request) ∧ a.Tells services world calls

namespace Tells

variable {a : Effect ε α} {next : α → Effect ε β}

theorem of_unchanged
    (h : ∃ outcome files, a.run services world = (outcome, { world with files := files })) :
    a.Tells services world [] := by
  obtain ⟨outcome, files, h⟩ := h
  exact ⟨[], [], by rw [h, List.append_nil], by rw [h, List.append_nil], .nil⟩

theorem bind_done {value : α} {world' : World} (hrun : a.run services world = (.done value, world'))
    (ha : a.Tells services world calls) (hnext : (next value).Tells services world' calls') :
    (a >>= next).Tells services world (calls ++ calls') := by
  obtain ⟨actions, events, htrace, hlog, hcalls⟩ := ha
  obtain ⟨actions', events', htrace', hlog', hcalls'⟩ := hnext
  rw [hrun] at htrace hlog
  dsimp only at htrace hlog
  rw [World.sent, htrace, List.countP_append] at hcalls'
  refine ⟨actions ++ actions', events ++ events', ?_, ?_, hcalls.append hcalls'⟩
  · rw [run_bind, hrun, htrace', htrace, List.append_assoc]
  · rw [run_bind, hrun, hlog', hlog, List.append_assoc]

theorem bind_halt {halt : Halt ε} {world' : World}
    (hrun : a.run services world = (halt.outcome, world')) (ha : a.Tells services world calls) :
    (a >>= next).Tells services world calls := by
  have hbind : ((a >>= next).run services world).2 = (a.run services world).2 := by
    rw [run_bind, hrun]
    cases halt <;> rfl
  unfold Tells at *
  rwa [hbind]

/-- An effect before one that makes no calls. -/
theorem bind (ha : a.Tells services world calls)
    (hnext : ∀ value, (next value).Calls fun _ => False) :
    (a >>= next).Tells services world calls := by
  cases hrun : a.run services world with
  | mk outcome world' =>
    rcases outcome.done_or_halt with ⟨value, rfl⟩ | ⟨halt, rfl⟩
    · obtain ⟨calls', hnone, hcalls'⟩ := hnext value services world'
      obtain rfl : calls' = [] := List.eq_nil_iff_forall_not_mem.2 hnone
      simpa using ha.bind_done hrun hcalls'
    · exact ha.bind_halt hrun

theorem value_bind {value : α} (hnext : (next value).Tells services world calls) :
    (Effect.ofExcept (.ok value) >>= next).Tells services world calls := hnext

theorem report {event : Event} (h : event.isQuiet = true) :
    (Effect.report event : Effect ε Unit).Tells services world [] :=
  ⟨[], [event], (List.append_nil _).symm, rfl, .event h .nil⟩

theorem report_bind {event : Event} {next : Unit → Effect ε β} (h : event.isQuiet = true)
    (hnext : ∀ world' : World, world'.sent = world.sent → (next ()).Tells services world' calls) :
    (Effect.report event >>= next).Tells services world calls :=
  (report h).bind_done (run_report event services world) (hnext _ rfl)

end Tells

namespace Calls

variable {P : Http.Request → Prop}

theorem of_tells {a : Effect ε α} (h : ∀ services world, a.Tells services world []) : a.Calls P :=
  fun services world => ⟨[], fun _ hmem => (List.not_mem_nil hmem).elim, h services world⟩

theorem pure (value : α) : (Pure.pure value : Effect ε α).Calls P :=
  .of_tells fun _ _ => .of_unchanged ⟨_, _, rfl⟩

theorem fail (error : ε) : (Effect.fail error : Effect ε α).Calls P :=
  .of_tells fun _ _ => .of_unchanged ⟨_, _, rfl⟩

theorem block : (Effect.block : Effect ε α).Calls P :=
  .of_tells fun _ _ => .of_unchanged ⟨_, _, rfl⟩

theorem ofOutcome (outcome : Outcome ε α) : (Effect.ofOutcome outcome).Calls P :=
  .of_tells fun _ _ => .of_unchanged ⟨_, _, rfl⟩

theorem readFiles : (Effect.files : Effect ε FileSystem).Calls P :=
  .of_tells fun _ _ => .of_unchanged ⟨_, _, rfl⟩

theorem setFiles (fs : FileSystem) : (Effect.setFiles fs : Effect ε Unit).Calls P :=
  .of_tells fun _ _ => .of_unchanged ⟨_, _, rfl⟩

theorem readServices : (Effect.services : Effect ε Services).Calls P :=
  .of_tells fun _ _ => .of_unchanged ⟨_, _, rfl⟩

theorem report {event : Event} (h : event.isQuiet = true) :
    (Effect.report event : Effect ε Unit).Calls P := .of_tells fun _ _ => .report h

theorem passed {passing : α × List Event} (h : ∀ event ∈ passing.2, event.isQuiet = true) :
    (Effect.passed passing : Effect ε α).Calls P :=
  .of_tells fun _ _ => ⟨[], passing.2, (List.append_nil _).symm, rfl, .quiet h⟩

theorem act {action : Action} (h : action.isSend = false) :
    (Effect.act action : Effect ε Unit).Calls P :=
  .of_tells fun _ _ => ⟨[action], [], rfl, (List.append_nil _).symm, .act h .nil⟩

theorem lift (wrap : δ → ε) (result : Except δ α) : (Effect.lift wrap result).Calls P := by
  cases result with
  | ok value => exact pure value
  | error fault => exact fail _

theorem ofExcept (result : Except ε α) : (Effect.ofExcept result).Calls P := lift _ result

theorem ite {c : Prop} [Decidable c] {a b : Effect ε α} (ha : a.Calls P) (hb : b.Calls P) :
    (if c then a else b).Calls P := by
  split
  · exact ha
  · exact hb

theorem bind {a : Effect ε α} {next : α → Effect ε β} (ha : a.Calls P)
    (hnext : ∀ value, (next value).Calls P) : (a >>= next).Calls P := by
  intro services world
  obtain ⟨calls, hall, hcalls⟩ := ha services world
  cases hrun : a.run services world with
  | mk outcome world' =>
    rcases outcome.done_or_halt with ⟨value, rfl⟩ | ⟨halt, rfl⟩
    · obtain ⟨calls', hall', hcalls'⟩ := hnext value services world'
      refine ⟨calls ++ calls', fun c hmem => ?_, hcalls.bind_done hrun hcalls'⟩
      rcases List.mem_append.1 hmem with hmem | hmem
      · exact hall c hmem
      · exact hall' c hmem
    · exact ⟨calls, hall, hcalls.bind_halt hrun⟩

/-- An effect that makes one call, at a target that it may lack. -/
theorem of_target {target : Except ε Url} {next : Url → Effect ε α} {r : Url → Http.Request}
    (h : ∀ url, target = .ok url → P (r url))
    (htells : ∀ url, target = .ok url → ∀ services world,
      (Effect.ofExcept target >>= next).Tells services world
        [⟨r url, (r url).exchange services world.sent⟩]) :
    (Effect.ofExcept target >>= next).Calls P := by
  intro services world
  cases target with
  | error error =>
    exact ⟨[], fun _ hmem => (List.not_mem_nil hmem).elim, .of_unchanged ⟨.failed error, _, rfl⟩⟩
  | ok url => exact ⟨_, fun c hc => List.mem_singleton.1 hc ▸ h url rfl, htells url rfl _ _⟩

end Calls

/-- The effect logs one error if the request finds no answer or one other than success, and none
otherwise. -/
def FaultsWith (a : Effect ε α) (r : Http.Request) : Prop :=
  ∀ (services : Services) (world : World), ∃ events,
    (a.run services world).2.log = world.log ++ events ∧
    (∀ failure, r.exchange services world.sent = .error failure →
      events.filter Event.isError = [r.unansweredError failure]) ∧
    ∀ response, r.exchange services world.sent = .ok response →
      events.filter Event.isError = if response.succeeds then [] else [r.refusedError response]

/-- An effect that makes one call, of a request that has to succeed. -/
theorem FaultsWith.of_tells {a : Effect ε α} {r : Http.Request} (h : r.api ≠ .start)
    (ha : ∀ services world, a.Tells services world [⟨r, r.exchange services world.sent⟩]) :
    a.FaultsWith r := by
  intro services world
  obtain ⟨actions, events, -, hlog, hcalls⟩ := ha services world
  have herrors : events.filter Event.isError = r.faults (r.exchange services world.sent) := by
    rw [hcalls.filter_isError, List.flatMap_singleton, Call.errors, if_neg h]
  refine ⟨events, hlog, fun failure hr => ?_, fun response hr => ?_⟩
  · rw [herrors, hr, Http.Request.faults]
  · rw [herrors, hr, Http.Request.faults]

end Effect

/-! ## The client -/

namespace Http

open Effect (Calls Tells)

variable {P : Request → Prop} {r : Request} {services : Services} {world : World}

theorem Client.calls_build (config : Config.Http) (userAgent : String) :
    (Client.build config userAgent).Calls P := by
  have hwarning : Client.certificateWarning.isQuiet = true := by decide +kernel
  have hrest : (if Client.isHeaderText userAgent then
      pure ⟨userAgent, !config.acceptInvalidCerts⟩
      else Effect.fail (.http .userAgent) : Activity Client).Calls P := .ite (.pure _) (.fail _)
  unfold Client.build
  exact .ite (.bind (.report hwarning) fun _ => hrest) hrest

theorem Request.send_tells (h : r.api = .start) :
    r.send.Tells services world [⟨r, r.exchange services world.sent⟩] := by
  have hevents : r.bracket (r.exchange services world.sent) =
      Call.events ⟨r, r.exchange services world.sent⟩ := by
    rw [Call.events, Call.errors, if_pos h, List.append_nil]
  refine ⟨r.sends, _, by rw [run_send], by rw [run_send], ?_⟩
  rw [hevents]
  exact Narrated.single (c := ⟨r, _⟩) rfl

theorem Request.sendChecked_tells (h : r.api ≠ .start) :
    r.sendChecked.Tells services world [⟨r, r.exchange services world.sent⟩] := by
  have hevents : r.bracket (r.exchange services world.sent) ++
      r.faults (r.exchange services world.sent) =
      Call.events ⟨r, r.exchange services world.sent⟩ := by
    rw [Call.events, Call.errors, if_neg h]
  refine ⟨r.sends, _, by rw [run_sendChecked], by rw [run_sendChecked], ?_⟩
  rw [hevents]
  exact Narrated.single (c := ⟨r, _⟩) rfl

end Http

end MqttConformance
