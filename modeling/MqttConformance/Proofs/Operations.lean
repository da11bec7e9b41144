import MqttConformance.Proofs.Phases
import MqttConformance.Proofs.RequestLog

/-!
# Operations in the log

The operations of a submitter, a downloader and a runner, one after another. Each of them is told by
the calls of the HTTP client that it makes, and so is a sequence of them, with services that may
change from one operation to the next (`Operation.requests_bracketed_in_log`).
-/

namespace MqttConformance

namespace Run

open Effect (Calls Tells)
open Log (Event)

variable {P : Http.Request → Prop} {services : Services} {world : World}

/-! ## The phases of a run -/

theorem Endpoints.scheme_of_route {e : Endpoints} {segments : List String} {url : Url}
    (h : e.route segments = .ok url) : url.scheme = e.base.scheme := by
  obtain ⟨path, hpath⟩ := @Url.extended_eq e.base segments
  rw [route, Url.extend?_eq_some (takesSegments_of_route h), hpath] at h
  cases h
  rfl

theorem Configuration.calls_load (path : Path) : (load path).Calls P :=
  .bind .readFiles fun _ => .ofExcept _

namespace Submission

variable {e : Endpoints} {config : Configuration} {id : Identifier} {url : Url}

theorem submit_tells (h : e.submitUrl = .ok url) : (submit e config).Tells services world
    [⟨request url config, (request url config).exchange services world.sent⟩] := by
  have hapi : (request url config).api ≠ .start := by simp [request]
  unfold submit
  rw [h]
  refine .value_bind (.report_bind (by rfl) fun world' hsent => ?_)
  rw [← hsent]
  refine (Http.Request.sendChecked_tells hapi).bind fun response => ?_
  refine .bind (.lift _ _) fun body => ?_
  refine .bind (.report rfl) fun _ => ?_
  refine .bind (.ofExcept _) fun id => ?_
  exact .bind (.report rfl) fun _ => .pure _

theorem start_tells (h : e.startUrl id = .ok url) : (start e id).Tells services world
    [⟨⟨.start, .get, url, none⟩,
      Http.Request.exchange ⟨.start, .get, url, none⟩ services world.sent⟩] := by
  unfold start
  rw [h]
  refine .value_bind (.report_bind (by rfl) fun world' hsent => ?_)
  rw [← hsent]
  refine (Http.Request.send_tells rfl).bind fun result => ?_
  refine .bind (.lift _ _) fun response => ?_
  exact .ite (.report rfl) (.pure _)

/-- What the start of a run logs once it has an answer. -/
theorem log_start {response : Http.Response} (h : e.startUrl id = .ok url)
    (hr : Http.Request.exchange ⟨.start, .get, url, none⟩ services world.sent = .ok response) :
    let r : Http.Request := ⟨.start, .get, url, none⟩
    ((start e id).run services world).2.log = world.log ++
      (info ("Starting run " ++ id.text) :: (r.bracket (.ok response) ++
        if response.status.isSuccess then [] else [startWarning id response.status])) := by
  intro r
  have hsend (events : List Event) : (r.send.run services { world with log := events }) =
      (.done (.ok response), { world with
        trace := world.trace ++ r.sends
        log := events ++ r.bracket (.ok response) }) := by
    rw [Http.Request.run_send, show Http.Request.exchange r services
      (World.sent { world with log := events }) = .ok response from hr]
  unfold start
  rw [h]
  cases hs : response.status.isSuccess with
  | true => simp [Effect.run_bind, Effect.ofExcept, Effect.lift, hsend, hs, r]
  | false => simp [Effect.run_bind, Effect.ofExcept, Effect.lift, hsend, hs, r]

theorem calls_submit (h : ∀ url, e.submitUrl = .ok url → P (request url config)) :
    (submit e config).Calls P := Calls.of_target h fun _ hurl _ _ => submit_tells hurl

theorem calls_start (h : ∀ url, e.startUrl id = .ok url → P ⟨.start, .get, url, none⟩) :
    (start e id).Calls P := Calls.of_target h fun _ hurl _ _ => start_tells hurl

end Submission

namespace Waiter

theorem calls_drain (tail : Channel.Tail) (items : List Channel.Item) :
    (drain tail items).Calls P := by
  induction items with
  | nil =>
    cases tail with
    | ended => exact .pure _
    | silent => exact .block
  | cons item items ih =>
    refine .bind (.act rfl) fun _ => ?_
    cases item with
    | fault fault => exact .ite (.pure _) (.report rfl)
    | _ => exact .bind (.report rfl) fun _ => ih

theorem calls_close (closing : Except Channel.Fault Unit) : (close closing).Calls P := by
  refine .bind (.act rfl) fun _ => .bind (.passed ?_) fun _ => .pure _
  cases closing with
  | ok _ => exact List.forall_mem_nil _
  | error fault => exact List.forall_mem_singleton.2 rfl

variable (w : Waiter)

theorem calls_follow (channel : Channel) (items : List Channel.Item) (count : Nat) :
    (w.follow channel items count).Calls P := by
  induction items generalizing count with
  | nil =>
    unfold follow
    cases channel.tail with
    | ended => exact .bind (.report rfl) fun _ => .pure _
    | silent => exact .block
  | cons item items ih =>
    have hmessage (text : String) : (do
        deliver (count + 1) text
        if w.isMarker text then
          Effect.report (markerEvent (count + 1))
          close channel.closing
          return ⟨count + 1, .markerReceived⟩
        else w.follow channel items (count + 1) : Activity WaitOutcome).Calls P := by
      refine .bind (.bind (.report rfl) fun _ => .act rfl) fun _ => .ite ?_ (ih _)
      exact .bind (.report rfl) fun _ => .bind (calls_close _) fun _ => .pure _
    refine .bind (.act rfl) fun _ => ?_
    cases item with
    | fault fault => exact .ite (.bind (.report rfl) fun _ => .pure _) (.fail _)
    | close reason =>
      exact .bind (.report rfl) fun _ => .bind (calls_drain _ _) fun _ => .pure _
    | text s => exact hmessage s
    | binary bytes => exact hmessage _
    | _ => exact ih _

theorem calls_wait : w.wait.Calls P := by
  have hconnect : w.connect.Calls P :=
    .bind (.act rfl) fun _ => .bind .readServices fun _ => .lift _ _
  have hrest :=
    hconnect.bind fun channel => w.calls_follow channel channel.items 0
  unfold wait
  refine .bind (.report rfl) fun _ => .bind (.passed ?_) fun _ => hrest
  cases w.marker with
  | some _ => exact List.forall_mem_nil _
  | none => exact List.forall_mem_singleton.2 rfl

end Waiter

namespace Downloader

variable {d : Downloader} {id : Identifier} {url : Url}

theorem calls_store (path : Path) (body : Http.Body) : (d.store path body).Calls P := by
  unfold store
  refine .bind .readFiles fun files => ?_
  refine .bind (.lift _ _) fun made => ?_
  refine .bind (.setFiles _) fun _ => ?_
  unfold copyTo
  refine .bind .readServices fun services => .bind .readFiles fun files => ?_
  exact .bind (.setFiles _) fun _ => .ofOutcome _

theorem download_tells (h : d.endpoints.downloadUrl id = .ok url) :
    (d.download id).Tells services world [⟨⟨.download, .get, url, none⟩,
      Http.Request.exchange ⟨.download, .get, url, none⟩ services world.sent⟩] := by
  unfold download
  rw [h]
  refine .value_bind (.report_bind (by rfl) fun world' hsent => ?_)
  rw [← hsent]
  refine (Http.Request.sendChecked_tells (by simp)).bind fun response => ?_
  refine .bind (calls_store _ _) fun count => ?_
  exact .bind (.report rfl) fun _ => .pure _

theorem calls_download (h : ∀ url, d.endpoints.downloadUrl id = .ok url →
    P ⟨.download, .get, url, none⟩) : (d.download id).Calls P :=
  Calls.of_target h fun _ hurl _ _ => download_tells hurl

end Downloader

namespace Runner

theorem calls_build (config : Config.Client) : (build config).Calls P :=
  .bind (.ofExcept _) fun _ => .bind (Http.Client.calls_build _ _) fun _ => .pure _

variable {r : Runner}

theorem calls_submit (h : ∀ request : Http.Request,
    request.url.scheme = r.endpoints.base.scheme → P request) (path : Path) :
    (r.submit path).Calls P := by
  unfold submit
  refine .bind (.report rfl) fun _ => ?_
  refine .bind (Configuration.calls_load path) fun config => ?_
  refine .bind (Submission.calls_submit fun _ hurl => h _ (Endpoints.scheme_of_route hurl))
    fun submission => ?_
  exact .bind (Submission.calls_start fun _ hurl => h _ (Endpoints.scheme_of_route hurl))
    fun _ => .pure _

theorem calls_runAll (h : ∀ request : Http.Request,
    request.url.scheme = r.endpoints.base.scheme ∨
      request.url.scheme = r.downloader.endpoints.base.scheme → P request) (path : Path) :
    (r.runAll path).Calls P := by
  unfold runAll
  refine .bind (calls_submit (fun request hscheme => h request (.inl hscheme)) path)
    fun submission => ?_
  refine .bind r.waiter.calls_wait fun wait => ?_
  refine .bind (Downloader.calls_download fun _ hurl =>
    h _ (.inr (Endpoints.scheme_of_route hurl))) fun download => ?_
  exact .bind (.report rfl) fun _ => .pure _

end Runner

/-! ## Sequences of operations -/

/-- An operation of a submitter, a downloader or a runner. -/
inductive Operation
  | submit (e : Endpoints) (config : Configuration)
  | start (e : Endpoints) (id : Identifier)
  | download (d : Downloader) (id : Identifier)
  | build (config : Config.Client)
  | submitFile (r : Runner) (path : Path)
  | wait (r : Runner)
  | fetch (r : Runner) (id : Identifier)
  | runAll (r : Runner) (path : Path)

namespace Operation

/-- What the client does to carry out an operation. -/
def activity : Operation → Activity Unit
  | submit e config => do let _ ← Submission.submit e config
  | start e id => Submission.start e id
  | download d id => do let _ ← d.download id
  | build config => do let _ ← Runner.build config
  | submitFile r path => do let _ ← r.submit path
  | wait r => do let _ ← r.wait
  | fetch r id => do let _ ← r.download id
  | runAll r path => do let _ ← r.runAll path

/-- The schemes of the base URLs that the requests of an operation are made from. -/
def schemes : Operation → List String
  | submit e _ | start e _ => [e.base.scheme]
  | download d _ => [d.endpoints.base.scheme]
  | build _ | wait _ => []
  | submitFile r _ => [r.endpoints.base.scheme]
  | fetch r _ => [r.downloader.endpoints.base.scheme]
  | runAll r _ => [r.endpoints.base.scheme, r.downloader.endpoints.base.scheme]

/-- Carries out operations, each with services of its own, however each of them ends. -/
def perform (steps : List (Operation × Services)) (world : World) : World :=
  steps.foldl (fun world step => (step.1.activity.run step.2 world).2) world

/-- A call is made by one of the operations, and answered as the request number `n` by the services
of that operation. -/
def Made (steps : List (Operation × Services)) (n : Nat) (c : Call) : Prop :=
  ∃ step ∈ steps, c.request.url.scheme ∈ step.1.schemes ∧ c.result = c.request.exchange step.2 n

theorem Made.cons {steps : List (Operation × Services)} {n : Nat} {c : Call}
    (h : Made steps n c) (step : Operation × Services) : Made (step :: steps) n c := by
  obtain ⟨made, hmem, hcall⟩ := h
  exact ⟨made, List.mem_cons_of_mem _ hmem, hcall⟩

/-- One operation is told by its calls. -/
theorem calls_activity (operation : Operation) :
    operation.activity.Calls (·.url.scheme ∈ operation.schemes) := by
  cases operation with
  | submit e config =>
    refine .bind (Submission.calls_submit fun url hurl => ?_) fun _ => .pure _
    exact List.mem_singleton.2 (Endpoints.scheme_of_route hurl)
  | start e id =>
    exact Submission.calls_start fun url hurl =>
      List.mem_singleton.2 (Endpoints.scheme_of_route hurl)
  | download d id =>
    refine .bind (Downloader.calls_download fun url hurl => ?_) fun _ => .pure _
    exact List.mem_singleton.2 (Endpoints.scheme_of_route hurl)
  | build config => exact .bind (Runner.calls_build config) fun _ => .pure _
  | submitFile r path =>
    exact .bind (Runner.calls_submit (fun _ h => List.mem_singleton.2 h) path) fun _ => .pure _
  | wait r => exact .bind r.waiter.calls_wait fun _ => .pure _
  | fetch r id =>
    refine .bind (Downloader.calls_download fun url hurl => ?_) fun _ => .pure _
    exact List.mem_singleton.2 (Endpoints.scheme_of_route hurl)
  | runAll r path =>
    refine .bind (Runner.calls_runAll (fun _ h => ?_) path) fun _ => .pure _
    rcases h with h | h <;> simp [schemes, h]

/-- A sequence of operations is told by the calls of one after another. -/
theorem narrated_perform (steps : List (Operation × Services)) (world : World) :
    ∃ actions events calls, (perform steps world).trace = world.trace ++ actions ∧
      (perform steps world).log = world.log ++ events ∧
      Narrated (Made steps) world.sent actions events calls := by
  induction steps generalizing world with
  | nil => exact ⟨[], [], [], (List.append_nil _).symm, (List.append_nil _).symm, .nil⟩
  | cons step steps ih =>
    obtain ⟨calls, hall, actions, events, htrace, hlog, hcalls⟩ :=
      step.1.calls_activity step.2 world
    obtain ⟨actions', events', calls', htrace', hlog', hcalls'⟩ :=
      ih (step.1.activity.run step.2 world).2
    have hfirst : Narrated (Made (step :: steps)) world.sent actions events calls :=
      (hcalls.and hall).mono fun n c h => ⟨step, List.mem_cons_self, h⟩
    refine ⟨actions ++ actions', events ++ events', calls ++ calls', ?_, ?_, hfirst.append ?_⟩
    · rw [← List.append_assoc, ← htrace]
      exact htrace'
    · rw [← List.append_assoc, ← hlog]
      exact hlog'
    · rw [World.sent, htrace, List.countP_append] at hcalls'
      exact hcalls'.mono fun n c h => h.cons step

/-- **Requests in the log.** Operations are told by the calls of the HTTP client that they make: a
call of a URL with a host is logged by two events next to each other, one for debugging before it is
sent, and then the status of the answer or a warning that there is none. Both name the interface, the
method and the URL, and nothing else is logged like that. With HTTP base URLs there are as many such
pairs as requests sent, and a base URL of another scheme is refused by the client between the two
events. The log has no say in what becomes of a request. A submission or download logs one error if
its request finds no answer or one other than success, and none otherwise; the start of a run logs no
error, and warns once of an answer other than success. -/
theorem requests_bracketed_in_log :
    (∀ (steps : List (Operation × Services)) (world : World), ∃ actions events calls,
      (perform steps world).trace = world.trace ++ actions ∧
      (perform steps world).log = world.log ++ events ∧
      Narrated (Made steps) world.sent actions events calls ∧
      actions.filter Action.isSend = calls.flatMap (·.request.sends) ∧
      (events.filter Event.isAboutRequest = calls.flatMap fun c => c.request.bracket c.result) ∧
      events.countP Event.opensRequest = calls.countP (·.request.url.hasHost) ∧
      events.countP Event.closesRequest = calls.countP (·.request.url.hasHost) ∧
      events.countP Event.isError = calls.countP Call.isFault ∧
      events.filter Event.isError = calls.flatMap Call.errors ∧
      ((∀ step ∈ steps, ∀ scheme ∈ step.1.schemes, scheme = "http" ∨ scheme = "https") →
        events.countP Event.opensRequest = actions.countP Action.isSend)) ∧
    (∀ (r : Http.Request) (services : Services) (world : World),
      (r.send.run services world).1 = .done (r.exchange services world.sent) ∧
      (r.sendChecked.run services world).1 = .ofExcept (r.accepted services world.sent)) ∧
    (∀ e config url, e.submitUrl = .ok url →
      (Submission.submit e config).FaultsWith (Submission.request url config)) ∧
    (∀ (d : Downloader) id url, d.endpoints.downloadUrl id = .ok url →
      (d.download id).FaultsWith ⟨.download, .get, url, none⟩) ∧
    ∀ (e : Endpoints) id (services : Services) (world : World), ∃ events,
      ((Submission.start e id).run services world).2.log = world.log ++ events ∧
      events.countP Event.isError = 0 ∧
      ∀ url response, e.startUrl id = .ok url →
        Http.Request.exchange ⟨.start, .get, url, none⟩ services world.sent = .ok response →
        events.filter (·.level == .warn) = if response.succeeds then []
          else
            [{ level := .warn
               source := .submission
               message := "Run start for " ++ id.text ++ " returned HTTP status " ++
                 response.status.render ++ "; continuing"
               fields := [] }] := by
  refine ⟨fun steps world => ?sequence, fun r services world => ?result,
    fun e config url hurl => ?submit, fun d id url hurl => ?download,
    fun e id services world => ?start⟩
  case sequence =>
    obtain ⟨actions, events, calls, htrace, hlog, hcalls⟩ := narrated_perform steps world
    refine ⟨actions, events, calls, htrace, hlog, hcalls, hcalls.sends_eq,
      hcalls.filter_isAboutRequest, hcalls.countP_opensRequest, hcalls.countP_closesRequest,
      hcalls.countP_isError, hcalls.filter_isError, ?_⟩
    intro hschemes
    rw [hcalls.countP_opensRequest, hcalls.countP_isSend]
    refine List.countP_congr fun c hc => ?_
    obtain ⟨n, step, hstep, hscheme, -⟩ := hcalls.given_of_mem hc
    have hhttp := hschemes step hstep _ hscheme
    simp [Http.Request.leaves, hhttp]
  case result => exact ⟨by rw [Http.Request.run_send], by rw [Http.Request.run_sendChecked]⟩
  case submit =>
    have hapi : (Submission.request url config).api ≠ .start := by simp [Submission.request]
    exact .of_tells hapi fun _ _ => Submission.submit_tells hurl
  case download => exact .of_tells (by simp) fun _ _ => Downloader.download_tells hurl
  case start =>
    have hstart : (Submission.start e id).Calls (·.api = .start) :=
      Submission.calls_start fun _ _ => rfl
    obtain ⟨calls, hall, actions, events, -, hlog, hcalls⟩ := hstart services world
    refine ⟨events, hlog, ?_, fun url response hurl hr => ?_⟩
    · rw [hcalls.countP_isError, List.countP_eq_zero]
      intro c hc
      simp [Call.isFault, hall c hc]
    · rw [Submission.log_start hurl hr, List.append_cancel_left_eq] at hlog
      have hbracket : (Http.Request.bracket ⟨.start, .get, url, none⟩ (.ok response)).filter
          (·.level == .warn) = [] := by
        unfold Http.Request.bracket
        split <;> rfl
      rw [← hlog, List.filter_cons_of_neg (by simp [Submission.info]), List.filter_append, hbracket,
        List.nil_append, Http.Response.succeeds, ← Http.Status.isSuccess]
      split <;> rfl

/-- A submission that is refused, a run whose start is refused and an archive that no network leads
to: three requests, two errors and one further warning. -/
theorem unsuccessful_requests_bracketed_in_log :
    let base : Url :=
      ⟨"http", none, some (.ipv6 [0, 0, 0, 0, 0, 0, 0, 1]), none, .segments ['/'], none, none⟩
    let e : Endpoints := ⟨base, { base with scheme := "ws" }⟩
    let id : Identifier := ⟨"7", by decide⟩
    let answering (code : Nat) : Services :=
      { Services.unreachable with answer := fun _ _ => .ok ⟨⟨code⟩, base, ⟨[], none, fun _ => ""⟩⟩ }
    let steps : List (Operation × Services) :=
      [(.submit e ⟨.array []⟩, answering 503), (.start e id, answering 404),
        (.download ⟨e, .ofText "out", 1⟩ id, Services.unreachable)]
    let after := perform steps { files := .empty [] }
    let about (api method path : String) : List (String × Log.FieldValue) :=
      [("api", .name api), ("method", .text method), ("url", .text ("http://[::1]/" ++ path))]
    let submission := about "conformance-cfg" "POST" "conformance/cfg/mqtt/broker"
    let start := about "conformance-run" "GET" "conformance/run/mqtt/7"
    let download := about "history-download" "GET" "history/download/mqtt/7"
    let refused : Event := ⟨.error, .http, "request returned an error status",
      [("operation", .name "conformance-cfg"), ("status", .number 503),
        ("url", .text "http://[::1]/")]⟩
    after.sent = 3 ∧ after.log.countP Event.opensRequest = 3 ∧
      after.log.countP Event.closesRequest = 3 ∧
      after.log.filter Event.isAboutRequest =
        [⟨.debug, .http, "sending request", submission⟩,
          ⟨.info, .http, "request completed", submission ++ [("status", .number 503)]⟩,
          ⟨.debug, .http, "sending request", start⟩,
          ⟨.info, .http, "request completed", start ++ [("status", .number 404)]⟩,
          ⟨.debug, .http, "sending request", download⟩,
          ⟨.warn, .http, "request failed: error sending request for url " ++
            "(http://[::1]/history/download/mqtt/7)", download⟩] ∧
      after.log.filter Event.isError =
        [refused,
          ⟨.error, .faults, "history-download: request failed, error: " ++
            "Reqwest(reqwest::Error \x7b kind: Request, " ++
            "url: \"http://[::1]/history/download/mqtt/7\", " ++
            "source: hyper_util::client::legacy::Error(Connect, ConnectError(" ++
            "\"tcp connect error\", Os \x7b code: 101, kind: NetworkUnreachable, " ++
            "message: \"Network is unreachable\" \x7d)) \x7d)", []⟩] ∧
      ((Submission.submit e ⟨.array []⟩).run (answering 503) { files := .empty [] }).2.log.filter
        Event.isError = [refused] ∧
      ((Submission.start e id).run (answering 404) { files := .empty [] }).2.log.filter
        (·.level == .warn) = [⟨.warn, .submission,
          "Run start for 7 returned HTTP status 404 Not Found; continuing", []⟩] := by
  intro base e id answering steps after about submission start download refused
  obtain ⟨hsequence, -, hsubmit, -, hstart⟩ := requests_bracketed_in_log
  obtain ⟨actions, events, calls, htrace, hlog, -, -, -, hopens, hcloses, -, -, hpairs⟩ :=
    hsequence steps { files := .empty [] }
  rw [List.nil_append] at htrace hlog
  have hsent : (perform steps { files := .empty [] }).sent = 3 := by decide +kernel
  have hschemes : ∀ step ∈ steps, ∀ scheme ∈ step.1.schemes,
      scheme = "http" ∨ scheme = "https" := by
    simp [steps, schemes, e, base]
  have hthree : events.countP Event.opensRequest = 3 := by
    rw [hpairs hschemes, ← htrace]
    exact hsent
  have hbase : e.TakesSegments := rfl
  obtain ⟨errors, herrors, -, hrefused⟩ :=
    hsubmit e ⟨.array []⟩ _ (Endpoints.submitUrl_eq hbase) (answering 503) { files := .empty [] }
  obtain ⟨warnings, hwarnings, -, hwarn⟩ := hstart e id (answering 404) { files := .empty [] }
  have hanswer : (e.startRequest id).exchange (answering 404) 0 =
      .ok ⟨⟨404⟩, base, ⟨[], none, fun _ => ""⟩⟩ := if_pos (Endpoints.leaves_of_target.trans rfl)
  have hanswer' : (e.submitRequest ⟨.array []⟩).exchange (answering 503) 0 =
      .ok ⟨⟨503⟩, base, ⟨[], none, fun _ => ""⟩⟩ := if_pos (Endpoints.leaves_of_target.trans rfl)
  rw [List.nil_append] at herrors hwarnings
  refine ⟨hsent, ?_, ?_, by decide +kernel, by decide +kernel, ?_, ?_⟩
  · rw [← hthree, ← hlog]
  · rw [← hthree, hopens, ← hcloses, ← hlog]
  · rw [herrors, hrefused _ hanswer']
    decide +kernel
  · rw [hwarnings, hwarn _ _ (Endpoints.startUrl_eq hbase id) hanswer]
    decide +kernel

end Operation

end Run

end MqttConformance
