import MqttConformance.Proofs.Hearing
import MqttConformance.Proofs.Phases

/-! The course of a run. `Scene` is a run that is about to begin, and `Scene.Course` lists every way
it can go: what it does, how it ends and which files it leaves. The ways differ in the phase that
ends the run, and each names what the phases before it have come to. -/

namespace MqttConformance.Run

open Effect (Ends)

/-- A run that is about to begin. -/
structure Scene where
  endpoints : Endpoints
  config : Config.Client
  services : Services
  world : World
  path : Path

namespace Scene

section

variable (s : Scene)

def runner : Runner := .ofEndpoints s.endpoints s.config

/-- Whether a message is the completion marker of the run. -/
def marks : String → Bool := Hearing.marks s.config.run.completionMarker

/-- Where the archive of a run goes. -/
def archivePath (id : Identifier) : Path := id.archivePath s.config.download.outputDir

/-- The file with the run's configuration is readable and holds `config`. -/
def Loaded (config : Configuration) : Prop :=
  ∃ bytes, s.world.files.read s.path = .ok bytes ∧ Json.ofBytes bytes = .ok config.json

/-- The submission is answered with success. -/
def Accepted (config : Configuration) (response : Http.Response) : Prop :=
  s.Loaded config ∧
    (s.endpoints.submitRequest config).exchange s.services s.world.sent = .ok response ∧
    response.status.isSuccess = true

/-- The answer to the submission arrives completely and is a receipt. -/
def Receipted (config : Configuration) (receipt : Receipt) : Prop :=
  ∃ response, s.Accepted config response ∧ response.body.failure = none ∧
    Receipt.ofBytes (Utf8.encode (response.body.decode response.body.bytes)) = .ok receipt

/-- The receipt for the submission names `id`. -/
def Submitted (config : Configuration) (id : Identifier) : Prop :=
  ∃ receipt, s.Receipted config receipt ∧ receipt.identifier = .ok id

/-- The start of the run is answered, in whatever way. -/
def Started (config : Configuration) (id : Identifier) : Prop :=
  s.Submitted config id ∧ ∃ response,
    (s.endpoints.startRequest id).exchange s.services (s.world.sent + 1) = .ok response

/-- The notification channel is opened, and the wait on it ends. -/
def Waited (config : Configuration) (id : Identifier) (channel : Channel) (wait : WaitOutcome) :
    Prop :=
  s.Started config id ∧ s.services.channel s.endpoints.notification = .ok channel ∧
    Hearing.verdict s.marks channel.tail channel.items 0 = .done wait

/-- The download is answered with success. -/
def Fetched (config : Configuration) (id : Identifier) (channel : Channel) (wait : WaitOutcome)
    (response : Http.Response) : Prop :=
  s.Waited config id channel wait ∧
    (s.endpoints.downloadRequest id).exchange s.services (s.world.sent + 2) = .ok response ∧
    response.status.isSuccess = true

/-- What a run does up to the wait. -/
def opening (config : Configuration) (id : Identifier) : List Action :=
  [.send (s.endpoints.submitRequest config), .send (s.endpoints.startRequest id),
    .connect s.endpoints.notification]

/-- What a run does up to the answer to the download. -/
def fetching (config : Configuration) (id : Identifier) (channel : Channel) : List Action :=
  s.opening config id ++ Hearing.following s.marks channel.items ++
    [.send (s.endpoints.downloadRequest id)]

/-- Every way a run can go. -/
inductive Course : List Action → Outcome ClientError RunReport → FileSystem → Prop where
  | unloaded {error} (h : Configuration.ofFile s.world.files s.path = .error error) :
    Course [] (.failed error) s.world.files
  | unsubmitted {config error} (hc : s.Loaded config)
      (h : s.endpoints.submitted config s.services s.world.sent = .error error) :
    Course (s.endpoints.submitRequest config).sends (.failed error) s.world.files
  | unstarted {config id failure} (hs : s.Submitted config id)
      (h : (s.endpoints.startRequest id).exchange s.services (s.world.sent + 1) = .error failure) :
    Course [.send (s.endpoints.submitRequest config), .send (s.endpoints.startRequest id)]
      (.failed (.sending failure)) s.world.files
  | unopened {config id fault} (hs : s.Started config id)
      (h : s.services.channel s.endpoints.notification = .error fault) :
    Course (s.opening config id) (.failed (.channel fault)) s.world.files
  | unfinished {config id channel error} (hs : s.Started config id)
      (hc : s.services.channel s.endpoints.notification = .ok channel)
      (h : Hearing.verdict s.marks channel.tail channel.items 0 = .failed error) :
    Course (s.opening config id ++ Hearing.following s.marks channel.items) (.failed error)
      s.world.files
  | waiting {config id channel} (hs : s.Started config id)
      (hc : s.services.channel s.endpoints.notification = .ok channel)
      (h : Hearing.verdict s.marks channel.tail channel.items 0 = .blocked) :
    Course (s.opening config id ++ Hearing.following s.marks channel.items) .blocked s.world.files
  | unfetched {config id channel wait error} (hw : s.Waited config id channel wait)
      (h : (s.endpoints.downloadRequest id).accepted s.services (s.world.sent + 2) = .error error) :
    Course (s.fetching config id channel) (.failed error) s.world.files
  | uncreated {config id channel wait response fault}
      (hf : s.Fetched config id channel wait response)
      (h : s.world.files.create (s.archivePath id) = .error fault) :
    Course (s.fetching config id channel) (.failed (.io fault)) s.world.files
  | crashed {config id channel wait response place created}
      (hf : s.Fetched config id channel wait response)
      (hc : s.world.files.create (s.archivePath id) = .ok (place, created))
      (h : Copy.bufferBound ≤ Copy.bufferSize s.config.download.chunkSize.toNat) :
    Course (s.fetching config id channel) (.crashed Copy.overflowMessage) created
  | unstored {config id channel wait response place created error}
      (hf : s.Fetched config id channel wait response)
      (hc : s.world.files.create (s.archivePath id) = .ok (place, created))
      (hb : Copy.bufferSize s.config.download.chunkSize.toNat < Copy.bufferBound)
      (h : s.runner.downloader.stored s.services.disk response.body = .error error) :
    Course (s.fetching config id channel) (.failed error)
      (s.runner.downloader.filled s.services.disk place response.body created)
  | finished {config id channel wait response place created count}
      (hf : s.Fetched config id channel wait response)
      (hc : s.world.files.create (s.archivePath id) = .ok (place, created))
      (hb : Copy.bufferSize s.config.download.chunkSize.toNat < Copy.bufferBound)
      (h : s.runner.downloader.stored s.services.disk response.body = .ok count) :
    Course (s.fetching config id channel)
      (.done ⟨id, wait, ⟨s.archivePath id, count, response.status⟩⟩)
      (s.runner.downloader.filled s.services.disk place response.body created)

end

variable {s : Scene} {config : Configuration} {id : Identifier} {channel : Channel}
variable {wait : WaitOutcome} {response : Http.Response}

/-! ## The phases of the scene -/

theorem loaded_iff : s.Loaded config ↔ Configuration.ofFile s.world.files s.path = .ok config := by
  unfold Loaded Configuration.ofFile Configuration.ofBytes
  constructor
  · rintro ⟨bytes, hb, hj⟩
    rw [hb]
    simp only [hj]
  · intro h
    split at h
    · next bytes hb =>
      refine ⟨bytes, hb, ?_⟩
      split at h
      · next json hj => cases h; exact hj
      · cases h
    · cases h

theorem identifierIn_eq_ok {bytes : Bytes} : Submission.identifierIn bytes = .ok id ↔
    ∃ receipt, Receipt.ofBytes bytes = .ok receipt ∧ receipt.identifier = .ok id := by
  unfold Submission.identifierIn
  constructor
  · intro h
    split at h
    · cases h
    · next receipt hr =>
      refine ⟨receipt, hr, ?_⟩
      split at h
      · next id' hi => cases h; exact hi
      · cases h
      · cases h
  · rintro ⟨receipt, hr, hi⟩
    rw [hr]
    simp only [hi]

theorem Submitted.loaded (h : s.Submitted config id) : s.Loaded config :=
  let ⟨_, ⟨_, h, _⟩, _⟩ := h
  h.1

theorem Submitted.leaves (h : s.Submitted config id) :
    (s.endpoints.submitRequest config).leaves = true :=
  let ⟨_, ⟨_, ⟨_, hr, _⟩, _⟩, _⟩ := h
  Http.Request.leaves_of_exchange hr

theorem submitted_of_ok {submission : Submission} (hc : s.Loaded config)
    (h : s.endpoints.submitted config s.services s.world.sent = .ok submission) :
    s.Submitted config submission.id := by
  cases hr : (s.endpoints.submitRequest config).accepted s.services s.world.sent with
  | error error => cases (Endpoints.submitted_of_unaccepted hr).symm.trans h
  | ok response =>
    cases hf : response.body.failure with
    | some failure => cases (Endpoints.submitted_of_cut hr hf).symm.trans h
    | none =>
      have ha : s.Accepted config response := ⟨hc, Http.Request.accepted_eq_ok.1 hr⟩
      rw [Endpoints.submitted_of_complete hr hf] at h
      cases hi : Submission.identifierIn
        (Utf8.encode (response.body.decode response.body.bytes)) with
      | error error => rw [hi] at h; cases h
      | ok id =>
        rw [hi] at h
        cases h
        obtain ⟨receipt, hreceipt, hid⟩ := identifierIn_eq_ok.1 hi
        exact ⟨receipt, ⟨response, ha, hf, hreceipt⟩, hid⟩

/-- The first request of a run is sent once it is answered. -/
theorem Submitted.sends_eq (h : s.Submitted config id) :
    (s.endpoints.submitRequest config).sends = [.send (s.endpoints.submitRequest config)] :=
  Http.Request.sends_of_leaves h.leaves

theorem Submitted.sends_start (h : s.Submitted config id) :
    (s.endpoints.startRequest id).sends = [.send (s.endpoints.startRequest id)] :=
  Http.Request.sends_of_leaves (Endpoints.leaves_startRequest h.leaves)

theorem Submitted.sends_download (h : s.Submitted config id) :
    (s.endpoints.downloadRequest id).sends = [.send (s.endpoints.downloadRequest id)] :=
  Http.Request.sends_of_leaves (Endpoints.leaves_downloadRequest h.leaves)

/-! ## The effects -/

/-- With a configuration that can be loaded, everything depends on what is done with it. -/
theorem submit_of_loaded {services : Services} {outcome : Outcome ClientError Submission}
    {actions : List Action} (hc : s.Loaded config)
    (h : ∀ world : World, world.sent = s.world.sent → world.files = s.world.files →
      (do
        let submission ← Submission.submit s.endpoints config
        Submission.start s.endpoints submission.id
        return submission : Activity Submission).Ends services world outcome actions
          s.world.files) :
    (s.runner.submit s.path).Ends services s.world outcome actions s.world.files := by
  have hload {world : World} (hf : world.files = s.world.files) :
      (Configuration.load s.path).Ends services world _ [] s.world.files := load_ends hf
  rw [loaded_iff.1 hc] at hload
  unfold Runner.submit
  refine .bind_quiet (.report rfl) fun world₁ hn₁ hf => ?_
  exact .bind_quiet (hload hf) fun world₂ hn₂ hf => h world₂ (hn₂.trans hn₁) hf

/-- The first phase: the run is submitted and started, or it is over. No channel matters yet. -/
theorem submit_course (he : s.endpoints.TakesSegments) :
    (∃ actions error, s.Course actions (.failed error) s.world.files ∧
      ∀ channels, (s.runner.submit s.path).Ends { s.services with channel := channels } s.world
        (.failed error) actions s.world.files) ∨
    ∃ config id body, s.Started config id ∧
      ∀ channels, (s.runner.submit s.path).Ends { s.services with channel := channels } s.world
        (.done ⟨id, body⟩)
        [.send (s.endpoints.submitRequest config), .send (s.endpoints.startRequest id)]
        s.world.files := by
  cases hc : Configuration.ofFile s.world.files s.path with
  | error error =>
    refine .inl ⟨_, _, .unloaded hc, fun channels => ?_⟩
    have hload {world : World} (hf : world.files = s.world.files) :
        (Configuration.load s.path).Ends { s.services with channel := channels } world _ []
          s.world.files := load_ends hf
    rw [hc] at hload
    unfold Runner.submit
    exact .bind_quiet (.report rfl) fun _ _ hf => (hload hf).bind_failed
  | ok config =>
    have hl : s.Loaded config := loaded_iff.2 hc
    have hsubmit {channels} {world : World} (hn : world.sent = s.world.sent)
        (hf : world.files = s.world.files) :
        (Submission.submit s.endpoints config).Ends { s.services with channel := channels } world
          (.ofExcept (s.endpoints.submitted config s.services s.world.sent))
          (s.endpoints.submitRequest config).sends s.world.files := submit_ends he hn hf
    cases hr : s.endpoints.submitted config s.services s.world.sent with
    | error error =>
      rw [hr] at hsubmit
      refine .inl ⟨_, _, .unsubmitted hl hr, fun channels => ?_⟩
      exact submit_of_loaded hl fun world hn hf => (hsubmit hn hf).bind_failed
    | ok submission =>
      obtain ⟨id, body⟩ := submission
      have hs : s.Submitted config id := submitted_of_ok hl hr
      rw [hr, hs.sends_eq] at hsubmit
      have hstart {channels} {world : World} (hn : world.sent = s.world.sent + 1)
          (hf : world.files = s.world.files) :
          (Submission.start s.endpoints id).Ends { s.services with channel := channels } world
            (.ofExcept ((((s.endpoints.startRequest id).exchange s.services
              (s.world.sent + 1)).mapError .sending).map fun _ => ()))
            (s.endpoints.startRequest id).sends s.world.files := start_ends he hn hf
      rw [hs.sends_start] at hstart
      cases hx : (s.endpoints.startRequest id).exchange s.services (s.world.sent + 1) with
      | error failure =>
        rw [hx] at hstart
        refine .inl ⟨_, _, .unstarted hs hx, fun channels => ?_⟩
        refine submit_of_loaded hl fun world₁ hn₁ hf => ?_
        refine (hsubmit hn₁ hf).bind fun world₂ hn₂ hf => ?_
        exact (hstart (hn₂.trans (by rw [hn₁]; rfl)) hf).bind_failed
      | ok response =>
        rw [hx] at hstart
        refine .inr ⟨config, id, body, ⟨hs, response, hx⟩, fun channels => ?_⟩
        refine submit_of_loaded hl fun world₁ hn₁ hf => ?_
        refine (hsubmit hn₁ hf).bind fun world₂ hn₂ hf => ?_
        exact (hstart (hn₂.trans (by rw [hn₁]; rfl)) hf).bind_then_quiet fun _ hf => .pure hf

theorem isMarker_runner : s.runner.waiter.isMarker = s.marks := Hearing.isMarker_ofMarker _ _

theorem bufferSize_downloader (s : Scene) : Copy.bufferSize s.runner.downloader.chunkSize =
    Copy.bufferSize s.config.download.chunkSize.toNat := Copy.bufferSize_max_one _

/-- The last phase, which starts when the wait has ended. -/
theorem download_course (he : s.endpoints.TakesSegments) (hw : s.Waited config id channel wait) :
    ∃ outcome files,
      s.Course (s.fetching config id channel) (outcome.map fun d => ⟨id, wait, d⟩) files ∧
      ∀ {world : World}, world.sent = s.world.sent + 2 → world.files = s.world.files →
        (s.runner.download id).Ends s.services world outcome
          [.send (s.endpoints.downloadRequest id)] files := by
  rw [← hw.1.1.sends_download]
  cases hr : (s.endpoints.downloadRequest id).accepted s.services (s.world.sent + 2) with
  | error error =>
    exact ⟨.failed error, _, .unfetched hw hr, Downloader.download_unaccepted he hr⟩
  | ok response =>
    have hf : s.Fetched config id channel wait response := ⟨hw, Http.Request.accepted_eq_ok.1 hr⟩
    have hdownload {outcome files world} (hstore : ∀ {world : World},
        world.files = s.world.files → (s.runner.downloader.store (s.archivePath id)
          response.body).Ends s.services world outcome [] files) (hn : world.sent = _)
        (hf : world.files = s.world.files) :
        (s.runner.downloader.download id).Ends s.services world _ _ files :=
      Downloader.download_ends he hr hstore hn hf
    cases hc : s.world.files.create (s.archivePath id) with
    | error fault =>
      exact ⟨.failed (.io fault), _, .uncreated hf hc, hdownload (Downloader.store_uncreated hc)⟩
    | ok made =>
      obtain ⟨place, created⟩ := made
      rcases Nat.lt_or_ge (Copy.bufferSize s.config.download.chunkSize.toNat) Copy.bufferBound
        with hb | hb
      · have hcopy {world : World} (hf : world.files = created) :
            (s.runner.downloader.copyTo place response.body).Ends s.services world _ [] _ :=
          Downloader.copyTo_ends (s.bufferSize_downloader.trans_lt hb) hf
        cases hstored : s.runner.downloader.stored s.services.disk response.body with
        | error error =>
          rw [hstored] at hcopy
          exact ⟨.failed _, _, .unstored hf hc hb hstored,
            hdownload (Downloader.store_ends hc hcopy)⟩
        | ok count =>
          rw [hstored] at hcopy
          exact ⟨.done _, _, .finished hf hc hb hstored,
            hdownload (Downloader.store_ends hc hcopy)⟩
      · have hsize := hb.le.trans_eq s.bufferSize_downloader.symm
        exact ⟨.crashed _, _, .crashed hf hc hb,
          hdownload (Downloader.store_ends hc (Downloader.copyTo_crashes hsize))⟩

/-- What a run does after the wait. -/
def concluding (s : Scene) (id : Identifier) : Outcome ClientError WaitOutcome → List Action
  | .done _ => [.send (s.endpoints.downloadRequest id)]
  | _ => []

/-- The course of a run that has opened the channel. -/
theorem follow_course {body : String} (he : s.endpoints.TakesSegments) (hs : s.Started config id)
    (hc : s.services.channel s.endpoints.notification = .ok channel)
    (hends : (s.runner.submit s.path).Ends s.services s.world (.done ⟨id, body⟩)
      [.send (s.endpoints.submitRequest config), .send (s.endpoints.startRequest id)]
      s.world.files) :
    let actions := s.opening config id ++ Hearing.following s.marks channel.items ++
      s.concluding id (Hearing.verdict s.marks channel.tail channel.items 0)
    ∃ outcome files, s.Course actions outcome files ∧
      (s.runner.runAll s.path).Ends s.services s.world outcome actions files := by
  intro actions
  have hwait {world : World} (hf : world.files = s.world.files) :=
    Hearing.wait_ends (w := s.runner.waiter) hc hf
  rw [isMarker_runner] at hwait
  have hquiet (h : s.concluding id (Hearing.verdict s.marks channel.tail channel.items 0) = []) :
      actions = s.opening config id ++ Hearing.following s.marks channel.items := by
    simp only [actions, h, List.append_nil]
  unfold Runner.runAll
  cases hv : Hearing.verdict s.marks channel.tail channel.items 0 with
  | failed error =>
    rw [hv] at hwait hquiet
    rw [hquiet rfl]
    exact ⟨_, _, .unfinished hs hc hv, hends.bind fun _ _ hf => (hwait hf).bind_failed⟩
  | blocked =>
    rw [hv] at hwait hquiet
    rw [hquiet rfl]
    exact ⟨_, _, .waiting hs hc hv, hends.bind fun _ _ hf => (hwait hf).bind_blocked⟩
  | crashed message => exact absurd hv Hearing.verdict_ne_crashed
  | done wait =>
    rw [hv] at hwait
    have hactions : actions = s.fetching config id channel := by
      simp only [actions, hv, concluding, fetching]
    rw [hactions]
    obtain ⟨outcome, files, hcourse, hdownload⟩ := download_course he ⟨hs, hc, hv⟩
    refine ⟨_, _, hcourse, ?_⟩
    have hparts : s.fetching config id channel =
        [.send (s.endpoints.submitRequest config), .send (s.endpoints.startRequest id)] ++
          (.connect s.endpoints.notification :: Hearing.following s.marks channel.items ++
            [.send (s.endpoints.downloadRequest id)]) := rfl
    rw [hparts]
    refine hends.bind fun world₁ hn₁ hf => (hwait hf).bind fun world₂ hn₂ hf => ?_
    have hn : world₂.sent = s.world.sent + 2 := by
      simp [hn₂, hn₁, List.countP_cons, Hearing.countP_following, Action.isSend]
    refine (hdownload hn hf).bind_map fun d world₃ hf => ?_
    exact .bind_quiet (.report hf) fun _ _ hf => .pure hf

/-- A run takes one of the listed courses. -/
theorem runAll_course (he : s.endpoints.TakesSegments) : ∃ actions outcome files,
    s.Course actions outcome files ∧
    (s.runner.runAll s.path).Ends s.services s.world outcome actions files := by
  rcases submit_course he with ⟨actions, error, hcourse, hends⟩ | ⟨config, id, body, hs, hends⟩
  · exact ⟨_, _, _, hcourse, (hends _).bind_failed⟩
  cases hc : s.services.channel s.endpoints.notification with
  | error fault =>
    refine ⟨_, _, _, .unopened hs hc, (hends _).bind fun _ _ hf => ?_⟩
    exact (Hearing.wait_fails hc hf).bind_failed
  | ok channel => exact ⟨_, follow_course he hs hc (hends _)⟩

end Scene

/-- A runner that has been built is made of endpoints whose routes all have URLs. -/
theorem Runner.endpoints_of_build {config : Config.Client} {services : Services}
    {world world' : World} {r : Runner}
    (h : (Runner.build config).run services world = (.done r, world')) :
    ∃ e, Endpoints.ofConfig config.endpoints = .ok e ∧ e.TakesSegments ∧
      r = Runner.ofEndpoints e config := by
  unfold Runner.build at h
  obtain ⟨e, _, he, h⟩ := Effect.done_of_bind h
  obtain ⟨_, _, _, h⟩ := Effect.done_of_bind h
  have hofConfig : Endpoints.ofConfig config.endpoints = .ok e := by
    cases hr : Endpoints.ofConfig config.endpoints with
    | error error => rw [hr] at he; cases he
    | ok e' => rw [hr] at he; cases he; rfl
  cases h
  exact ⟨e, hofConfig, (Endpoints.base_of_ofTexts hofConfig).2, rfl⟩

end MqttConformance.Run
