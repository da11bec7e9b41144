import MqttConformance.Proofs.Course

/-! How a run ends. It has a report exactly when every phase works out, and otherwise the error of
the first phase that does not: `Scene.Succeeds` and `Scene.FailsFirst` say so in terms of the file,
the answers, the channel and the disk alone. -/

namespace MqttConformance.Run

open Channel (Item)

namespace Hearing

/-- A channel that ends, fails or yields the marker while it is open. -/
def Terminates (p : String → Bool) (channel : Channel) : Prop :=
  channel.tail = .ended ∨ channel.items.any Item.isFault = true ∨
    ∃ item message, channel.items.find? (stops p) = some item ∧
      carried item = some message

variable {p : String → Bool} {tail : Channel.Tail} {items : List Item} {before : Nat}

theorem any_isFault_of_find?_eq_none (h : items.find? (stops p) = none) :
    items.any Item.isFault = false := by
  refine List.any_eq_false.2 fun item hmem => ?_
  have hstops := List.find?_eq_none.1 h item hmem
  simp [isFault_of_not_stops (Bool.eq_false_iff.2 hstops)]

theorem verdict_ne_blocked {channel : Channel} (h : Terminates p channel) :
    verdict p channel.tail channel.items before ≠ .blocked := by
  intro hblocked
  unfold verdict at hblocked
  split at hblocked
  · next hnone =>
    split at hblocked
    · cases hblocked
    · next htail =>
      rcases h with h | h | ⟨item, message, hfind, _⟩
      · exact htail h
      · cases h.symm.trans (any_isFault_of_find?_eq_none hnone)
      · cases hfind.symm.trans hnone
  · next reason hclose =>
    split at hblocked
    · cases hblocked
    · next hopen =>
      rcases h with h | h | ⟨item, message, hfind, hm⟩
      · exact hopen (.inl h)
      · exact hopen (.inr h)
      · cases hfind.symm.trans hclose
        cases hm
  · split at hblocked <;> cases hblocked
  · cases hblocked

/-- A wait fails with the fault that stops it, unless that says that the other side has gone. -/
theorem verdict_eq_failed {error : ClientError} : verdict p tail items before = .failed error ↔
    ∃ fault, items.find? (stops p) = some (.fault fault) ∧ fault ∉ peerGone ∧
      error = .channel fault := by
  unfold verdict
  constructor
  · intro h
    split at h
    · split at h <;> cases h
    · split at h <;> cases h
    · next fault hfind =>
      split at h
      · cases h
      · next hgone => cases h; exact ⟨fault, hfind, hgone, rfl⟩
    · cases h
  · rintro ⟨fault, hfind, hgone, rfl⟩
    simp [hfind, hgone]

end Hearing

namespace Scene

section

variable (s : Scene)

/-- The archive has been created, and the disk takes all of it that arrives. -/
def Created (id : Identifier) (response : Http.Response) : Prop :=
  (∃ place created, s.world.files.create (s.archivePath id) = .ok (place, created)) ∧
    s.runner.downloader.refused? s.services.disk response.body = none

/-- Every phase works out, and the report says what has come of it. -/
def Succeeds (report : RunReport) : Prop :=
  ∃ config channel response, s.Fetched config report.run channel report.wait response ∧
    s.Created report.run response ∧ response.body.failure = none ∧
    report.download =
      ⟨s.archivePath report.run, response.body.bytes.length, response.status⟩

/-- The first phase that does not work out ends the run with this error. -/
inductive FailsFirst : ClientError → Prop where
  | unreadable {fault} (h : s.world.files.read s.path = .error fault) :
    FailsFirst (.configUnreadable s.path fault)
  | notJson {bytes error} (hb : s.world.files.read s.path = .ok bytes)
      (h : Json.ofBytes bytes = .error error) :
    FailsFirst (.configInvalid error)
  | submissionUnsent {config failure} (hl : s.Loaded config)
      (h : (s.endpoints.submitRequest config).exchange s.services s.world.sent = .error failure) :
    FailsFirst (.sending failure)
  | submissionRefused {config response} (hl : s.Loaded config)
      (h : (s.endpoints.submitRequest config).exchange s.services s.world.sent = .ok response)
      (hs : response.status.isSuccess = false) :
    FailsFirst (.refused .submit response.status)
  | answerCut {config response failure} (ha : s.Accepted config response)
      (h : response.body.failure = some failure) :
    FailsFirst (.http failure)
  | receiptInvalid {config response error} (ha : s.Accepted config response)
      (hf : response.body.failure = none)
      (h : Receipt.ofBytes (Utf8.encode (response.body.decode response.body.bytes)) =
        .error error) :
    FailsFirst (.receiptInvalid error)
  | identifierMissing {config receipt} (hr : s.Receipted config receipt)
      (h : receipt.identifier = .error .missing) :
    FailsFirst .identifierMissing
  | identifierInvalid {config receipt text} (hr : s.Receipted config receipt)
      (h : receipt.identifier = .error (.invalid text)) :
    FailsFirst (.identifierInvalid text)
  | startUnsent {config id failure} (hs : s.Submitted config id)
      (h : (s.endpoints.startRequest id).exchange s.services (s.world.sent + 1) = .error failure) :
    FailsFirst (.sending failure)
  | channelUnopened {config id fault} (hs : s.Started config id)
      (h : s.services.channel s.endpoints.notification = .error fault) :
    FailsFirst (.channel fault)
  | channelFailed {config id channel fault} (hs : s.Started config id)
      (hc : s.services.channel s.endpoints.notification = .ok channel)
      (h : channel.items.find? (Hearing.stops s.marks) = some (.fault fault))
      (hg : fault ∉ Hearing.peerGone) :
    FailsFirst (.channel fault)
  | downloadUnsent {config id channel wait failure} (hw : s.Waited config id channel wait)
      (h : (s.endpoints.downloadRequest id).exchange s.services (s.world.sent + 2) =
        .error failure) :
    FailsFirst (.sending failure)
  | downloadRefused {config id channel wait response} (hw : s.Waited config id channel wait)
      (h : (s.endpoints.downloadRequest id).exchange s.services (s.world.sent + 2) = .ok response)
      (hs : response.status.isSuccess = false) :
    FailsFirst (.refused .download response.status)
  | archiveUncreated {config id channel wait response fault}
      (hf : s.Fetched config id channel wait response)
      (h : s.world.files.create (s.archivePath id) = .error fault) :
    FailsFirst (.io fault)
  | archiveUnwritten {config id channel wait response place created fault}
      (hf : s.Fetched config id channel wait response)
      (hc : s.world.files.create (s.archivePath id) = .ok (place, created))
      (h : s.runner.downloader.refused? s.services.disk response.body = some fault) :
    FailsFirst (.io fault)
  | archiveCut {config id channel wait response failure}
      (hf : s.Fetched config id channel wait response) (hc : s.Created id response)
      (h : response.body.failure = some failure) :
    FailsFirst (.io (.other failure.message))

end

variable {s : Scene} {config : Configuration} {id : Identifier} {channel : Channel}
variable {wait : WaitOutcome} {response : Http.Response} {actions : List Action}
variable {outcome : Outcome ClientError RunReport} {error : ClientError} {files : FileSystem}
variable {receipt : Receipt}

/-! ## One end for each run -/

/-- How the last phase ends. -/
def storing (s : Scene) (id : Identifier) : Outcome ClientError DownloadSummary :=
  match (s.endpoints.downloadRequest id).accepted s.services (s.world.sent + 2) with
  | .error error => .failed error
  | .ok response =>
    match s.world.files.create (s.archivePath id) with
    | .error fault => .failed (.io fault)
    | .ok _ =>
      if Copy.bufferBound ≤ Copy.bufferSize s.config.download.chunkSize.toNat then
        .crashed Copy.overflowMessage
      else
        (Outcome.ofExcept (s.runner.downloader.stored s.services.disk response.body)).map
          fun count => ⟨s.archivePath id, count, response.status⟩

/-- How a run ends, computed from phase to phase. -/
def ending (s : Scene) : Outcome ClientError RunReport :=
  match Configuration.ofFile s.world.files s.path with
  | .error error => .failed error
  | .ok config =>
    match s.endpoints.submitted config s.services s.world.sent with
    | .error error => .failed error
    | .ok submission =>
      match (s.endpoints.startRequest submission.id).exchange s.services (s.world.sent + 1) with
      | .error failure => .failed (.sending failure)
      | .ok _ =>
        match s.services.channel s.endpoints.notification with
        | .error fault => .failed (.channel fault)
        | .ok channel =>
          match Hearing.verdict s.marks channel.tail channel.items 0 with
          | .done wait => (s.storing submission.id).map fun d => ⟨submission.id, wait, d⟩
          | .failed error => .failed error
          | .blocked => .blocked
          | .crashed message => .crashed message

theorem Accepted.submitted_eq (ha : s.Accepted config response)
    (hf : response.body.failure = none) :
    s.endpoints.submitted config s.services s.world.sent =
      (Submission.identifierIn (Utf8.encode (response.body.decode response.body.bytes))).map
        fun id => ⟨id, response.body.decode response.body.bytes⟩ :=
  Endpoints.submitted_of_complete (Http.Request.accepted_eq_ok.2 ha.2) hf

theorem Submitted.submitted_eq (h : s.Submitted config id) : ∃ body,
    s.endpoints.submitted config s.services s.world.sent = .ok ⟨id, body⟩ := by
  obtain ⟨receipt, ⟨response, ha, hf, hreceipt⟩, hid⟩ := h
  refine ⟨response.body.decode response.body.bytes, ?_⟩
  rw [ha.submitted_eq hf, identifierIn_eq_ok.2 ⟨receipt, hreceipt, hid⟩]
  rfl

/-- After the start of the run only the channel and the last phase matter. -/
theorem Started.ending_eq (h : s.Started config id) : s.ending =
    match s.services.channel s.endpoints.notification with
    | .error fault => .failed (.channel fault)
    | .ok channel =>
      match Hearing.verdict s.marks channel.tail channel.items 0 with
      | .done wait => (s.storing id).map fun d => ⟨id, wait, d⟩
      | .failed error => .failed error
      | .blocked => .blocked
      | .crashed message => .crashed message := by
  obtain ⟨hs, response, hx⟩ := h
  obtain ⟨body, hbody⟩ := hs.submitted_eq
  simp only [ending, loaded_iff.1 hs.loaded, hbody, hx]

theorem Waited.ending_eq (h : s.Waited config id channel wait) :
    s.ending = (s.storing id).map fun d => ⟨id, wait, d⟩ := by
  obtain ⟨hs, hc, hv⟩ := h
  simp only [hs.ending_eq, hc, hv]

theorem Fetched.storing_eq (h : s.Fetched config id channel wait response) : s.storing id =
    match s.world.files.create (s.archivePath id) with
    | .error fault => .failed (.io fault)
    | .ok _ =>
      if Copy.bufferBound ≤ Copy.bufferSize s.config.download.chunkSize.toNat then
        .crashed Copy.overflowMessage
      else
        (Outcome.ofExcept (s.runner.downloader.stored s.services.disk response.body)).map
          fun count => ⟨s.archivePath id, count, response.status⟩ := by
  simp only [storing, Http.Request.accepted_eq_ok.2 h.2]

/-- Every course of a run comes to the same end. -/
theorem Course.outcome_eq (h : s.Course actions outcome files) : outcome = s.ending := by
  cases h with
  | unloaded h => simp only [ending, h]
  | unsubmitted hc h => simp only [ending, loaded_iff.1 hc, h]
  | unstarted hs h =>
    obtain ⟨body, hbody⟩ := hs.submitted_eq
    simp only [ending, loaded_iff.1 hs.loaded, hbody, h]
  | unopened hs h => simp only [hs.ending_eq, h]
  | unfinished hs hc h => simp only [hs.ending_eq, hc, h]
  | waiting hs hc h => simp only [hs.ending_eq, hc, h]
  | unfetched hw h => simp only [hw.ending_eq, storing, h, Outcome.map]
  | uncreated hf h => simp only [hf.1.ending_eq, hf.storing_eq, h, Outcome.map]
  | crashed hf hc h => simp only [hf.1.ending_eq, hf.storing_eq, hc, h, if_true, Outcome.map]
  | unstored hf hc hb h =>
    simp only [hf.1.ending_eq, hf.storing_eq, hc, Nat.not_le.2 hb, if_false, h, Outcome.ofExcept,
      Outcome.map]
  | finished hf hc hb h =>
    simp only [hf.1.ending_eq, hf.storing_eq, hc, Nat.not_le.2 hb, if_false, h, Outcome.ofExcept,
      Outcome.map]

/-! ## The errors of each phase -/

theorem failsFirst_of_unloaded (h : Configuration.ofFile s.world.files s.path = .error error) :
    s.FailsFirst error := by
  unfold Configuration.ofFile Configuration.ofBytes at h
  split at h
  · next bytes hb =>
    split at h
    · cases h
    · next fault hj => cases h; exact .notJson hb hj
  · next fault hr => cases h; exact .unreadable hr

theorem failsFirst_of_unnamed (ha : s.Accepted config response) (hf : response.body.failure = none)
    (h : Submission.identifierIn (Utf8.encode (response.body.decode response.body.bytes)) =
      .error error) : s.FailsFirst error := by
  unfold Submission.identifierIn at h
  split at h
  · next fault hr => cases h; exact .receiptInvalid ha hf hr
  · next receipt hr =>
    have hreceipt : s.Receipted config receipt := ⟨response, ha, hf, hr⟩
    split at h
    · cases h
    · next hi => cases h; exact .identifierMissing hreceipt hi
    · next text hi => cases h; exact .identifierInvalid hreceipt hi

theorem failsFirst_of_unsubmitted (hl : s.Loaded config)
    (h : s.endpoints.submitted config s.services s.world.sent = .error error) :
    s.FailsFirst error := by
  cases hr : (s.endpoints.submitRequest config).accepted s.services s.world.sent with
  | error fault =>
    cases (Endpoints.submitted_of_unaccepted hr).symm.trans h
    rcases Http.Request.accepted_eq_error.1 hr with ⟨failure, hx, rfl⟩ | ⟨response, hx, hs, rfl⟩
    · exact .submissionUnsent hl hx
    · exact .submissionRefused hl hx hs
  | ok response =>
    have ha : s.Accepted config response := ⟨hl, Http.Request.accepted_eq_ok.1 hr⟩
    cases hf : response.body.failure with
    | some failure =>
      cases (Endpoints.submitted_of_cut hr hf).symm.trans h
      exact .answerCut ha hf
    | none =>
      rw [Endpoints.submitted_of_complete hr hf] at h
      cases hi : Submission.identifierIn
        (Utf8.encode (response.body.decode response.body.bytes)) with
      | ok id => rw [hi] at h; cases h
      | error fault => rw [hi] at h; cases h; exact failsFirst_of_unnamed ha hf hi

theorem failsFirst_of_unstored (hf : s.Fetched config id channel wait response) {place created}
    (hc : s.world.files.create (s.archivePath id) = .ok (place, created))
    (h : s.runner.downloader.stored s.services.disk response.body = .error error) :
    s.FailsFirst error := by
  unfold Downloader.stored at h
  split at h
  · next fault hd => cases h; exact .archiveUnwritten hf hc hd
  · next failure hd hb => cases h; exact .archiveCut hf ⟨⟨place, created, hc⟩, hd⟩ hb
  · cases h

theorem Course.failsFirst (h : s.Course actions (.failed error) files) : s.FailsFirst error := by
  cases h with
  | unloaded h => exact failsFirst_of_unloaded h
  | unsubmitted hc h => exact failsFirst_of_unsubmitted hc h
  | unstarted hs h => exact .startUnsent hs h
  | unopened hs h => exact .channelUnopened hs h
  | unfinished hs hc h =>
    obtain ⟨fault, hfind, hgone, rfl⟩ := Hearing.verdict_eq_failed.1 h
    exact .channelFailed hs hc hfind hgone
  | unfetched hw h =>
    rcases Http.Request.accepted_eq_error.1 h with ⟨failure, hx, rfl⟩ | ⟨response, hx, hs, rfl⟩
    · exact .downloadUnsent hw hx
    · exact .downloadRefused hw hx hs
  | uncreated hf h => exact .archiveUncreated hf h
  | unstored hf hc hb h => exact failsFirst_of_unstored hf hc h

theorem Course.succeeds {report : RunReport} (h : s.Course actions (.done report) files) :
    s.Succeeds report := by
  cases h with
  | finished hf hc hb h =>
    unfold Downloader.stored at h
    split at h
    · cases h
    · cases h
    · next hd hbody => cases h; exact ⟨_, _, _, hf, ⟨⟨_, _, hc⟩, hd⟩, hbody, rfl⟩

/-! ## The ends of each phase -/

theorem Receipted.course (hr : s.Receipted config receipt)
    (h : ∀ bytes, Receipt.ofBytes bytes = .ok receipt →
      Submission.identifierIn bytes = .error error) :
    ∃ actions files, s.Course actions (.failed error) files := by
  obtain ⟨response, ha, hf, hreceipt⟩ := hr
  have hs := ha.submitted_eq hf
  rw [h _ hreceipt] at hs
  exact ⟨_, _, .unsubmitted ha.1 hs⟩

theorem FailsFirst.course (h : s.FailsFirst error)
    (hb : Copy.bufferSize s.config.download.chunkSize.toNat < Copy.bufferBound) :
    ∃ actions files, s.Course actions (.failed error) files := by
  cases h with
  | unreadable h =>
    exact ⟨_, _, .unloaded (by simp only [Configuration.ofFile, h])⟩
  | notJson hr h =>
    exact ⟨_, _, .unloaded (by simp only [Configuration.ofFile, hr, Configuration.ofBytes, h])⟩
  | submissionUnsent hl h =>
    have hs := Endpoints.submitted_of_unaccepted (Http.Request.accepted_of_failed h)
    exact ⟨_, _, .unsubmitted hl hs⟩
  | submissionRefused hl h hs =>
    have hs := Endpoints.submitted_of_unaccepted (Http.Request.accepted_of_refused h hs)
    exact ⟨_, _, .unsubmitted hl hs⟩
  | answerCut ha h =>
    have hs := Endpoints.submitted_of_cut (Http.Request.accepted_eq_ok.2 ha.2) h
    exact ⟨_, _, .unsubmitted ha.1 hs⟩
  | receiptInvalid ha hf h =>
    have hs := ha.submitted_eq hf
    simp only [Submission.identifierIn, h] at hs
    exact ⟨_, _, .unsubmitted ha.1 hs⟩
  | identifierMissing hr h =>
    exact hr.course fun _ hreceipt => by simp only [Submission.identifierIn, hreceipt, h]
  | identifierInvalid hr h =>
    exact hr.course fun _ hreceipt => by simp only [Submission.identifierIn, hreceipt, h]
  | startUnsent hs h => exact ⟨_, _, .unstarted hs h⟩
  | channelUnopened hs h => exact ⟨_, _, .unopened hs h⟩
  | channelFailed hs hc h hg =>
    exact ⟨_, _, .unfinished hs hc (Hearing.verdict_eq_failed.2 ⟨_, h, hg, rfl⟩)⟩
  | downloadUnsent hw h => exact ⟨_, _, .unfetched hw (Http.Request.accepted_of_failed h)⟩
  | downloadRefused hw h hs => exact ⟨_, _, .unfetched hw (Http.Request.accepted_of_refused h hs)⟩
  | archiveUncreated hf h => exact ⟨_, _, .uncreated hf h⟩
  | archiveUnwritten hf hc h =>
    exact ⟨_, _, .unstored hf hc hb (by simp only [Downloader.stored, h])⟩
  | archiveCut hf hc h =>
    obtain ⟨⟨place, created, hc⟩, hd⟩ := hc
    exact ⟨_, _, .unstored hf hc hb (by simp only [Downloader.stored, hd, h])⟩

theorem Succeeds.course {report : RunReport} (h : s.Succeeds report)
    (hb : Copy.bufferSize s.config.download.chunkSize.toNat < Copy.bufferBound) :
    ∃ actions files, s.Course actions (.done report) files := by
  obtain ⟨config, channel, response, hf, ⟨⟨place, created, hc⟩, hd⟩, hbody, hreport⟩ := h
  obtain ⟨run, wait, download⟩ := report
  obtain rfl : download = ⟨s.archivePath run, _, _⟩ := hreport
  exact ⟨_, _, .finished hf hc hb (by simp only [Downloader.stored, hd, hbody])⟩

end Scene

/-- With a copy buffer that can be had, and notifications that come to an end, a run has a report
exactly when every phase works out, and otherwise the error of the first phase that does not. -/
theorem Runner.runAll_first_failure {config : Config.Client} {r : Runner}
    {services₀ services : Services} {world₀ world₁ world : World} {path : Path}
    (hr : (Runner.build config).run services₀ world₀ = (.done r, world₁))
    (hsize : config.download.chunkSize.toNat < 2 ^ 63)
    (hends : ∀ channel, services.channel r.endpoints.notification = .ok channel →
      Hearing.Terminates (Hearing.marks config.run.completionMarker) channel) :
    let s : Scene := ⟨r.endpoints, config, services, world, path⟩
    let outcome := ((r.runAll path).run services world).1
    (∀ report, outcome = .done report ↔ s.Succeeds report) ∧
      (∀ error, outcome = .failed error ↔ s.FailsFirst error) ∧
      ((∃ report, outcome = .done report) ∨ ∃ error, outcome = .failed error) := by
  obtain ⟨e, _, he, rfl⟩ := endpoints_of_build hr
  intro s outcome
  have hb : Copy.bufferSize config.download.chunkSize.toNat < Copy.bufferBound := by
    unfold Copy.bufferSize Copy.bufferBound
    omega
  obtain ⟨actions, outcome', files, hcourse, hrun⟩ := s.runAll_course he
  obtain rfl : outcome = outcome' := hrun.outcome_eq
  have hunique {other : Outcome ClientError RunReport}
      (h : ∃ actions files, s.Course actions other files) : outcome = other := by
    obtain ⟨_, _, h⟩ := h
    exact hcourse.outcome_eq.trans h.outcome_eq.symm
  refine ⟨fun report => ⟨fun h => ?_, fun h => hunique (h.course hb)⟩,
    fun error => ⟨fun h => ?_, fun h => hunique (h.course hb)⟩, ?_⟩
  · exact (h ▸ hcourse).succeeds
  · exact (h ▸ hcourse).failsFirst
  · cases ho : outcome with
    | done report => exact .inl ⟨report, rfl⟩
    | failed error => exact .inr ⟨error, rfl⟩
    | blocked =>
      rw [ho] at hcourse
      cases hcourse with
      | waiting hs hc h => exact absurd h (Hearing.verdict_ne_blocked (hends _ hc))
    | crashed message =>
      rw [ho] at hcourse
      cases hcourse with
      | crashed hf hc h => exact absurd h (Nat.not_le.2 hb)

/-- A start that the service refuses does not matter, and nor does an open channel once the marker
has come; a download that the service refuses ends the run. -/
theorem Runner.refused_download_fails_first :
    let config : Config.Client :=
      { endpoints := ⟨"http://[::1]/", "ws://[::1]/"⟩, run := { completionMarker := some "DONE" } }
    let base : Url :=
      ⟨"http", none, some (.ipv6 [0, 0, 0, 0, 0, 0, 0, 1]), none, .segments ['/'], none, none⟩
    let r := Runner.ofEndpoints ⟨base, { base with scheme := "ws" }⟩ config
    let path : Path := .ofText "config.json"
    let world : World := { files := (FileSystem.empty []).withFile path (Utf8.encode "[]") }
    let channel : Channel := ⟨[.text "one", .text " DONE "], .silent, .ok ()⟩
    let body : Http.Body := { chunks := [Utf8.encode "\x7b\"timestamp\":7\x7d"] }
    let status (n : Nat) : Http.Status := ⟨if n = 0 then 200 else if n = 1 then 500 else 404⟩
    let services : Services :=
      { answer := fun n q => .ok ⟨status n, q.url, body⟩, channel := fun _ => .ok channel }
    (Runner.build config).run services world = (.done r, world) ∧
      config.download.chunkSize.toNat < 2 ^ 63 ∧
      Hearing.Terminates (Hearing.marks config.run.completionMarker) channel ∧
      ((r.runAll path).run services world).1 = .failed (.refused .download ⟨404⟩) := by
  intro config base r path world channel body status services
  have hr : (Runner.build config).run services world = (.done r, world) := by cbv
  have hsize : config.download.chunkSize.toNat < 2 ^ 63 := by decide
  have hends : Hearing.Terminates (Hearing.marks config.run.completionMarker) channel :=
    .inr (.inr ⟨.text " DONE ", " DONE ", by cbv, rfl⟩)
  refine ⟨hr, hsize, hends, ?_⟩
  have hterminates (heard : Channel) (hc : services.channel r.endpoints.notification = .ok heard) :
      Hearing.Terminates (Hearing.marks config.run.completionMarker) heard := by
    cases hc
    exact hends
  obtain ⟨_, hfails, _⟩ := runAll_first_failure hr hsize hterminates
  let s : Scene := ⟨r.endpoints, config, services, world, path⟩
  let id : Identifier := ⟨"7", by decide⟩
  have hjson : Json.ofBytes (Utf8.encode "[]") = .ok (.array []) := by rfl
  have hreceipt : Receipt.ofBytes (Utf8.encode "\x7b\"timestamp\":7\x7d") =
      .ok ⟨some (.number (.natural 7))⟩ := by rfl
  have hbody : Utf8.encode (body.decode body.bytes) = Utf8.encode "\x7b\"timestamp\":7\x7d" := by
    cbv
  have hread : ((FileSystem.empty []).withFile (.ofText "config.json") (Utf8.encode "[]")).read
      (.ofText "config.json") = .ok (Utf8.encode "[]") := by cbv
  have hloaded : s.Loaded ⟨.array []⟩ := ⟨_, hread, hjson⟩
  have hreceipted : s.Receipted ⟨.array []⟩ ⟨some (.number (.natural 7))⟩ :=
    ⟨_, ⟨hloaded, rfl, rfl⟩, rfl, (congrArg Receipt.ofBytes hbody).trans hreceipt⟩
  have hstarted : s.Started ⟨.array []⟩ id := ⟨⟨_, hreceipted, rfl⟩, _, rfl⟩
  have hwaited : s.Waited ⟨.array []⟩ id channel ⟨2, .markerReceived⟩ := ⟨hstarted, rfl, by cbv⟩
  exact (hfails _).2 (.downloadRefused hwaited rfl rfl)

end MqttConformance.Run
