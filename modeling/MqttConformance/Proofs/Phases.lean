import MqttConformance.Proofs.Copy
import MqttConformance.Proofs.Exchange
import MqttConformance.Run.Workflow

/-! How the phases of a run end: one lemma for each. With a base URL that takes segments every route
has a URL, and since a route changes nothing but the path, either all requests leave or none. -/

namespace MqttConformance

namespace Url

variable {u : Url} {segments : List String}

/-- The URL with segments added, if it takes any. -/
def extended (u : Url) (segments : List String) : Url := (u.extend? segments).getD u

theorem extend?_eq_some (h : u.cannotBeBase = false) :
    u.extend? segments = some (u.extended segments) := by
  unfold extended extend?
  unfold cannotBeBase at h
  split <;> simp_all

/-- Adding segments changes the path alone. -/
theorem extended_eq : ∃ path, u.extended segments = { u with path := path } := by
  unfold extended extend?
  split
  · exact ⟨u.path, rfl⟩
  · exact ⟨_, rfl⟩

end Url

namespace FileSystem

variable {fs created : FileSystem} {l place : Location}

theorem node?_append {bytes : Bytes} (h : l ≠ place) :
    (fs.append place bytes).node? l = fs.node? l := by
  unfold append
  split
  · exact node?_put_of_ne h
  · rfl

/-- Creating a file changes no other file. -/
theorem node?_create {path : Path} (hc : fs.create path = .ok (place, created)) (h : l ≠ place) :
    created.node? l = fs.node? l := by
  unfold create at hc
  split at hc
  · cases hc
  · split at hc
    · cases hc
    · split at hc
      · cases hc
      · cases hc
        exact node?_put_of_ne h

end FileSystem

namespace Run

open Effect (Ends)

variable {services : Services} {world : World} {files : FileSystem} {n : Nat}

namespace Endpoints

variable (e : Endpoints)

/-- Whether every route has a URL. -/
def TakesSegments : Prop := e.base.cannotBeBase = false

def submitTarget : Url := e.base.extended ["conformance", "cfg", "mqtt", "broker"]

def startTarget (id : Identifier) : Url := e.base.extended ["conformance", "run", "mqtt", id.text]

def downloadTarget (id : Identifier) : Url :=
  e.base.extended ["history", "download", "mqtt", id.text]

/-- The request that submits a configuration. -/
def submitRequest (config : Configuration) : Http.Request :=
  Submission.request e.submitTarget config

/-- The request that starts a run. -/
def startRequest (id : Identifier) : Http.Request := ⟨.start, .get, e.startTarget id, none⟩

/-- The request for the archive of a run. -/
def downloadRequest (id : Identifier) : Http.Request := ⟨.download, .get, e.downloadTarget id, none⟩

variable {e}

/-- The base of endpoints is read from a text, and it has a path that takes segments. -/
theorem base_of_ofTexts {base notification : String} (h : ofTexts base notification = .ok e) :
    Url.ofText base = .ok e.base ∧ e.TakesSegments := by
  unfold ofTexts readBase at h
  cases hu : Url.ofText base with
  | error fault => simp [hu, bind, Except.bind] at h
  | ok url =>
    cases hb : url.cannotBeBase with
    | true => simp [hu, hb, bind, Except.bind] at h
    | false =>
      cases hn : readNotification notification with
      | error fault => simp [hu, hb, hn, bind, Except.bind] at h
      | ok notificationUrl =>
        simp only [hu, hb, hn, bind, Except.bind, pure, Except.pure, if_false, Bool.false_eq_true,
          Except.ok.injEq] at h
        exact h ▸ ⟨rfl, hb⟩

theorem submitUrl_eq (h : e.TakesSegments) : e.submitUrl = .ok e.submitTarget := by
  rw [submitUrl, route, Url.extend?_eq_some h, submitTarget]

theorem startUrl_eq (h : e.TakesSegments) (id : Identifier) :
    e.startUrl id = .ok (e.startTarget id) := by
  rw [startUrl, route, Url.extend?_eq_some h, startTarget]

theorem downloadUrl_eq (h : e.TakesSegments) (id : Identifier) :
    e.downloadUrl id = .ok (e.downloadTarget id) := by
  rw [downloadUrl, route, Url.extend?_eq_some h, downloadTarget]

/-- Segments are added only to a base that takes them. -/
theorem takesSegments_of_route {segments : List String} {url : Url}
    (h : e.route segments = .ok url) : e.TakesSegments := by
  unfold route at h
  unfold TakesSegments Url.cannotBeBase
  cases hpath : e.base.path with
  | opaquePath path => simp [Url.extend?, hpath] at h
  | segments path => rfl

theorem leaves_of_target {api : Http.Api} {method : Http.Method} {body : Option Bytes}
    {segments : List String} :
    (⟨api, method, e.base.extended segments, body⟩ : Http.Request).leaves =
      (e.base.hasHost && (e.base.scheme == "http" || e.base.scheme == "https")) := by
  obtain ⟨path, h⟩ := @Url.extended_eq e.base segments
  simp only [Http.Request.leaves, h]
  rfl

/-- Once a submission has left, every other request leaves as well. -/
theorem leaves_startRequest {config : Configuration} {id : Identifier}
    (h : (e.submitRequest config).leaves = true) : (e.startRequest id).leaves = true :=
  leaves_of_target.trans (leaves_of_target.symm.trans h)

theorem leaves_downloadRequest {config : Configuration} {id : Identifier}
    (h : (e.submitRequest config).leaves = true) : (e.downloadRequest id).leaves = true :=
  leaves_of_target.trans (leaves_of_target.symm.trans h)

/-- What becomes of a submission with `n` requests before it. -/
def submitted (e : Endpoints) (config : Configuration) (services : Services) (n : Nat) :
    Except ClientError Submission := do
  let response ← (e.submitRequest config).accepted services n
  let body ← response.body.text.mapError .http
  let id ← Submission.identifierIn (Utf8.encode body)
  return ⟨id, body⟩

variable {config : Configuration} {response : Http.Response}

theorem submitted_of_unaccepted {error : ClientError}
    (h : (e.submitRequest config).accepted services n = .error error) :
    e.submitted config services n = .error error := by
  simp only [submitted, h, bind, Except.bind]

theorem submitted_of_cut {failure : Http.Failure}
    (h : (e.submitRequest config).accepted services n = .ok response)
    (hf : response.body.failure = some failure) :
    e.submitted config services n = .error (.http failure) := by
  simp only [submitted, h, Http.Body.text_of_failure hf, Except.mapError, bind, Except.bind]

theorem submitted_of_complete
    (h : (e.submitRequest config).accepted services n = .ok response)
    (hf : response.body.failure = none) : e.submitted config services n =
      (Submission.identifierIn (Utf8.encode (response.body.decode response.body.bytes))).map
        fun id => ⟨id, response.body.decode response.body.bytes⟩ := by
  simp only [submitted, h, Http.Body.text_of_complete hf, Except.mapError, bind, Except.bind, pure,
    Except.pure]
  cases Submission.identifierIn (Utf8.encode (response.body.decode response.body.bytes)) <;> rfl

end Endpoints

/-! ## Loading, submitting and starting -/

theorem load_ends {path : Path} (hf : world.files = files) : (Configuration.load path).Ends services
    world (.ofExcept (Configuration.ofFile files path)) [] files := by
  subst hf
  unfold Configuration.load
  exact .bind_quiet (.readFiles rfl) fun _ _ hf => .ofExcept hf

variable {e : Endpoints} {config : Configuration} {id : Identifier}

theorem submit_ends (he : e.TakesSegments) (hn : world.sent = n) (hf : world.files = files) :
    (Submission.submit e config).Ends services world (.ofExcept (e.submitted config services n))
      (e.submitRequest config).sends files := by
  unfold Submission.submit
  rw [Endpoints.submitUrl_eq he]
  refine .bind_quiet (.ofExcept hf) fun world₁ hn₁ hf => ?_
  refine .bind_quiet (.report hf) fun world₂ hn₂ hf => ?_
  have hsend : (e.submitRequest config).sendChecked.Ends services world₂ _ _ files :=
    Http.Request.sendChecked_ends (hn₂.trans (hn₁.trans hn)) hf
  cases hr : (e.submitRequest config).accepted services n with
  | error error =>
    rw [Endpoints.submitted_of_unaccepted hr]
    rw [hr] at hsend
    exact hsend.bind_failed
  | ok response =>
    rw [hr] at hsend
    refine hsend.bind_then_quiet fun world₃ hf => ?_
    cases hcut : response.body.failure with
    | some failure =>
      rw [Endpoints.submitted_of_cut hr hcut, Http.Body.text_of_failure hcut]
      exact Ends.bind_failed (.fail hf)
    | none =>
      rw [Endpoints.submitted_of_complete hr hcut, Http.Body.text_of_complete hcut]
      refine .bind_quiet (.pure hf) fun world₄ _ hf => ?_
      refine .bind_quiet (.report hf) fun world₅ _ hf => ?_
      cases Submission.identifierIn (Utf8.encode (response.body.decode response.body.bytes)) with
      | error error => exact Ends.bind_failed (.fail hf)
      | ok id =>
        refine .bind_quiet (.pure hf) fun world₆ _ hf => ?_
        exact .bind_quiet (.report hf) fun _ _ hf => .pure hf

theorem start_ends (he : e.TakesSegments) (hn : world.sent = n) (hf : world.files = files) :
    (Submission.start e id).Ends services world
      (.ofExcept ((((e.startRequest id).exchange services n).mapError .sending).map fun _ => ()))
      (e.startRequest id).sends files := by
  unfold Submission.start
  rw [Endpoints.startUrl_eq he]
  refine .bind_quiet (.ofExcept hf) fun world₁ hn₁ hf => ?_
  refine .bind_quiet (.report hf) fun world₂ hn₂ hf => ?_
  have hsend : (e.startRequest id).send.Ends services world₂ _ _ files :=
    Http.Request.send_ends (hn₂.trans (hn₁.trans hn)) hf
  refine hsend.bind_then_quiet fun world₃ hf => ?_
  cases (e.startRequest id).exchange services n with
  | error failure => exact Ends.bind_failed (.fail hf)
  | ok response =>
    refine .bind_quiet (.pure hf) fun world₄ _ hf => ?_
    cases response.status.isSuccess with
    | true => exact .pure hf
    | false => exact .report hf

/-! ## Downloading -/

namespace Downloader

variable {d : Downloader} {place : Location} {body : Http.Body} {response : Http.Response}

section

variable (d : Downloader) (disk : Copy.Writer) (place : Location) (body : Http.Body)

/-- The files once a body has been copied to the end of a file, as far as that goes. -/
def filled (files : FileSystem) : FileSystem :=
  (Copy.inChunks disk.fresh body.stream d.chunkSize).writes.foldl (·.append place ·) files

/-- The fault of the disk, if it does not take all of a body that arrives. -/
def refused? : Option IoFault :=
  (disk.fresh.writePieces (Copy.offered body.stream d.chunkSize)).2

/-- What the storing of a body comes to. -/
def stored : Except ClientError Nat :=
  match d.refused? disk body, body.failure with
  | some fault, _ => .error (.io fault)
  | none, some failure => .error (.io (.other failure.message))
  | none, none => .ok body.bytes.length

end

variable {disk : Copy.Writer}

theorem arrived_stream : Copy.arrived body.stream = body.chunks := by
  unfold Http.Body.stream
  induction body.chunks with
  | nil => cases body.failure <;> rfl
  | cons chunk chunks ih => simpa [Copy.arrived] using ih

theorem fault?_stream : Copy.fault? body.stream = body.failure.map fun f => .other f.message := by
  unfold Http.Body.stream
  induction body.chunks with
  | nil => cases body.failure <;> rfl
  | cons chunk chunks ih => simpa [Copy.fault?] using ih

theorem total_stream (hb : Copy.bufferSize d.chunkSize < Copy.bufferBound) :
    (Copy.inChunks disk.fresh body.stream d.chunkSize).total.mapError .io =
      .ofExcept (d.stored disk body) := by
  rw [Copy.inChunks_eq hb, fault?_stream, arrived_stream, stored, refused?]
  cases (disk.fresh.writePieces (Copy.offered body.stream d.chunkSize)).2 <;>
    cases body.failure <;> rfl

/-- A copy changes no other file. -/
theorem node?_filled {l : Location} (h : l ≠ place) :
    (d.filled disk place body files).node? l = files.node? l := by
  unfold filled
  induction (Copy.inChunks disk.fresh body.stream d.chunkSize).writes generalizing files with
  | nil => rfl
  | cons piece pieces ih => rw [List.foldl_cons, ih, FileSystem.node?_append h]

/-- A file is filled as far as the copy goes, and the end of the copy is the end of it all. -/
theorem copyTo_ends_as_copied (hf : world.files = files) :
    (d.copyTo place body).Ends services world
      ((Copy.inChunks services.disk.fresh body.stream d.chunkSize).total.mapError .io) []
      (d.filled services.disk place body files) := by
  unfold copyTo
  refine .bind_quiet (.readServices hf) fun world₁ _ hf => ?_
  refine .bind_quiet (.readFiles hf) fun world₂ _ _ => ?_
  exact Ends.setFiles.bind_then_quiet fun _ hf => .ofOutcome hf

theorem copyTo_ends (hb : Copy.bufferSize d.chunkSize < Copy.bufferBound)
    (hf : world.files = files) :
    (d.copyTo place body).Ends services world (.ofExcept (d.stored services.disk body)) []
      (d.filled services.disk place body files) := by
  rw [← total_stream hb]
  exact copyTo_ends_as_copied hf

/-- Without a buffer nothing is written. -/
theorem copyTo_crashes (hb : Copy.bufferBound ≤ Copy.bufferSize d.chunkSize)
    (hf : world.files = files) :
    (d.copyTo place body).Ends services world (.crashed Copy.overflowMessage) [] files := by
  have hcopy : (d.copyTo place body).Ends services world _ [] _ := copyTo_ends_as_copied hf
  rw [filled, Copy.inChunks_of_bufferBound_le hb] at hcopy
  exact hcopy

theorem store_uncreated {path : Path} {fault : IoFault} (hc : files.create path = .error fault)
    (hf : world.files = files) :
    (d.store path body).Ends services world (.failed (.io fault)) [] files := by
  unfold store
  refine .bind_quiet (.readFiles hf) fun world₁ _ hf => ?_
  rw [hc]
  exact Ends.bind_failed (.fail hf)

/-- In a file that could be created, everything depends on the copy. -/
theorem store_ends {path : Path} {created after : FileSystem} {outcome : Outcome ClientError Nat}
    (hc : files.create path = .ok (place, created))
    (hcopy : ∀ {world : World}, world.files = created →
      (d.copyTo place body).Ends services world outcome [] after) (hf : world.files = files) :
    (d.store path body).Ends services world outcome [] after := by
  unfold store
  refine .bind_quiet (.readFiles hf) fun world₁ _ hf => ?_
  rw [hc]
  refine .bind_quiet (.pure hf) fun world₂ _ _ => ?_
  exact .bind_quiet .setFiles fun _ _ hf => hcopy hf

variable {id : Identifier}

theorem download_unaccepted {error : ClientError} (he : d.endpoints.TakesSegments)
    (hr : (d.endpoints.downloadRequest id).accepted services n = .error error)
    (hn : world.sent = n) (hf : world.files = files) :
    (d.download id).Ends services world (.failed error) (d.endpoints.downloadRequest id).sends
      files := by
  unfold download
  rw [Endpoints.downloadUrl_eq he]
  refine .bind_quiet (.ofExcept hf) fun world₁ hn₁ hf => ?_
  refine .bind_quiet (.report hf) fun world₂ hn₂ hf => ?_
  have hsend : (d.endpoints.downloadRequest id).sendChecked.Ends services world₂ _ _ files :=
    Http.Request.sendChecked_ends (hn₂.trans (hn₁.trans hn)) hf
  rw [hr] at hsend
  exact hsend.bind_failed

/-- Once the download is answered with success, everything depends on the file. -/
theorem download_ends {after : FileSystem} {outcome : Outcome ClientError Nat}
    (he : d.endpoints.TakesSegments)
    (hr : (d.endpoints.downloadRequest id).accepted services n = .ok response)
    (hstore : ∀ {world : World}, world.files = files →
      (d.store (d.archivePath id) response.body).Ends services world outcome [] after)
    (hn : world.sent = n) (hf : world.files = files) :
    (d.download id).Ends services world
      (outcome.map fun count => ⟨d.archivePath id, count, response.status⟩)
      (d.endpoints.downloadRequest id).sends after := by
  unfold download
  rw [Endpoints.downloadUrl_eq he]
  refine .bind_quiet (.ofExcept hf) fun world₁ hn₁ hf => ?_
  refine .bind_quiet (.report hf) fun world₂ hn₂ hf => ?_
  have hsend : (d.endpoints.downloadRequest id).sendChecked.Ends services world₂ _ _ files :=
    Http.Request.sendChecked_ends (hn₂.trans (hn₁.trans hn)) hf
  rw [hr] at hsend
  refine hsend.bind_then_quiet fun world₃ hf => ?_
  refine (hstore hf).bind_map fun count world₄ hf => ?_
  exact .bind_quiet (.report hf) fun _ _ hf => .pure hf

end Downloader

end Run

end MqttConformance
