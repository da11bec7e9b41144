import MqttConformance.Proofs.Footprint
import MqttConformance.Proofs.Narration

/-! The crash of a run. There is one way for a run to crash: the archive has been created, which
empties a file that was there before, and then no buffer of the chunk size can be had to copy it
(`Scene.Course.of_crashed`, `Scene.Archives.course`). The chunk size comes from the command line and
the environment, and neither keeps it below that bound. -/

namespace MqttConformance

/-- The exit code of a crash is its own. -/
theorem Outcome.exitCode_eq_crash {ε α : Type} {outcome : Outcome ε α} :
    outcome.exitCode = some 101 ↔ ∃ message, outcome = .crashed message := by
  cases outcome <;> simp [exitCode]

namespace Run

/-- The buffer cannot be had exactly if the chunk size reaches the bound: only an empty buffer is
made larger. -/
theorem Copy.bufferBound_le_bufferSize {n : Nat} : bufferBound ≤ bufferSize n ↔ 2 ^ 63 ≤ n := by
  unfold bufferBound bufferSize
  omega

namespace Scene

variable {s : Scene} {place other : Location} {created files : FileSystem}
variable {actions : List Action} {message : String}

/-- The download is answered with success and its archive is created at `place`, which leaves the
files `created`. -/
def Archives (s : Scene) (place : Location) (created : FileSystem) : Prop :=
  ∃ config id channel wait response, s.Fetched config id channel wait response ∧
    s.world.files.create (s.archivePath id) = .ok (place, created)

theorem Archives.unique (h : s.Archives place created) (h' : s.Archives other files) :
    place = other ∧ created = files := by
  obtain ⟨_, id, _, _, _, hf, hc⟩ := h
  obtain ⟨_, id', _, _, _, hf', hc'⟩ := h'
  obtain rfl : id = id' := Submitted.unique hf.1.1.1 hf'.1.1.1
  cases hc.symm.trans hc'
  exact ⟨rfl, rfl⟩

/-- The archive is a file without content then, whatever it was before. -/
theorem Archives.emptied (h : s.Archives place created) :
    created.node? place = some (.file []) := by
  obtain ⟨_, _, _, _, _, _, hc⟩ := h
  exact FileSystem.node?_created hc

/-- What a crash of a run says about it. -/
theorem Course.of_crashed (h : s.Course actions (.crashed message) files) :
    2 ^ 63 ≤ s.config.download.chunkSize.toNat ∧ ∃ place, s.Archives place files := by
  cases h with
  | crashed hf hc hb =>
    exact ⟨Copy.bufferBound_le_bufferSize.1 hb, _, _, _, _, _, _, hf, hc⟩

/-- With a chunk size that reaches the bound, an archive that can be created is not filled. -/
theorem Archives.course (h : s.Archives place created)
    (hsize : 2 ^ 63 ≤ s.config.download.chunkSize.toNat) :
    ∃ actions, s.Course actions (.crashed Copy.overflowMessage) created := by
  obtain ⟨_, _, _, _, _, hf, hc⟩ := h
  exact ⟨_, .crashed hf hc (Copy.bufferBound_le_bufferSize.2 hsize)⟩

/-- A run crashes exactly if its archive is created and the chunk size reaches the bound. -/
theorem Course.crashes_iff {outcome : Outcome ClientError RunReport}
    (h : s.Course actions outcome files) :
    (∃ message, outcome = .crashed message) ↔
      2 ^ 63 ≤ s.config.download.chunkSize.toNat ∧ ∃ place created, s.Archives place created := by
  constructor
  · rintro ⟨message, rfl⟩
    obtain ⟨hsize, place, harchives⟩ := h.of_crashed
    exact ⟨hsize, place, files, harchives⟩
  · rintro ⟨hsize, place, created, harchives⟩
    obtain ⟨_, hcrash⟩ := harchives.course hsize
    exact ⟨_, h.outcome_eq.trans hcrash.outcome_eq.symm⟩

end Scene

end Run

namespace Cli

open Config (Environment)
open Run (Scene)

variable {words : List Bytes} {i : Invocation}

section

variable {c : Config.Client} {services : Services} {world : World} {e : Run.Endpoints}

/-- A run of the library crashes exactly if its archive is created and the chunk size reaches the
bound. -/
theorem report_crashes_iff :
    (∃ message, ((Run.Library.report c).run services world).1 = .crashed message) ↔
      2 ^ 63 ≤ c.download.chunkSize.toNat ∧
      ∃ e place created, Run.Endpoints.ofConfig c.endpoints = .ok e ∧
        (⟨e, c, services, world, c.run.configPath⟩ : Scene).Archives place created := by
  cases he : Run.Endpoints.ofConfig c.endpoints with
  | error error => simp [report_fails he]
  | ok e =>
    obtain ⟨events, _, _, _, hcourse, hends⟩ := report_course he services world
    rw [hends.outcome_eq, hcourse.crashes_iff]
    constructor
    · rintro ⟨hsize, place, created, harchives⟩
      exact ⟨hsize, e, place, created, rfl, harchives⟩
    · rintro ⟨hsize, _, place, created, he, harchives⟩
      cases he
      exact ⟨hsize, place, created, harchives⟩

/-- A run that crashes leaves the files as creating the archive has left them. -/
theorem files_of_report_crashed {message : String} {place : Location} {created : FileSystem}
    (hcrash : ((Run.Library.report c).run services world).1 = .crashed message)
    (he : Run.Endpoints.ofConfig c.endpoints = .ok e)
    (harchives : (⟨e, c, services, world, c.run.configPath⟩ : Scene).Archives place created) :
    ((Run.Library.report c).run services world).2.files = created := by
  obtain ⟨events, _, _, _, hcourse, hends⟩ := report_course he services world
  obtain rfl := hends.outcome_eq.symm.trans hcrash
  obtain ⟨_, place', harchives'⟩ := hcourse.of_crashed
  exact hends.files_eq.trans (harchives'.unique harchives).2

end

/-- **The crash of the program.** The chunk size of a run is what the command line gives, or else
what the variable says, or else the default. A run crashes exactly if the download is answered with
success, its archive can be created and the chunk size is one for which no buffer can be had; and it
leaves the archive without content then, whatever it was before. -/
theorem carryOut_crashes_iff (hi : Invocation.ofWords words = .ok i) (env : Environment)
    (stamp : Log.Stamp) (services : Services) (files : FileSystem) :
    let c := i.effectiveConfig env
    let program := carryOut words env stamp services files
    let opened := Log.Logger.ofPlan (Log.Plan.ofConfig files versionText c.log)
      (Log.Logger.userFilter? (env.value? filterVariable)) stamp files
    let scene (e : Run.Endpoints) : Scene :=
      ⟨e, c, services, { files := opened.files }, c.run.configPath⟩
    (∀ line : Line, line.words = words → c.download.chunkSize =
      layered (line.size? .chunkSize) (env.read? "MQTT_COMPLIANCE_DOWNLOAD_CHUNK_SIZE") 1024) ∧
    (program.exitCode = some 101 ↔ i.command = .run ∧ 2 ^ 63 ≤ c.download.chunkSize.toNat ∧
      ∃ e place created, Run.Endpoints.ofConfig c.endpoints = .ok e ∧
        (scene e).Archives place created) ∧
    ∀ e place created, program.exitCode = some 101 → Run.Endpoints.ofConfig c.endpoints = .ok e →
      (scene e).Archives place created →
        program.world.files = created ∧ created.node? place = some (.file []) := by
  intro c program opened scene
  have hlayers (line : Line) (hwords : line.words = words) : FromLayers line env c :=
    ((Invocation.effectiveConfig_layers hi env).2 line hwords).2.1
  refine ⟨fun line hwords => (hlayers line hwords).chunkSize, ?_⟩
  cases hcommand : i.command with
  | showConfig =>
    have hcode : program.exitCode = some 0 := by
      simp only [program, carryOut, hi, hcommand]
    simp [hcode]
  | run =>
    let world : World := { files := opened.files, log := opened.events }
    have hprogram : program = carryOutRun c
        (Log.Logger.userFilter? (env.value? filterVariable)) stamp services files := by
      simp only [program, carryOut, hi, hcommand, c]
    obtain ⟨hcode, -, hworld⟩ := hprogram ▸ @carryOutRun_eq_task c _ stamp services files opened rfl
    obtain ⟨_, _, _, _, _, _, _, _, hbeside⟩ := exists_beside c services 0 opened.files
    have htask := hbeside.program_ends world rfl rfl
    have hreport := hbeside.report_ends world rfl rfl
    have hcrash : program.exitCode = some 101 ↔
        ∃ message, ((Run.Library.report c).run services world).1 = .crashed message := by
      rw [hcode, htask.outcome_eq, hbeside.exitCode_eq, hreport.outcome_eq,
        Outcome.exitCode_eq_crash]
    refine ⟨?iff, fun e place created h101 he harchives => ⟨?files, harchives.emptied⟩⟩
    case iff =>
      rw [hcrash, report_crashes_iff]
      exact ⟨fun h => ⟨rfl, h⟩, And.right⟩
    case files =>
      obtain ⟨message, hmessage⟩ := hcrash.1 h101
      rw [hworld, htask.files_eq, ← hreport.files_eq]
      exact files_of_report_crashed hmessage he harchives

/-- A size that a variable gives: the run crashes, so that its archive was created, and no other
file has changed. -/
theorem size_of_variable_crashes :
    let words := ["run", "--base-url=http://[::1]/", "--notification-url", "ws://[::1]/"].map
      Utf8.encode
    let env := Environment.empty.set "MQTT_COMPLIANCE_DOWNLOAD_CHUNK_SIZE"
      (Utf8.encode "9223372036854775808")
    let files : FileSystem :=
      ⟨[([Utf8.encode "config.json"], .file (Utf8.encode "[]")),
        ([Utf8.encode "result_7.zip"], .file (Utf8.encode "old"))], []⟩
    let receipt : Http.Body := { chunks := [Utf8.encode "\x7b\"timestamp\":7\x7d"] }
    let services : Services :=
      { answer := fun _ q => .ok ⟨⟨200⟩, q.url, receipt⟩
        channel := fun _ => .ok ⟨[], .ended, .ok ()⟩ }
    let program := carryOut words env ⟨"", ""⟩ services files
    program.exitCode = some 101 ∧ ∃ place, files.ChangedAt program.world.files place ∧
      program.world.files.node? place = some (.file []) := by
  intro words env files receipt services program
  let c : Config.Client :=
    { endpoints := ⟨"http://[::1]/", "ws://[::1]/"⟩, download := { chunkSize := 2 ^ 63 } }
  have hcode : program.exitCode = some 101 := by decide +kernel
  obtain ⟨i, hi, hc⟩ : ∃ i, Invocation.ofWords words = .ok i ∧ i.effectiveConfig env = c :=
    exists_ok_of_map (by decide +kernel)
  obtain ⟨-, hiff, hleft⟩ := carryOut_crashes_iff hi env ⟨"", ""⟩ services files
  obtain ⟨-, -, e, place, created, he, harchives⟩ := hiff.1 hcode
  obtain ⟨hfiles, hempty⟩ := hleft e place created hcode he harchives
  rw [hc] at harchives
  obtain ⟨_, _, _, _, _, _, hcreated⟩ := harchives
  refine ⟨hcode, place, ?_, ?_⟩
  · rw [hfiles]
    exact FileSystem.changedAt_create hcreated
  · rw [hfiles]
    exact hempty

/-- A size that an option gives: the download is answered with success, and the archive of an
earlier run is lost. -/
theorem size_of_option_crashes :
    let words := ["run", "--base-url=http://[::1]/", "--notification-url", "ws://[::1]/",
      "--chunk-size=9223372036854775808"].map Utf8.encode
    let files : FileSystem :=
      ⟨[([Utf8.encode "config.json"], .file (Utf8.encode "[]")),
        ([Utf8.encode "result_7.zip"], .file (Utf8.encode "old"))], []⟩
    let receipt : Http.Body := { chunks := [Utf8.encode "\x7b\"timestamp\":7\x7d"] }
    let services : Services :=
      { answer := fun _ q => .ok ⟨⟨200⟩, q.url, receipt⟩
        channel := fun _ => .ok ⟨[], .ended, .ok ()⟩ }
    let program := carryOut words .empty ⟨"", ""⟩ services files
    (Invocation.ofWords words).isOk = true ∧ files.read (.ofText "result_7.zip") =
      .ok (Utf8.encode "old") ∧ program.world.sent = 3 ∧
      program.exitCode = some 101 ∧ program.errorLines = ["capacity overflow"] ∧
      program.world.files.read (.ofText "result_7.zip") = .ok [] := by
  decide +kernel

end Cli

end MqttConformance
