import MqttConformance.Run.Download
import MqttConformance.Run.Submission
import MqttConformance.Run.Wait

/-!
A conformance run from beginning to end: its configuration is submitted and the run started, the end
of the run is awaited, and the archive is fetched. The first phase that fails ends the run.
-/

namespace MqttConformance.Run

/-- Everything that the phases of a run need. -/
structure Runner where
  endpoints : Endpoints
  waiter : Waiter
  downloader : Downloader
  deriving DecidableEq, Repr

/-- Everything a finished run has produced. -/
structure RunReport where
  run : Identifier
  wait : WaitOutcome
  download : DownloadSummary
  deriving DecidableEq, Repr

namespace Runner

/-- The runner for endpoints and a configuration. -/
def ofEndpoints (e : Endpoints) (config : Config.Client) : Runner where
  endpoints := e
  waiter := Waiter.ofMarker e.notification config.run.completionMarker
  downloader := .new e config.download.outputDir config.download.chunkSize.toNat

/-- The runner for a configuration. -/
def build (config : Config.Client) : Activity Runner := do
  let e ← Effect.ofExcept (Endpoints.ofConfig config.endpoints)
  let _ ← Http.Client.build config.http Http.Client.defaultUserAgent
  return ofEndpoints e config

def loadingEvent (path : Path) : Log.Event :=
  ⟨.info, .workflow, "Loading run configuration from " ++ Text.quotePath path.bytes, []⟩

/-- Submits the configuration in a file and starts the run. -/
def submit (r : Runner) (path : Path) : Activity Submission := do
  Effect.report (loadingEvent path)
  let config ← Configuration.load path
  let submission ← Submission.submit r.endpoints config
  Submission.start r.endpoints submission.id
  return submission

def wait (r : Runner) : Activity WaitOutcome := r.waiter.wait

def download (r : Runner) (run : Identifier) : Activity DownloadSummary := r.downloader.download run

def finishedEvent (report : RunReport) : Log.Event :=
  ⟨.info, .workflow, "Conformance run finished",
    [("run_id", .text report.run.text), ("messages", .number report.wait.messagesReceived),
      ("bytes", .number report.download.bytesWritten)]⟩

/-- All phases in order. -/
def runAll (r : Runner) (path : Path) : Activity RunReport := do
  let submission ← r.submit path
  let wait ← r.wait
  let download ← r.download submission.id
  let report : RunReport := ⟨submission.id, wait, download⟩
  Effect.report (finishedEvent report)
  return report

end Runner

end MqttConformance.Run
