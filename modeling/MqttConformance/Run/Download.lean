import MqttConformance.Http.Client
import MqttConformance.Run.Copy
import MqttConformance.Run.Endpoints

/-!
The archive of a finished run. It is fetched from the service and written to a file of its own in
the output directory; the file is only created once the service has answered with success.
-/

namespace MqttConformance.Run

/-- What a download has come to. -/
structure DownloadSummary where
  path : Path
  bytesWritten : Nat
  status : Http.Status
  deriving DecidableEq, Repr

/-- Where archives come from, where they go, and the chunk size for copying them. -/
structure Downloader where
  endpoints : Endpoints
  outputDir : Path
  chunkSize : Nat
  deriving DecidableEq, Repr

namespace Downloader

/-- The downloader for a configured chunk size, of at least one byte. -/
def new (endpoints : Endpoints) (outputDir : Path) (chunkSize : Nat) : Downloader :=
  ⟨endpoints, outputDir, max chunkSize 1⟩

def info (message : String) : Log.Event := ⟨.info, .download, message, []⟩

/-- Where the archive of a run goes. -/
def archivePath (d : Downloader) (run : Identifier) : Path := run.archivePath d.outputDir

/-- Copies a body to the end of a file. -/
def copyTo (d : Downloader) (at_ : Location) (body : Http.Body) : Activity Nat := do
  let disk := (← Effect.services).disk.fresh
  let report := Copy.inChunks disk body.stream d.chunkSize
  Effect.setFiles (report.writes.foldl (fun files bytes => files.append at_ bytes) (← Effect.files))
  Effect.ofOutcome (report.total.mapError .io)

/-- Writes a body to a new file; an old one of that name is lost. -/
def store (d : Downloader) (path : Path) (body : Http.Body) : Activity Nat := do
  let (at_, files) ← Effect.lift .io ((← Effect.files).create path)
  Effect.setFiles files
  d.copyTo at_ body

/-- Fetches the archive of a run. -/
def download (d : Downloader) (run : Identifier) : Activity DownloadSummary := do
  let url ← Effect.ofExcept (d.endpoints.downloadUrl run)
  Effect.report (info ("Downloading results of run " ++ run.text ++ " from " ++ url.render))
  let response ← (⟨.download, .get, url, none⟩ : Http.Request).sendChecked
  let path := d.archivePath run
  let count ← d.store path response.body
  Effect.report (info ("Wrote " ++ toString count ++ " bytes to " ++ Text.quotePath path.bytes))
  return ⟨path, count, response.status⟩

end Downloader

end MqttConformance.Run
