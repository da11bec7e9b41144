import MqttConformance.Config.Group

/-!
The configuration of the client: five groups, each with defaults that the environment overrides.
-/

namespace MqttConformance.Config

/-- Where the service and its notification channel are. -/
structure Endpoints where
  baseUrl : String := "https://localhost:3001/v1"
  notificationUrl : String := "ws://localhost:8080"
  deriving DecidableEq, Repr

/-- How the client talks to the service. -/
structure Http where
  acceptInvalidCerts : Bool := false
  connectTimeout : Duration := .ofSeconds 30
  readTimeout : Duration := .ofSeconds 300
  deriving DecidableEq, Repr

/-- What is run, and which message ends the wait. -/
structure Run where
  configPath : Path := .ofText "config.json"
  completionMarker : Option String := none
  deriving DecidableEq, Repr

/-- Where the archive goes, and the size of the copy buffer. -/
structure Download where
  outputDir : Path := .ofText "."
  chunkSize : UInt64 := 1024
  deriving DecidableEq, Repr

/-- Where log records go and how they look. -/
structure Logging where
  dest : Option String := none
  format : Option String := none
  filePrefix : String := "mqtt-compliance"
  deriving DecidableEq, Repr

/-- The whole configuration. -/
structure Client where
  endpoints : Endpoints := {}
  http : Http := {}
  run : Run := {}
  download : Download := {}
  log : Logging := {}
  deriving DecidableEq, Repr

def endpointsGroup : Group Endpoints where
  name := "endpoints"
  default := {}
  fields := [
    ⟨"base_url", String, inferInstance, (·.baseUrl), fun v g => { g with baseUrl := v }⟩,
    ⟨"notification_url", String, inferInstance, (·.notificationUrl),
      fun v g => { g with notificationUrl := v }⟩]

def httpGroup : Group Http where
  name := "http"
  default := {}
  fields := [
    ⟨"accept_invalid_certs", Bool, inferInstance, (·.acceptInvalidCerts),
      fun v g => { g with acceptInvalidCerts := v }⟩,
    ⟨"connect_timeout", Duration, inferInstance, (·.connectTimeout),
      fun v g => { g with connectTimeout := v }⟩,
    ⟨"read_timeout", Duration, inferInstance, (·.readTimeout),
      fun v g => { g with readTimeout := v }⟩]

def runGroup : Group Run where
  name := "run"
  default := {}
  fields := [
    ⟨"config_path", Path, inferInstance, (·.configPath), fun v g => { g with configPath := v }⟩,
    ⟨"completion_marker", Option String, inferInstance, (·.completionMarker),
      fun v g => { g with completionMarker := v }⟩]

def downloadGroup : Group Download where
  name := "download"
  default := {}
  fields := [
    ⟨"output_dir", Path, inferInstance, (·.outputDir), fun v g => { g with outputDir := v }⟩,
    ⟨"chunk_size", UInt64, inferInstance, (·.chunkSize), fun v g => { g with chunkSize := v }⟩]

def logGroup : Group Logging where
  name := "log"
  default := {}
  fields := [
    ⟨"dest", Option String, inferInstance, (·.dest), fun v g => { g with dest := v }⟩,
    ⟨"format", Option String, inferInstance, (·.format), fun v g => { g with format := v }⟩,
    ⟨"prefix", String, inferInstance, (·.filePrefix), fun v g => { g with filePrefix := v }⟩]

/-- A group by name. -/
inductive GroupName where
  | endpoints | http | run | download | log
  deriving DecidableEq, Repr

/-- The groups in the order in which they are read and shown. -/
def GroupName.all : List GroupName := [endpoints, http, run, download, log]

namespace Client

/-- The configuration with one group taken from the environment. -/
def overrideGroup (env : Environment) (name : GroupName) (c : Client) : Client × List Log.Event :=
  match name with
  | .endpoints =>
    let (g, events) := endpointsGroup.override env c.endpoints
    ({ c with endpoints := g }, events)
  | .http =>
    let (g, events) := httpGroup.override env c.http
    ({ c with http := g }, events)
  | .run =>
    let (g, events) := runGroup.override env c.run
    ({ c with run := g }, events)
  | .download =>
    let (g, events) := downloadGroup.override env c.download
    ({ c with download := g }, events)
  | .log =>
    let (g, events) := logGroup.override env c.log
    ({ c with log := g }, events)

/-- The configuration with some groups taken from the environment, one after another. -/
def overrideGroups (env : Environment) : List GroupName → Client → Client × List Log.Event
  | [], c => (c, [])
  | name :: names, c =>
    let (c, events) := c.overrideGroup env name
    let (c, more) := overrideGroups env names c
    (c, events ++ more)

/-- The configuration with every group taken from the environment. -/
def override (env : Environment) (c : Client) : Client × List Log.Event :=
  overrideGroups env GroupName.all c

/-- The defaults, overridden by the environment. -/
def load (env : Environment) : Client × List Log.Event := override env {}

/-- The variables that the configuration depends on. -/
def variableNames : List String :=
  endpointsGroup.variableNames ++ httpGroup.variableNames ++ runGroup.variableNames ++
    downloadGroup.variableNames ++ logGroup.variableNames

/-- The configuration over several lines, as an operator reads it. -/
def render (c : Client) : String :=
  "ComplianceConfig \x7b\n" ++ endpointsGroup.render c.endpoints ++ httpGroup.render c.http ++
    runGroup.render c.run ++ downloadGroup.render c.download ++ logGroup.render c.log ++ "\x7d\n"

end Client

end MqttConformance.Config
