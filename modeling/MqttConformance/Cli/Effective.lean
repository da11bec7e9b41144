import MqttConformance.Cli.Reader
import MqttConformance.Config.Client

/-!
The configuration that a command line leads to: the defaults, overridden by the environment,
overridden by the options. No option takes back what the environment has turned on.
-/

namespace MqttConformance.Cli

namespace Invocation

/-- The value given for an option; the first entry counts. -/
def value? (i : Invocation) (option : Opt) : Option Value :=
  (i.given.find? (·.1 == option)).map (·.2)

/-- The path given for an option. -/
def path? (i : Invocation) (option : Opt) : Option Path :=
  match i.value? option with
  | some (.path p) => some p
  | _ => none

/-- The text given for an option. -/
def text? (i : Invocation) (option : Opt) : Option String :=
  match i.value? option with
  | some (.text s) => some s
  | _ => none

/-- The size given for an option. -/
def size? (i : Invocation) (option : Opt) : Option UInt64 :=
  match i.value? option with
  | some (.size n) => some n
  | _ => none

def isOn (i : Invocation) (option : Opt) : Bool := i.value? option == some .on

/-- A configuration with the options in place. -/
def applyTo (i : Invocation) (c : Config.Client) : Config.Client where
  endpoints := {
    baseUrl := (i.text? .baseUrl).getD c.endpoints.baseUrl
    notificationUrl := (i.text? .notificationUrl).getD c.endpoints.notificationUrl }
  http := { c.http with acceptInvalidCerts := i.isOn .insecure || c.http.acceptInvalidCerts }
  run := {
    configPath := (i.path? .config).getD c.run.configPath
    completionMarker := (i.text? .completionMarker).or c.run.completionMarker }
  download := {
    outputDir := (i.path? .outputDir).getD c.download.outputDir
    chunkSize := (i.size? .chunkSize).getD c.download.chunkSize }
  log := {
    dest := (i.text? .log).or c.log.dest
    format := (i.text? .logFormat).or c.log.format
    filePrefix := c.log.filePrefix }

/-- The configuration in an environment. -/
def effectiveConfig (i : Invocation) (env : Config.Environment) : Config.Client :=
  i.applyTo (Config.Client.load env).1

end Invocation

end MqttConformance.Cli
