import MqttConformance.Path
import MqttConformance.Text.Utf8

/-!
The commands of the program and their options. The two options of the log belong to the program and
to every command, all others to the commands.
-/

namespace MqttConformance.Cli

/-- The name under which the program runs, and its version. -/
def programName : String := "mqtt-compliance"

def version : String := "0.1.0"

/-- The commands. -/
inductive Command where
  | run
  | showConfig
  deriving DecidableEq, Repr

namespace Command

def name : Command → String
  | run => "run"
  | showConfig => "show-config"

def about : Command → String
  | run =>
    "Submit a run configuration, wait for the conformance run to finish and download the result " ++
      "archive"
  | showConfig =>
    "Print the configuration a run would use once environment variables and flags are applied"

end Command

/-- What an option takes. -/
inductive Takes where
  | path
  | text
  /-- A whole number from one up. -/
  | size
  /-- No value: it is on where it is given. -/
  | nothing
  /-- No value: it asks for help. -/
  | helpRequest
  /-- No value: it asks for the version. -/
  | versionRequest
  deriving DecidableEq, Repr

/-- Whether there is a value. -/
def Takes.hasValue : Takes → Bool
  | path | text | size => true
  | nothing | helpRequest | versionRequest => false

/-- The options. -/
inductive Opt where
  | config
  | log
  | baseUrl
  | logFormat
  | notificationUrl
  | outputDir
  | insecure
  | completionMarker
  | chunkSize
  | help
  | version
  deriving DecidableEq, Repr

namespace Opt

/-- The name after two dashes. -/
def long : Opt → String
  | config => "config"
  | log => "log"
  | baseUrl => "base-url"
  | logFormat => "log-format"
  | notificationUrl => "notification-url"
  | outputDir => "output-dir"
  | insecure => "insecure"
  | completionMarker => "completion-marker"
  | chunkSize => "chunk-size"
  | help => "help"
  | version => "version"

/-- The letter after one dash. -/
def short? : Opt → Option Char
  | config => some 'c'
  | outputDir => some 'o'
  | help => some 'h'
  | version => some 'V'
  | _ => none

def takes : Opt → Takes
  | config | outputDir => .path
  | log | baseUrl | logFormat | notificationUrl | completionMarker => .text
  | chunkSize => .size
  | insecure => .nothing
  | help => .helpRequest
  | version => .versionRequest

/-- What stands for the value in messages. -/
def valueName (o : Opt) : String :=
  String.ofList (o.long.toList.map fun c => if c = '-' then '_' else c.toUpper)

/-- The option as messages show it. -/
def shown (o : Opt) : String :=
  "--" ++ o.long ++ (if o.takes.hasValue then " <" ++ o.valueName ++ ">" else "")

/-- What the option is good for. The text on help depends on the page. -/
def about : Opt → String
  | config => "The JSON run configuration to submit. Default \"config.json\""
  | log =>
    "Where to write logs: a file, or a directory (trailing '/') to create a timestamped file " ++
      "in. Writes to stderr if not provided"
  | baseUrl => "Base URL of the conformance service, e.g. https://localhost:3001/v1"
  | logFormat => "Log format, \"json\" or \"pretty\""
  | notificationUrl => "Websocket URL of the notification service, e.g. ws://localhost:8080"
  | outputDir => "Directory the result archive is written to. Default is the current directory"
  | insecure =>
    "Accept invalid TLS certificates from the conformance service. " ++
      "Only meant for local test deployments using self-signed certificates"
  | completionMarker =>
    "A notification message that marks the run as complete. " ++
      "Without it the wait ends only when the notification service closes the channel"
  | chunkSize => "Buffer size in bytes used while writing the archive. Default 1024"
  | help => "Print help"
  | version => "Print version"

end Opt

/-- A part of the command line: in front of the command, or after it. Help counts as a command whose
words are names of commands. -/
inductive Scope where
  | program
  | command (c : Command)
  | help
  deriving DecidableEq, Repr

namespace Scope

/-- The name of the help command. -/
def helpName : String := "help"

/-- The options that may stand here, in the order in which they are listed. -/
def options : Scope → List Opt
  | program => [.log, .logFormat, .help, .version]
  | command _ =>
    [.config, .log, .baseUrl, .logFormat, .notificationUrl, .outputDir, .insecure,
      .completionMarker, .chunkSize, .help, .version]
  | help => []

/-- The commands that may follow here. -/
def commands : Scope → List Scope
  | program => [.command .run, .command .showConfig, .help]
  | command _ | help => []

/-- The words that lead here. -/
def words : Scope → List String
  | program => [programName]
  | command c => [programName, c.name]
  | help => [programName, helpName]

/-- The last of the words. -/
def name : Scope → String
  | program => programName
  | command c => c.name
  | help => helpName

/-- The command that a word names here. -/
def command? (s : Scope) (word : Bytes) : Option Scope :=
  s.commands.find? fun c => Utf8.encode c.name == word

def long? (s : Scope) (name : Bytes) : Option Opt :=
  s.options.find? fun o => Utf8.encode o.long == name

def short? (s : Scope) (letter : Char) : Option Opt :=
  s.options.find? fun o => o.short? == some letter

/-- The words that lead here, and what may follow them. -/
def usage (s : Scope) : String :=
  " ".intercalate s.words ++
    match s with
    | program => " [OPTIONS] <COMMAND>"
    | command _ => " [OPTIONS]"
    | help => " [COMMAND]..."

/-- The words that lead here, with options that have been given. -/
def usageWith (s : Scope) (given : List Opt) : String :=
  if given.isEmpty then s.usage
  else
    " ".intercalate (s.words ++ given.map Opt.shown) ++
      match s with
      | program => " <COMMAND>"
      | command _ | help => ""

/-- Whether `--help` may be asked for here. -/
def hasHelp (s : Scope) : Bool := s.options.contains .help

end Scope

end MqttConformance.Cli
