import MqttConformance.Json.Printer
import MqttConformance.Log.Filter
import MqttConformance.Log.Plan
import MqttConformance.Text.Lines

/-!
The logger: the one place that gets log records, their format and their filter. When the file that
was asked for cannot be written, the console takes its place, the format stays, and the first record
says so. A record that is passed on has reached its sink: there is no queue in front of a file.
-/

namespace MqttConformance.Log

/-- The place that gets the records. -/
inductive Sink where
  | console
  | file (at_ : Location)
  deriving DecidableEq, Repr

/-- What passes when nobody asks for a filter. -/
def Sink.defaultFilter : Sink → Filter
  | console => .atLeast .warn
  | file _ => .atLeast .info

/-- A sink with the format and the filter of its records. -/
structure Logger where
  sink : Sink
  useJson : Bool
  filter : Filter
  deriving DecidableEq, Repr

namespace Logger

/-- The name of a log file where the path has none. -/
def defaultFileName : String := "mqtt-compliance.log"

/-- The path of a log file; one that ends without a name gets the default name. -/
def namedPath (path : Path) : Path :=
  if path.fileName?.isSome then path else path.join (Path.ofText defaultFileName)

/-- The directory of a log file, unless its path is a name only. -/
def directory? (path : Path) : Option Path := path.parent?.filter (!·.bytes.isEmpty)

/-- The path of a log file as its writer puts it together: a name in a directory. -/
def writerPath (path : Path) : Path :=
  ((directory? path).getD ⟨Path.dot⟩).join ⟨path.fileName?.getD []⟩

/-- Makes the directories that lead to a log file. -/
def makeDirectory (files : FileSystem) (path : Path) : Option IoFault × FileSystem :=
  match directory? path with
  | some dir => files.createDirectories dir
  | none => (none, files)

/-- Makes an empty log file, together with the directories that lead to it, and opens it for its
writer, which always finds the file that has just been made. What has been made stays when something
fails. -/
def createFile (files : FileSystem) (path : Path) : Except IoFault Location × FileSystem :=
  let path := namedPath path
  match makeDirectory files path with
  | (some fault, files) => (.error fault, files)
  | (none, files) =>
    match files.create path with
    | .error fault => (.error fault, files)
    | .ok (_, files) =>
      match files.openEnd (writerPath path) with
      | .error fault => (.error fault, files)
      | .ok (at_, files) => (.ok at_, files)

/-- The file that a plan asks for. -/
def wantedFile? (plan : Plan) (stamp : Stamp) : Option Path :=
  match plan.destination with
  | .console => none
  | .file path => some path
  | .directory dir => some (fileIn dir plan.filePrefix stamp)

def fallbackEvent (path : Path) (fault : IoFault) : Event where
  level := .error
  source := .logging
  message := "Error logging to file " ++ Text.quotePath path.bytes ++ " (" ++ fault.message ++
    "); falling back to console logging."

def versionEvent (version : String) : Event := ⟨.info, .logging, version, []⟩

/-- What opening a logger leaves behind: the logger, the files, and the events that it starts with.
-/
structure Opened where
  logger : Logger
  files : FileSystem
  events : List Event
  deriving Repr

/-- Opens the logger of a plan. A user's filter takes the place of the default one. -/
def ofPlan (plan : Plan) (filter : Option Filter) (stamp : Stamp) (files : FileSystem) : Opened :=
  let logger (sink : Sink) : Logger := ⟨sink, plan.useJson, filter.getD sink.defaultFilter⟩
  match wantedFile? plan stamp with
  | none => ⟨logger .console, files, [versionEvent plan.version]⟩
  | some path =>
    match createFile files path with
    | (.ok at_, files) => ⟨logger (.file at_), files, [versionEvent plan.version]⟩
    | (.error fault, files) =>
      ⟨logger .console, files, [fallbackEvent path fault, versionEvent plan.version]⟩

/-- The filter that a variable holds, if it holds one. -/
def userFilter? (value : Option Bytes) : Option Filter :=
  (value.bind Utf8.decode?).bind Filter.ofText?

end Logger

/-- How a record is written. -/
inductive Layout where
  | json
  /-- Text over several lines, for the console. -/
  | spacious
  /-- Text on one line, for files. -/
  | line
  deriving DecidableEq, Repr

/-- A record: an event as it is written. -/
structure Record where
  layout : Layout
  event : Event
  deriving DecidableEq, Repr

namespace Record

/-- A character of a message in a text record: controls that steer a terminal are escaped. -/
def escapeControl (c : Char) : List Char :=
  let n := c.toNat
  if n = 0x1b ∨ n = 0x07 ∨ n = 0x08 ∨ n = 0x0c ∨ n = 0x7f then
    ['\\', 'x', Nat.digitChar (n / 16), Nat.digitChar (n % 16)]
  else if 0x80 ≤ n ∧ n ≤ 0x9f then ['\\', 'u', '\x7b'] ++ Text.hexDigits n ++ ['\x7d']
  else [c]

/-- The value of a field in a text record. -/
def valueText : FieldValue → String
  | .text s => s
  | .name s => Text.quote s
  | .number n => toString n

/-- The message and the fields of an event in a text record. -/
def text (layout : Layout) (event : Event) : String :=
  let field (name : String) (value : FieldValue) : String :=
    match layout with
    | .line => " " ++ name ++ "=" ++ valueText value
    | _ => ", " ++ name ++ ": " ++ valueText value
  String.ofList (event.message.toList.flatMap escapeControl) ++
    String.join (event.fields.map fun (name, value) => field name value)

/-- The lines of a record's text. -/
def lines (r : Record) : List String := Text.lines (text r.layout r.event)

/-- The value of a field in a JSON record. -/
def valueJson : FieldValue → Json
  | .text s | .name s => .string s
  | .number n => .number (.natural n)

/-- The event of a JSON record. -/
def json (event : Event) : Json :=
  let fields := ("message", Json.string event.message) ::
    event.fields.map fun (name, value) => (name, valueJson value)
  .ofMembers [("level", .string event.level.name), ("fields", .ofMembers fields)]

/-- The record as the sink gets it, without its time. -/
def render (r : Record) : String :=
  match r.layout with
  | .json => (json r.event).render ++ "\n"
  | layout => r.event.level.name ++ " " ++ text layout r.event ++ "\n"

end Record

namespace Logger

def layout (l : Logger) : Layout :=
  if l.useJson then .json
  else
    match l.sink with
    | .console => .spacious
    | .file _ => .line

/-- The records of some events. -/
def records (l : Logger) (events : List Event) : List Record :=
  (events.filter l.filter.passes).map (Record.mk l.layout)

/-- The records of some events that a sink gets. -/
def recordsAt (l : Logger) (sink : Sink) (events : List Event) : List Record :=
  if l.sink = sink then l.records events else []

end Logger

end MqttConformance.Log
