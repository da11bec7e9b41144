import MqttConformance.Cli.Effective
import MqttConformance.Log.Logger
import MqttConformance.Run.Workflow

/-!
The program: a command line, carried out in its surroundings. A run says on its output how far it
has come; an error names the phase that failed and the causes below it.
-/

namespace MqttConformance.Cli

/-- A phase of a run. -/
inductive Phase where
  | configuration
  | submission (path : Path)
  | completion
  | download (run : Run.Identifier)
  deriving DecidableEq, Repr

/-- What an error in the phase says first. -/
def Phase.message : Phase → String
  | configuration => "invalid service configuration"
  | submission path => "submitting run configuration " ++ Text.quotePath path.bytes
  | completion => "waiting for the run to complete"
  | download run => "downloading results of run " ++ run.text

/-- A phase and the error that ended it. -/
structure Failure where
  phase : Phase
  error : ClientError
  deriving DecidableEq, Repr

namespace Failure

/-- A text of several lines behind a mark; the lines after the first are indented by `indent`. -/
def indented (mark : String) (indent : Nat) (text : String) : List String :=
  match Text.lines text with
  | [] => []
  | first :: rest =>
    (mark ++ first) :: rest.map fun line => String.ofList (List.replicate indent ' ') ++ line

/-- The causes with their numbers, which a single cause has none of. -/
def causeLines : List String → List String
  | [cause] => indented "    " 4 cause
  | causes =>
    (causes.zipIdx.map fun (cause, n) =>
      let number := toString n
      let mark := String.ofList (List.replicate (5 - number.length) ' ') ++ number ++ ": "
      indented mark 7 cause).flatten

/-- The error as the program reports it. -/
def lines (f : Failure) : List String :=
  ["Error: " ++ f.phase.message, "", "Caused by:"] ++ causeLines (f.error.message :: f.error.causes)

end Failure

/-- Something the program does. -/
abbrev Task (α : Type) : Type := Effect Failure α

/-- An activity as a phase of the program. -/
def during (phase : Phase) (a : Activity α) : Task α := a.mapError (Failure.mk phase)

/-- Prints a line. -/
def say (line : String) : Task Unit := Effect.act (.print line)

def completedEvent (run : Run.Identifier) (wait : Run.WaitOutcome) : Log.Event :=
  ⟨.info, .program, "Run complete",
    [("run_id", .text run.text), ("messages", .number wait.messagesReceived),
      ("reason", .text wait.reason.label)]⟩

/-- What is said when the archive has been saved. -/
def savedLine (d : Run.DownloadSummary) : String :=
  "Saved " ++ toString d.bytesWritten ++ " bytes to " ++ d.path.toTextLossy ++ " (HTTP " ++
    toString d.status.code ++ ")"

/-- A run for a configuration. -/
def runTask (c : Config.Client) : Task Unit := do
  let runner ← during .configuration (Run.Runner.build c)
  let submission ← during (.submission c.run.configPath) (runner.submit c.run.configPath)
  say submission.response
  say ("Run identifier: " ++ submission.id.text)
  let wait ← during .completion runner.wait
  Effect.report (completedEvent submission.id wait)
  say "Downloading"
  let download ← during (.download submission.id) (runner.download submission.id)
  say (savedLine download)

/-- What has become of the program: its exit code, unless it still waits, its output, what it wrote
to the error stream after the log records, and its logger, if it has one, with its surroundings. -/
structure Ended where
  exitCode : Option Nat
  output : String
  errorLines : List String
  logger : Option Log.Logger
  world : World

namespace Ended

/-- The records that the console got. -/
def consoleRecords (e : Ended) : List Log.Record :=
  match e.logger with
  | some logger => logger.recordsAt .console e.world.log
  | none => []

end Ended

/-- What an action puts on the output. -/
def outputOf : Action → Option String
  | .print line => some (line ++ "\n")
  | .observe message => some ("< " ++ message ++ "\n")
  | _ => none

/-- The output of some actions. -/
def output (trace : List Action) : String := String.join (trace.filterMap outputOf)

/-- The version line of the log. -/
def versionText : String := programName ++ " " ++ version

/-- Carries out a run, of which the log is opened first. -/
def carryOutRun (c : Config.Client) (filter : Option Log.Filter) (stamp : Log.Stamp)
    (services : Services) (files : FileSystem) : Ended :=
  let plan := Log.Plan.ofConfig files versionText c.log
  let opened := Log.Logger.ofPlan plan filter stamp files
  let (outcome, world) := (runTask c).run services { files := opened.files, log := opened.events }
  let ended (code : Option Nat) (lines : List String) : Ended :=
    ⟨code, output world.trace, lines, some opened.logger, world⟩
  match outcome with
  | .done () => ended (some 0) []
  | .failed failure => ended (some 1) failure.lines
  | .blocked => ended none []
  | .crashed message => ended (some 101) [message]

/-- The variable with the filter of the log. -/
def filterVariable : String := "RUST_LOG"

/-- Carries out a command line. -/
def carryOut (words : List Bytes) (env : Config.Environment) (stamp : Log.Stamp)
    (services : Services) (files : FileSystem) : Ended :=
  match Invocation.ofWords words with
  | .error stop =>
    if stop.isAnswer then ⟨some 0, stop.text, [], none, { files := files }⟩
    else ⟨some 2, "", stop.lines, none, { files := files }⟩
  | .ok i =>
    let c := i.effectiveConfig env
    match i.command with
    | .showConfig => ⟨some 0, c.render, [], none, { files := files }⟩
    | .run =>
      carryOutRun c (Log.Logger.userFilter? (env.value? filterVariable)) stamp services files

end MqttConformance.Cli
