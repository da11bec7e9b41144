import MqttConformance.Cli.Program

/-!
The program as it is started: the environment and the files that a command line speaks of are read,
the command line is carried out, and its output, its records and its new files are written. No
transport is linked in, so every service is out of reach.
-/

open MqttConformance

/-- The environment, as far as the program depends on it. -/
def readEnvironment : IO Config.Environment := do
  (Cli.filterVariable :: Config.Client.variableNames).foldlM (fun env name => do
    match ← IO.getEnv name with
    | some value => return env.set name (Utf8.encode value)
    | none => return env) .empty

/-- A tree with what is found at a path. -/
def readInto (files : FileSystem) (path : Path) : IO FileSystem := do
  try
    let content ← IO.FS.readBinFile path.toTextLossy
    return files.withFile path content.toList
  catch
    | .inappropriateType .. | .illegalOperation .. => return files.withDirectory path
    | _ => return files

/-- The paths that a command line speaks of. -/
def pathsOf (words : List Bytes) (env : Config.Environment) : List Path :=
  match Cli.Invocation.ofWords words with
  | .error _ => []
  | .ok i =>
    let c := i.effectiveConfig env
    match i.command with
    | .showConfig => []
    | .run => c.run.configPath :: (c.log.dest.map fun d => Path.ofText (Text.trim d)).toList

/-- What a new file holds: the records, if it is the log. -/
def contentOf (ended : Cli.Ended) (at_ : Location) (content : Bytes) : Bytes :=
  match ended.logger with
  | some logger =>
    if logger.sink = .file at_ then
      Utf8.encode
        (String.join ((logger.recordsAt (.file at_) ended.world.log).map Log.Record.render))
    else content
  | none => content

/-- Writes the files that are new or have changed. -/
def writeFiles (before : FileSystem) (ended : Cli.Ended) : IO Unit := do
  for (at_, node) in ended.world.files.nodes.reverse do
    let path :=
      if before.workDir.isPrefixOf at_ then Path.ofParts false (at_.drop before.workDir.length)
      else Path.ofParts true at_
    if before.node? at_ ≠ some node || ended.logger.any (·.sink == .file at_) then
      match node with
      | .directory => IO.FS.createDirAll path.toTextLossy
      | .file content =>
        IO.FS.writeBinFile path.toTextLossy (ByteArray.mk (contentOf ended at_ content).toArray)

def main (args : List String) : IO UInt32 := do
  let words := args.map Utf8.encode
  let env ← readEnvironment
  let files ← (pathsOf words env).foldlM readInto (FileSystem.empty [Utf8.encode "here"])
  let stamp : Log.Stamp := ⟨toString (← IO.monoMsNow), toString (← IO.rand 1 99999)⟩
  let ended := Cli.carryOut words env stamp .unreachable files
  (← IO.getStdout).putStr ended.output
  let err ← IO.getStderr
  for record in ended.consoleRecords do
    err.putStr record.render
  for line in ended.errorLines do
    err.putStrLn line
  writeFiles files ended
  return (ended.exitCode.getD 0).toUInt32
