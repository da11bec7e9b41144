import MqttConformance.Config.Client
import MqttConformance.FileSystem

/-!
Where log records are to go and how they are to look, as the settings ask for it. A destination that
ends with a slash or names a directory is a directory, in which every process has a file of its own.
Without a word on the format, a file gets JSON and the console gets text.
-/

namespace MqttConformance.Log

/-- Where records are to go. -/
inductive Destination where
  | console
  | file (path : Path)
  | directory (path : Path)
  deriving DecidableEq, Repr

/-- What the settings ask for, and the line that names the program. -/
structure Plan where
  destination : Destination
  useJson : Bool
  filePrefix : String
  version : String
  deriving DecidableEq, Repr

namespace Destination

/-- The destination that a text names. -/
def ofText (files : FileSystem) (text : String) : Destination :=
  let text := Text.trim text
  let path := Path.ofText text
  let last := text.toList.getLast?
  if text.isEmpty then console
  else if last == some '/' || last == some '\\' || files.isDirectory path then directory path
  else file path

/-- The destination of the settings; without one it is the console. -/
def ofSetting (files : FileSystem) : Option String → Destination
  | none => console
  | some text => ofText files text

end Destination

namespace Plan

/-- Whether the text of the format asks for JSON. -/
def asksForJson (format : String) : Bool := Text.trim (Text.lowerAscii format) == "json"

def ofConfig (files : FileSystem) (version : String) (config : Config.Logging) : Plan :=
  let destination := Destination.ofSetting files config.dest
  { destination := destination
    useJson := (config.format.map asksForJson).getD (destination != .console)
    filePrefix := config.filePrefix
    version := version }

end Plan

/-- What makes the name of a log file unique: the time of its creation and the process. Both come
from outside. -/
structure Stamp where
  time : String
  process : String
  deriving DecidableEq, Repr

/-- The name of a log file. -/
def fileName (filePrefix : String) (stamp : Stamp) : String :=
  filePrefix ++ "_" ++ stamp.time ++ "_" ++ stamp.process ++ ".log"

/-- A log file in a directory. -/
def fileIn (dir : Path) (filePrefix : String) (stamp : Stamp) : Path :=
  dir.join (Path.ofText (fileName filePrefix stamp))

end MqttConformance.Log
