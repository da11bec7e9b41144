import MqttConformance.Cli.Help
import MqttConformance.Text.Lines

/-!
Why a command line leads to no command: it asks for a page, or it is in error. An error is shown
with a hint where one can be given, with the usage, and with the way to the help page.
-/

namespace MqttConformance.Cli

/-- What a user may have meant. -/
inductive Hint where
  /-- Commands with similar names. -/
  | commands (names : List String)
  /-- An option with a similar name. -/
  | option (name : String)
  /-- An option of a command that follows. -/
  | optionOf (command name : String)
  /-- A command that the two dashes have turned into a plain word. -/
  | withoutDashes (command : String)
  deriving DecidableEq, Repr

/-- Why a command line leads to no command. -/
inductive Stop where
  | helpPage (scope : Scope) (length : PageLength)
  | versionLine (scope : Scope)
  /-- There is nothing on the command line. -/
  | nothingGiven
  | noCommand
  | unknownCommand (scope : Scope) (word : String) (hint : Option Hint)
  | unknownArgument (scope : Scope) (word : String) (hint : Option Hint) (used : List Opt)
  | missingValue (scope : Scope) (option : Opt)
  | unneededValue (scope : Scope) (option : Opt) (value : String) (used : List Opt)
  | repeated (scope : Scope) (option : Opt)
  | invalidValue (scope : Scope) (option : Opt) (value reason : String)
  | notText (scope : Scope)
  deriving DecidableEq, Repr

namespace Hint

def message : Hint → String
  | commands [name] => "a similar subcommand exists: '" ++ name ++ "'"
  | commands names =>
    "some similar subcommands exist: " ++ ", ".intercalate (names.map fun n => "'" ++ n ++ "'")
  | option name => "a similar argument exists: '--" ++ name ++ "'"
  | optionOf command name => "'" ++ command ++ " --" ++ name ++ "' exists"
  | withoutDashes command =>
    "subcommand '" ++ command ++ "' exists; to use it, remove the '--' before it"

end Hint

namespace Stop

/-- What is wrong. -/
def complaint : Stop → String
  | helpPage .. | versionLine _ | nothingGiven => ""
  | noCommand =>
    "'" ++ programName ++ "' requires a subcommand but one was not provided\n  [subcommands: " ++
      ", ".intercalate (Scope.program.commands.map Scope.name) ++ "]"
  | unknownCommand _ word _ => "unrecognized subcommand '" ++ word ++ "'"
  | unknownArgument _ word _ _ => "unexpected argument '" ++ word ++ "' found"
  | missingValue _ option =>
    "a value is required for '" ++ option.shown ++ "' but none was supplied"
  | unneededValue _ option value _ =>
    "unexpected value '" ++ value ++ "' for '" ++ option.shown ++ "' found; no more were expected"
  | repeated _ option => "the argument '" ++ option.shown ++ "' cannot be used multiple times"
  | invalidValue _ option value reason =>
    "invalid value '" ++ value ++ "' for '" ++ option.shown ++ "': " ++ reason
  | notText _ => "invalid UTF-8 was detected in one or more arguments"

def hint? : Stop → Option Hint
  | unknownCommand _ _ hint => hint
  | unknownArgument _ _ hint _ => hint
  | _ => none

/-- Where the error is. -/
def scope : Stop → Scope
  | helpPage s _ | versionLine s | unknownCommand s _ _ | unknownArgument s _ _ _ | missingValue s _
  | unneededValue s _ _ _ | repeated s _ | invalidValue s _ _ _ | notText s => s
  | nothingGiven | noCommand => .program

/-- The usage that an error shows; an error of a value shows none. -/
def usage? : Stop → Option String
  | unknownArgument s _ _ used | unneededValue s _ _ used => some (s.usageWith used)
  | noCommand => some (Scope.program.usage)
  | unknownCommand s _ _ | repeated s _ | notText s => some s.usage
  | helpPage .. | versionLine _ | nothingGiven | missingValue .. | invalidValue .. => none

/-- The text of an error. -/
def errorText (stop : Stop) : String :=
  let tip := (stop.hint?.map fun h => "\n\n  tip: " ++ h.message).getD ""
  let usage := (stop.usage?.map fun u => "\n\nUsage: " ++ u).getD ""
  let help := if stop.scope.hasHelp then "\n\nFor more information, try '--help'." else ""
  "error: " ++ stop.complaint ++ tip ++ usage ++ help ++ "\n"

/-- The whole text. -/
def text : Stop → String
  | helpPage scope length => scope.page length
  | versionLine scope => scope.versionLine
  | nothingGiven => Scope.program.page .short
  | stop => stop.errorText

/-- The lines of the text, of which the last one is complete too. -/
def lines (stop : Stop) : List String := (Text.lines stop.text).dropLast

/-- Whether the user got what was asked for. -/
def isAnswer : Stop → Bool
  | helpPage .. | versionLine _ => true
  | _ => false

end Stop

end MqttConformance.Cli
