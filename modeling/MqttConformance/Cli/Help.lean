import MqttConformance.Cli.Option

/-!
Help pages. Descriptions stand beside the options as long as those are narrow, and below them
otherwise; the long page of the program has a blank line between options.
-/

namespace MqttConformance.Cli

/-- How long a page is. -/
inductive PageLength where
  | short
  | long
  deriving DecidableEq, Repr

/-- Where the descriptions of options stand. -/
inductive Arrangement where
  | beside
  | below
  | spaced
  deriving DecidableEq, Repr

namespace Scope

/-- The line that opens a page. -/
def about : Scope → String
  | program => "Runs MQTT broker conformance tests on a remote conformance service."
  | command c => c.about
  | help => "Print this message or the help of the given subcommand(s)"

/-- What a long page says after the first line. -/
def moreAbout : Scope → List String
  | program => [
    "",
    "A run has three steps: the run configuration is posted to the service, which returns a run",
    "identifier; the notification channel is watched until the service reports the run complete;",
    "and the result archive is downloaded to \"result_<identifier>.zip\".",
    "",
    "Every option can also be set through environment variables named",
    "MQTT_COMPLIANCE_<GROUP>_<FIELD>, e.g. MQTT_COMPLIANCE_ENDPOINTS_BASE_URL. Flags take " ++
      "precedence."]
  | command _ | help => []

/-- Whether there is a long page of its own. -/
def hasLongPage (s : Scope) : Bool := !s.moreAbout.isEmpty

/-- The description of an option on a page. -/
def optionAbout (s : Scope) (length : PageLength) (o : Opt) : String :=
  if o = .help ∧ s.hasLongPage then
    match length with
    | .short => o.about ++ " (see more with '--help')"
    | .long => o.about ++ " (see a summary with '-h')"
  else o.about

end Scope

/-- An option as a page lists it. -/
def Opt.listed (o : Opt) : String :=
  (match o.short? with
    | some c => "  -" ++ c.toString ++ ", "
    | none => "      ") ++ o.shown

/-- A text filled up with blanks. -/
def padded (width : Nat) (s : String) : String :=
  s ++ String.ofList (List.replicate (width - s.length) ' ')

/-- The width of the widest of some texts. -/
def widest (texts : List String) : Nat := (texts.map String.length).foldl max 0

/-- The width of a page, and how far its options may reach before the descriptions move below them.
-/
def pageWidth : Nat := 100

def optionWidth : Nat := pageWidth * 2 / 5

namespace Scope

def arrangement (s : Scope) (length : PageLength) : Arrangement :=
  if s.hasLongPage ∧ length = .long then .spaced
  else if widest (s.options.map Opt.listed) ≤ optionWidth then .beside
  else .below

/-- The lines of an option. -/
def optionLines (s : Scope) (length : PageLength) (width : Nat) (o : Opt) : List String :=
  let about := s.optionAbout length o
  match s.arrangement length with
  | .beside => [padded width o.listed ++ "  " ++ about]
  | .below => [o.listed, "          " ++ about]
  | .spaced => [o.listed, "          " ++ about]

/-- The list of the options. -/
def optionList (s : Scope) (length : PageLength) : List String :=
  let width := widest (s.options.map Opt.listed)
  let blocks := s.options.map (s.optionLines length width)
  match s.arrangement length with
  | .spaced => (blocks.intersperse [""]).flatten
  | _ => blocks.flatten

/-- The list of the commands. -/
def commandList (s : Scope) : List String :=
  let width := widest (s.commands.map name)
  s.commands.map fun c => "  " ++ padded width c.name ++ "  " ++ c.about

/-- The sections of a page after its usage, each behind a blank line. -/
def sections (s : Scope) (length : PageLength) : List String :=
  match s with
  | .program => ["", "Commands:"] ++ s.commandList ++ ["", "Options:"] ++ s.optionList length
  | .command _ => ["", "Options:"] ++ s.optionList length
  | .help => ["", "Arguments:", "  [COMMAND]...  Print help for the subcommand(s)"]

/-- A help page. -/
def page (s : Scope) (length : PageLength) : String :=
  let more := match length with
    | .short => []
    | .long => s.moreAbout
  let lines := [s.about] ++ more ++ ["", "Usage: " ++ s.usage] ++ s.sections length
  String.join (lines.map (· ++ "\n"))

/-- The line that names the version. -/
def versionLine (s : Scope) : String := "-".intercalate s.words ++ " " ++ version ++ "\n"

end Scope

end MqttConformance.Cli
