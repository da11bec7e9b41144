/-!
Log events: a level, the component that speaks, a message and named fields. Two fields are left out,
since no input settles them: the place in the program that a fault is logged from (`caller`), and the
time that a request has taken (`elapsed_ms`).
-/

namespace MqttConformance.Log

/-- How serious an event is. -/
inductive Level where
  | error | warn | info | debug | trace
  deriving DecidableEq, Repr

namespace Level

/-- The levels from the most serious one, counted from one. -/
def rank : Level → Nat
  | error => 1
  | warn => 2
  | info => 3
  | debug => 4
  | trace => 5

def name : Level → String
  | error => "ERROR"
  | warn => "WARN"
  | info => "INFO"
  | debug => "DEBUG"
  | trace => "TRACE"

end Level

/-- The component that logs an event; filters choose components by `Source.target`. -/
inductive Source where
  | settings
  | logging
  | http
  | submission
  | completion
  | download
  | workflow
  | faults
  | program
  | other (target : String)
  deriving DecidableEq, Repr

/-- The dotted path by which a filter names the component. -/
def Source.target : Source → String
  | settings => "compliance_config::config_value"
  | logging => "compliance_logging::logging"
  | http => "compliance_client::http_client"
  | submission => "compliance_client::submitter"
  | completion => "compliance_client::waiter"
  | download => "compliance_client::downloader"
  | workflow => "compliance_client::runner"
  | faults => "error_printer"
  | program => "compliance_cli::app"
  | other target => target

/-- The value of a field. A name differs from other texts only in that text records quote it. -/
inductive FieldValue where
  | text (s : String)
  | name (s : String)
  | number (n : Nat)
  deriving DecidableEq, Repr

/-- One thing that was logged. -/
structure Event where
  level : Level
  source : Source
  message : String
  fields : List (String × FieldValue) := []
  deriving DecidableEq, Repr

end MqttConformance.Log
