import MqttConformance.Decimal.Unsigned
import MqttConformance.Duration.Expression
import MqttConformance.Log.Event
import MqttConformance.Path
import MqttConformance.Text.Blank
import MqttConformance.Text.Quoted

/-!
Types of settings: how a user writes a value, how messages show it, and which value wins when the
user's text is missing or unreadable.
-/

namespace MqttConformance.Config

/-- How a value is shown: a plain text, or a value wrapped as present. -/
inductive Shown where
  | plain (text : String)
  | present (inner : Shown)
  deriving DecidableEq, Repr

namespace Shown

/-- On one line. -/
def inline : Shown → String
  | plain text => text
  | present inner => "Some(" ++ inner.inline ++ ")"

/-- Over several lines, each wrapping one step of four blanks further in. -/
def block (indent : String) : Shown → String
  | plain text => text
  | present inner =>
    "Some(\n" ++ indent ++ "    " ++ inner.block (indent ++ "    ") ++ ",\n" ++ indent ++ ")"

end Shown

/-- A type of settings. -/
class Setting (α : Type) where
  /-- The value that a user's text denotes. -/
  ofText? : String → Option α
  /-- How messages show a value. -/
  shown : α → Shown

namespace Setting

/-- The spellings of a switch, once trimmed and in lower case. -/
def switch? : String → Option Bool
  | "1" | "true" | "yes" | "y" | "on" => some true
  | "0" | "false" | "no" | "n" | "off" => some false
  | _ => none

instance : Setting Bool where
  ofText? s := switch? (Text.lowerAscii (Text.trim s))
  shown b := .plain (if b then "true" else "false")

instance : Setting UInt16 where
  ofText? s := (Decimal.ofText? UInt16.size s).map UInt16.ofNat
  shown n := .plain (toString n.toNat)

instance : Setting UInt32 where
  ofText? s := (Decimal.ofText? UInt32.size s).map UInt32.ofNat
  shown n := .plain (toString n.toNat)

instance : Setting UInt64 where
  ofText? s := (Decimal.ofText? UInt64.size s).map UInt64.ofNat
  shown n := .plain (toString n.toNat)

instance : Setting String where
  ofText? := some
  shown s := .plain (Text.quote s)

instance : Setting Path where
  ofText? s := some (Path.ofText s)
  shown p := .plain (Text.quotePath p.bytes)

instance : Setting Duration where
  ofText? := Duration.ofText?
  shown d := .plain d.render

/-- An optional setting reads as its value; there is no text for its absence. -/
instance {α : Type} [Setting α] : Setting (Option α) where
  ofText? s := (ofText? s).map some
  shown
    | none => .plain "None"
    | some a => .present (shown a)

/-- Where the value of a setting came from. -/
inductive Origin where
  | user
  | fallback
  | default
  deriving DecidableEq, Repr

def Origin.label : Origin → String
  | user => "user set"
  | fallback => "default due to parse error"
  | default => "default"

variable {α : Type} [Setting α]

/-- The message that a setting has its value. -/
def valueEvent (name : String) (value : α) (origin : Origin) : Log.Event where
  level := if origin = .default then .debug else .info
  source := .settings
  message := "Config: " ++ name ++ " = " ++ (shown value).inline ++ " (" ++ origin.label ++ ")"

/-- The message that a user's text was not understood. -/
def unreadableEvent (name text : String) : Log.Event where
  level := .warn
  source := .settings
  message := "Configuration value " ++ text ++ " for " ++ name ++
    " cannot be parsed into correct type; reverting to default."

/-- The value of a setting, given what the user wrote for it and what it is otherwise; with the
events that tell the choice. -/
def resolve (name : String) (given : Option String) (current : α) : α × List Log.Event :=
  match given with
  | none => (current, [valueEvent name current .default])
  | some text =>
    match ofText? text with
    | some value => (value, [valueEvent name value .user])
    | none => (current, [unreadableEvent name text, valueEvent name current .fallback])

/-- The chosen value alone. -/
def choose (given : Option String) (current : α) : α := (given.bind ofText?).getD current

theorem resolve_fst (name : String) (given : Option String) (current : α) :
    (resolve name given current).1 = choose given current := by
  cases given with
  | none => rfl
  | some text => simp only [resolve, choose, Option.bind_some]; split <;> simp_all

end Setting

end MqttConformance.Config
