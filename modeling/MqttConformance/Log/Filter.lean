import MqttConformance.Decimal.Unsigned
import MqttConformance.Log.Event
import MqttConformance.Text.Blank

/-!
Filters of log events. A filter is a list of rules, each a level for the components whose target
starts with a given text; the longest such text decides. A rule is written as a level, as a target,
or as a target and a level with an equals sign between them, and rules are separated by commas.
-/

namespace MqttConformance.Log

/-- The least serious level that passes, or none where nothing passes. -/
abbrev Threshold := Option Level

def Threshold.passes (t : Threshold) (level : Level) : Bool :=
  t.any fun most => level.rank ≤ most.rank

namespace Threshold

/-- The threshold of a rank from zero to five. -/
def ofRank? : Nat → Option Threshold
  | 0 => some none
  | 1 => some (some .error)
  | 2 => some (some .warn)
  | 3 => some (some .info)
  | 4 => some (some .debug)
  | 5 => some (some .trace)
  | _ => none

/-- The threshold of a name, in any case. -/
def ofName? (name : String) : Option Threshold :=
  match Text.lowerAscii name with
  | "off" => some none
  | "error" => some (some .error)
  | "warn" => some (some .warn)
  | "info" => some (some .info)
  | "debug" => some (some .debug)
  | "trace" => some (some .trace)
  | _ => none

/-- The threshold that a text denotes, by rank or by name. -/
def ofText? (s : String) : Option Threshold :=
  ((Decimal.ofText? UInt64.size s).bind ofRank?).or (ofName? s)

end Threshold

/-- A rule: which events it is about, and which of them pass. A rule about a span of time is about
no single event. -/
structure Rule where
  target : Option String := none
  fields : List String := []
  inSpan : Bool := false
  threshold : Threshold := some .trace
  deriving DecidableEq, Repr

namespace Rule

def isTargetStart (c : Char) : Bool :=
  c == '-' || c == ':' || c == '_' || c.isAlphanum || 0x80 ≤ c.toNat

/-- The rule with the threshold that a text denotes; no text lets everything pass. -/
def withThreshold? (rule : Rule) (text : List Char) : Option Rule :=
  if text.isEmpty then some rule
  else (Threshold.ofText? (String.ofList text)).map fun t => { rule with threshold := t }

/-- The rest of a rule after its span. -/
def afterSpan? (rule : Rule) : List Char → Option Rule
  | [] => some rule
  | '=' :: text => rule.withThreshold? text
  | _ => none

/-- The rest of a rule after the opening bracket of its span. Fields without values are looked for
in events. -/
def readSpan? (rule : Rule) (cs : List Char) : Option Rule :=
  let name := cs.takeWhile fun c => c != ']' && c != '\x7b'
  match cs.dropWhile fun c => c != ']' && c != '\x7b' with
  | ']' :: rest => { rule with inSpan := true }.afterSpan? rest
  | '\x7b' :: rest =>
    let field := rest.takeWhile (· != '\x7d')
    match rest.dropWhile (· != '\x7d') with
    | '\x7d' :: ']' :: rest =>
      if field.isEmpty then none
      else
        { rule with
          fields := [String.ofList field]
          inSpan := !name.isEmpty || field.contains '=' }.afterSpan? rest
    | _ => none
  | _ => none

/-- The rule that a text denotes. Its parts are found in the text without the blanks around it, but
cut from the text as it is. -/
def ofText? (s : String) : Option Rule :=
  let isEnd (c : Char) : Bool := c == '=' || c == '['
  match Text.trimChars s.toList with
  | [] => none
  | '[' :: rest => readSpan? {} rest
  | c :: cs =>
    if !isTargetStart c then none
    else
      let length := 1 + (cs.takeWhile (!isEnd ·)).length
      let target := String.ofList (s.toList.take length)
      match cs.dropWhile (!isEnd ·) with
      | '=' :: _ => { target := some target : Rule }.withThreshold? (s.toList.drop (length + 1))
      | '[' :: rest => readSpan? { target := some target } rest
      | _ =>
        match Threshold.ofText? s with
        | some threshold => some { threshold := threshold }
        | none => some { target := some s }

/-- Whether the rule is about an event. -/
def covers (rule : Rule) (event : Event) : Bool :=
  !rule.inSpan &&
    (match rule.target with
      | some target => target.toList.isPrefixOf event.source.target.toList
      | none => true) &&
    rule.fields.all fun name => name == "message" || event.fields.any (·.1 == name)

/-- How closely a rule describes its events: the length of its target counts first. -/
def weight (rule : Rule) : Nat × Nat :=
  ((rule.target.map fun t => t.utf8ByteSize + 1).getD 0, rule.fields.length)

/-- Whether a later rule takes the place of an earlier one. -/
def yieldsTo (earlier later : Rule) : Bool :=
  earlier.weight.1 < later.weight.1 ||
    (earlier.weight.1 == later.weight.1 && earlier.weight.2 ≤ later.weight.2)

end Rule

/-- Rules in the order in which they are written. -/
structure Filter where
  rules : List Rule
  deriving DecidableEq, Repr

namespace Filter

/-- The filter that lets pass what is at least so serious. -/
def atLeast (level : Level) : Filter := ⟨[{ threshold := some level }]⟩

/-- The filter that a text denotes. No rule at all means errors only. -/
def ofText? (s : String) : Option Filter := do
  let texts := (s.splitOn ",").filter (· != "")
  let rules ← texts.mapM Rule.ofText?
  return if rules.isEmpty then atLeast .error else ⟨rules⟩

/-- The rule that decides about an event. -/
def decisive? (f : Filter) (event : Event) : Option Rule :=
  (f.rules.filter (·.covers event)).foldl
    (fun best rule =>
      match best with
      | some best => some (if best.yieldsTo rule then rule else best)
      | none => some rule) none

/-- Whether an event passes. -/
def passes (f : Filter) (event : Event) : Bool :=
  (f.decisive? event).any fun rule => rule.threshold.passes event.level

@[simp] theorem passes_atLeast (level : Level) (event : Event) :
    (atLeast level).passes event = decide (event.level.rank ≤ level.rank) := by
  simp [passes, decisive?, atLeast, Rule.covers, Threshold.passes]

end Filter

end MqttConformance.Log
