import MqttConformance.Duration.Basic
import MqttConformance.Decimal.Unsigned

/-!
Durations as people write them: `30s`, `1h30m`, `1m+30`, `2*3`. An expression is a sum or a product
of amounts, never a mixture; amounts of a sum may also stand side by side, in which case every one
that another follows needs its unit. An amount without a unit counts seconds. Every amount and every
intermediate result has to fit 64 bits of nanoseconds.
-/

namespace MqttConformance.Duration

/-- A unit of time. -/
inductive TimeUnit where
  | year | month | week | day | hour | minute | second | millisecond | microsecond | nanosecond
  deriving DecidableEq, Repr

namespace TimeUnit

/-- A year has 365 days and a month 30. -/
def nanos : TimeUnit → Nat
  | year => 365 * 86400 * 1000000000
  | month => 30 * 86400 * 1000000000
  | week => 7 * 86400 * 1000000000
  | day => 86400 * 1000000000
  | hour => 3600 * 1000000000
  | minute => 60 * 1000000000
  | second => 1000000000
  | millisecond => 1000000
  | microsecond => 1000
  | nanosecond => 1

/-- The unit with a name in lower case. -/
def ofName? : String → Option TimeUnit
  | "y" | "year" => some year
  | "mon" | "month" => some month
  | "w" | "week" => some week
  | "d" | "day" => some day
  | "h" | "hr" | "hour" => some hour
  | "m" | "min" | "minute" => some minute
  | "s" | "sec" | "second" => some second
  | "ms" | "msec" | "millisecond" => some millisecond
  | "µs" | "µsec" | "µsecond" | "us" | "usec" | "usecond" | "microsecond" => some microsecond
  | "ns" | "nsec" | "nanosecond" => some nanosecond
  | _ => none

end TimeUnit

/-- A number of units; without a unit it counts seconds. -/
structure Amount where
  count : Nat
  unit : Option TimeUnit
  deriving DecidableEq, Repr

/-- How an amount is joined to the one before it. -/
inductive Joint where
  | plus
  | times
  | adjacent
  deriving DecidableEq, Repr

/-- The characters that may stand around amounts and joints. -/
def isSpacing (c : Char) : Bool := c == ' ' || c == '\t' || c == '\r' || c == '\n'

def isUnitChar (c : Char) : Bool := c.isAlpha || c == 'µ'

/-- The 64-bit range that every amount and result is checked against. -/
def bound : Nat := UInt64.size

def checked (n : Nat) : Option Nat := if n < bound then some n else none

def Amount.nanos? (a : Amount) : Option Nat :=
  checked (a.count * (a.unit.getD .second).nanos)

/-- Reads an amount and returns what follows it. -/
def readAmount (cs : List Char) : Option (Amount × List Char) := do
  let digits := cs.takeWhile Char.isDigit
  if digits.isEmpty then none
  let count ← (Decimal.readBelow bound digits).toOption
  let rest := cs.dropWhile Char.isDigit
  let name := rest.takeWhile isUnitChar
  if name.isEmpty then return (⟨count, none⟩, rest)
  let unit ← TimeUnit.ofName? (String.ofList (name.map Char.toLower))
  return (⟨count, some unit⟩, rest.dropWhile isUnitChar)

/-- Reads the joint in front of the next amount. -/
def readJoint (cs : List Char) : Joint × List Char :=
  match cs.dropWhile isSpacing with
  | '+' :: rest => (.plus, rest.dropWhile isSpacing)
  | '*' :: rest => (.times, rest.dropWhile isSpacing)
  | rest => (.adjacent, rest)

/-- Reads the amounts after `last`, each with its joint. The fuel bounds their number; every amount
takes at least one character. -/
def readMore : Nat → Amount → List Char → Option (List (Joint × Amount))
  | 0, _, cs => if (cs.dropWhile isSpacing).isEmpty then some [] else none
  | fuel + 1, last, cs =>
    if (cs.dropWhile isSpacing).isEmpty then some []
    else do
      let (joint, rest) := readJoint cs
      if joint = .adjacent ∧ last.unit = none then none
      let (amount, rest) ← readAmount rest
      let more ← readMore fuel amount rest
      return (joint, amount) :: more

/-- An expression as its first amount and the joined ones. -/
def readExpression (cs : List Char) : Option (Amount × List (Joint × Amount)) := do
  let (first, rest) ← readAmount (cs.dropWhile isSpacing)
  let more ← readMore rest.length first rest
  return (first, more)

/-- The total of a sum. -/
def sum? (first : Nat) (more : List Nat) : Option Nat := do
  let rest ← more.foldlM (fun acc n => checked (acc + n)) 0
  checked (rest + first)

/-- A product of lengths counts each of them in seconds; what does not make a whole nanosecond is
cut off after every step. -/
def product? (first : Nat) (more : List Nat) : Option Nat := do
  let factor ← more.foldlM (fun acc n => checked (acc * n / nanosPerSecond)) nanosPerSecond
  checked (first * factor / nanosPerSecond)

/-- The length that an expression denotes. -/
def evaluate (first : Amount) (more : List (Joint × Amount)) : Option Nat := do
  let start ← first.nanos?
  let rest ← more.mapM fun (_, amount) => amount.nanos?
  if more.all fun (joint, _) => joint ≠ .times then sum? start rest
  else if more.all fun (joint, _) => joint = .times then product? start rest
  else none

/-- The length of time that a text denotes. -/
def ofText? (s : String) : Option Duration := do
  let (first, more) ← readExpression s.toList
  let nanos ← evaluate first more
  return ⟨nanos⟩

end MqttConformance.Duration
