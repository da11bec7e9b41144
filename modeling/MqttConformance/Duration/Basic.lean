/-!
Lengths of time in whole nanoseconds, and the short form in which messages show them: the largest of
the units second, millisecond, microsecond and nanosecond that does not exceed the length, with as
many decimals as it takes.
-/

namespace MqttConformance

/-- A length of time. -/
structure Duration where
  nanos : Nat
  deriving DecidableEq, Repr

namespace Duration

def nanosPerSecond : Nat := 1000000000

def ofSeconds (n : Nat) : Duration := ⟨n * nanosPerSecond⟩

/-- A fraction of `10 ^ places` as decimals, without the zeros at the end. -/
def decimals (places fraction : Nat) : List Char :=
  let digits := Nat.toDigits 10 fraction
  let padded := List.replicate (places - digits.length) '0' ++ digits
  (padded.reverse.dropWhile (· == '0')).reverse

/-- A length in units of `10 ^ places` nanoseconds. -/
def inUnits (nanos places : Nat) : String :=
  let fraction := nanos % Nat.pow 10 places
  let whole := toString (nanos / Nat.pow 10 places)
  if fraction = 0 then whole else whole ++ "." ++ String.ofList (decimals places fraction)

/-- The length in its largest fitting unit. -/
def render (d : Duration) : String :=
  if d.nanos ≥ 1000000000 then inUnits d.nanos 9 ++ "s"
  else if d.nanos ≥ 1000000 then inUnits d.nanos 6 ++ "ms"
  else if d.nanos ≥ 1000 then inUnits d.nanos 3 ++ "µs"
  else toString d.nanos ++ "ns"

end Duration

end MqttConformance
