import MqttConformance.Decimal.Binary64

/-!
The shortest decimal of a magnitude: the fewest digits that read back as it, and of those the
nearest. For every count of digits the two neighbours of the value on that decimal grid are tested
against the interval of reals that round to the magnitude; its ends belong to it when the mantissa
is even.
-/

namespace MqttConformance.Decimal

/-- Decimal digits without a zero at the end, to be read as `0.digits · 10 ^ point`. -/
structure Digits where
  digits : Nat
  count : Nat
  point : Int
  deriving DecidableEq, Repr

/-- The interval that rounds to a magnitude, in fourths of its last place: the value is `4 ·
mantissa`. -/
structure Interval where
  low : Nat
  value : Nat
  high : Nat
  closed : Bool

def interval (x : Magnitude) : Interval where
  low := if x.mantissa = Nat.pow 2 52 ∧ Magnitude.minExponent < x.exponent then 4 * x.mantissa - 1
    else 4 * x.mantissa - 2
  value := 4 * x.mantissa
  high := 4 * x.mantissa + 2
  closed := x.mantissa % 2 = 0

/-- Whether a multiple of `unit` (a quotient) lies in the interval of `x`, whose fourths of the last
place are the quotient `place`. -/
def reads (i : Interval) (place unit : Nat × Nat) (n : Nat) : Bool :=
  let left := n * unit.1 * place.2
  let low := i.low * place.1 * unit.2
  let high := i.high * place.1 * unit.2
  if i.closed then low ≤ left && left ≤ high else low < left && left < high

/-- `10 ^ e` as a quotient. -/
def tenPowRatio (e : Int) : Nat × Nat :=
  if 0 ≤ e then (Nat.pow 10 e.toNat, 1) else (1, Nat.pow 10 (-e).toNat)

/-- The number of digits in front of the point of a quotient; not positive below a tenth. -/
def pointOf (num den : Nat) : Int :=
  let guess : Int := ((Nat.log2 num : Int) - Nat.log2 den) * 30103 / 100000 - 1
  let atLeast (e : Int) : Bool :=
    let (p, q) := tenPowRatio e
    p * den ≤ num * q
  if !atLeast guess then guess
  else if !atLeast (guess + 1) then guess + 1
  else if !atLeast (guess + 2) then guess + 2
  else guess + 3

/-- A neighbour on the grid of `count` digits that reads back, the nearer of two. -/
def onGrid? (i : Interval) (place : Nat × Nat) (point : Int) (count : Nat) : Option Nat :=
  let unit := tenPowRatio (point - count)
  let num := i.value * place.1 * unit.2
  let den := place.2 * unit.1
  let below := num / den
  let twice := 2 * (num % den)
  let near := if twice < den ∨ (twice = den ∧ below % 2 = 0) then below else below + 1
  let far := if near = below then below + 1 else below
  if reads i place unit near then some near
  else if reads i place unit far then some far
  else none

/-- Tries one count of digits after another. -/
def search (i : Interval) (place : Nat × Nat) (point : Int) (count : Nat) : Nat → Nat × Nat
  | 0 => ((onGrid? i place point count).getD 0, count)
  | fuel + 1 =>
    match onGrid? i place point count with
    | some n => (n, count)
    | none => search i place point (count + 1) fuel

/-- The shortest decimal of a magnitude other than zero. -/
def shortest (x : Magnitude) : Digits :=
  let (num, den) := x.ratio
  let point := pointOf num den
  let place : Nat × Nat :=
    if 2 ≤ x.exponent then (Nat.pow 2 (x.exponent - 2).toNat, 1)
    else (1, Nat.pow 2 (2 - x.exponent).toNat)
  let (n, count) := search (interval x) place point 1 16
  if n = Nat.pow 10 count then ⟨1, 1, point + 1⟩ else ⟨n, count, point⟩

end MqttConformance.Decimal
