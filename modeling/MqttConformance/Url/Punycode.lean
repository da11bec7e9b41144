/-!
Punycode: a label of any characters written with letters, digits and hyphens. The basic characters
come first; after the last hyphen, each further character is a step over pairs of a code point and a
position, written as a variable-length number in base 36 whose digit thresholds follow an adapting
bias.
-/

namespace MqttConformance.Url.Punycode

def digitChar (d : Nat) : Char := Char.ofNat (if d < 26 then 0x61 + d else 0x30 + (d - 26))

def digitValue? (c : Char) : Option Nat :=
  if 'a' ≤ c ∧ c ≤ 'z' then some (c.toNat - 0x61)
  else if 'A' ≤ c ∧ c ≤ 'Z' then some (c.toNat - 0x41)
  else if '0' ≤ c ∧ c ≤ '9' then some (c.toNat - 0x30 + 26)
  else none

/-- The threshold of the digit at position `k`, which counts in steps of 36. -/
def threshold (k bias : Nat) : Nat := if k ≤ bias then 1 else min 26 (k - bias)

theorem one_le_threshold (k bias : Nat) : 1 ≤ threshold k bias := by
  unfold threshold; split <;> omega

/-- Halves of the bias search: divides by 35 while the step is large. -/
def settle (delta k : Nat) : Nat × Nat :=
  if h : 455 < delta then settle (delta / 35) (k + 36) else (delta, k)
termination_by delta
decreasing_by exact Nat.div_lt_self (by omega) (by omega)

/-- The bias after a step of size `delta` that made the label `count` characters long. -/
def adapt (delta count : Nat) (isFirst : Bool) : Nat :=
  let delta := if isFirst then delta / 700 else delta / 2
  let (delta, k) := settle (delta + delta / count) 0
  k + 36 * delta / (delta + 38)

/-- A number in digits whose thresholds follow the bias. -/
def encodeNumber (bias k q : Nat) : List Char :=
  let t := threshold k bias
  if q < t then [digitChar q]
  else digitChar (t + (q - t) % (36 - t)) :: encodeNumber bias (k + 36) ((q - t) / (36 - t))
termination_by q
decreasing_by
  have h₁ := one_le_threshold k bias
  have h₂ : (q - threshold k bias) / (36 - threshold k bias) ≤ q - threshold k bias :=
    Nat.div_le_self _ _
  omega

/-- The state of the encoder between characters. -/
structure Progress where
  out : List Char
  delta : Nat
  bias : Nat
  count : Nat

/-- One character of the label while code point `n` is being placed. -/
def place (basic n : Nat) (p : Progress) (c : Char) : Progress :=
  if c.toNat < n then { p with delta := p.delta + 1 }
  else if c.toNat = n then
    { out := p.out ++ encodeNumber p.bias 36 p.delta, delta := 0,
      bias := adapt p.delta (p.count + 1) (p.count == basic), count := p.count + 1 }
  else p

/-- Places the code points of a list in ascending order. -/
def placeAll (label : List Char) (basic : Nat) : List Nat → Nat → Progress → Progress
  | [], _, p => p
  | n :: ns, start, p =>
    let p := label.foldl (place basic n) { p with delta := p.delta + (n - start) * (p.count + 1) }
    placeAll label basic ns (n + 1) { p with delta := p.delta + 1 }

/-- The written form of a label, without the marker in front. -/
def encode (label : List Char) : List Char :=
  let basic := label.filter (·.toNat < 0x80)
  let others := ((label.filter (0x80 ≤ ·.toNat)).map Char.toNat).eraseDups.mergeSort
  let lead := if basic.isEmpty then [] else basic ++ ['-']
  lead ++ (placeAll label basic.length others 128 ⟨[], 0, 72, basic.length⟩).out

/-- The largest number of the written form. -/
def bound : Nat := UInt32.size

/-- Reads one number onto `i`. -/
def decodeNumber (bias : Nat) : Nat → Nat → Nat → List Char → Option (Nat × List Char)
  | _, _, _, [] => none
  | k, weight, i, c :: cs =>
    match digitValue? c with
    | none => none
    | some d =>
      let i := i + d * weight
      let t := threshold k bias
      if bound ≤ i then none
      else if d < t then some (i, cs)
      else if bound ≤ weight * (36 - t) then none
      else decodeNumber bias (k + 36) (weight * (36 - t)) i cs

/-- Reads characters into the label. The fuel is the length of the written form. -/
def decodeSteps : Nat → Nat → Nat → Nat → List Char → List Char → Option (List Char)
  | _, _, _, _, label, [] => some label
  | 0, _, _, _, _, _ :: _ => none
  | fuel + 1, n, i, bias, label, cs =>
    match decodeNumber bias 36 1 i cs with
    | none => none
    | some (next, rest) =>
      let count := label.length + 1
      let n := n + next / count
      let position := next % count
      if n.isValidChar then
        decodeSteps fuel n (position + 1) (adapt (next - i) count (i == 0))
          (label.take position ++ Char.ofNat n :: label.drop position) rest
      else none

/-- The label of a written form. -/
def decode? (text : List Char) : Option (List Char) :=
  let tail := (text.reverse.takeWhile (· != '-')).reverse
  let lead := if tail.length = text.length then [] else text.take (text.length - tail.length - 1)
  if lead.any (0x80 ≤ ·.toNat) then none
  else decodeSteps tail.length 128 0 72 lead tail

end MqttConformance.Url.Punycode
