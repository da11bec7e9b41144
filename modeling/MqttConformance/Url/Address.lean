/-!
Network addresses as hosts. A version 4 address has up to four parts, each decimal, octal after a
`0` or hexadecimal after `0x`; the last part fills all the bytes that are left. A version 6 address
is written with the longest run of zero pieces left out.
-/

namespace MqttConformance.Url

/-- The value of a digit in a base up to sixteen. -/
def baseDigit? (base : Nat) (c : Char) : Option Nat :=
  let value : Option Nat :=
    if '0' ≤ c ∧ c ≤ '9' then some (c.toNat - 0x30)
    else if 'a' ≤ c ∧ c ≤ 'f' then some (c.toNat - 0x61 + 10)
    else if 'A' ≤ c ∧ c ≤ 'F' then some (c.toNat - 0x41 + 10)
    else none
  value.filter (· < base)

/-- The parts of a text between separators. -/
def splitOn (separator : Char) : List Char → List (List Char)
  | [] => [[]]
  | c :: cs =>
    if c = separator then [] :: splitOn separator cs
    else
      match splitOn separator cs with
      | [] => [[c]]
      | part :: parts => (c :: part) :: parts

namespace Ipv4

/-- The number that a part of an address denotes, of any size. -/
def number? (part : List Char) : Option Nat :=
  let (base, digits) : Nat × List Char :=
    match part with
    | '0' :: 'x' :: rest | '0' :: 'X' :: rest => (16, rest)
    | '0' :: c :: rest => (8, c :: rest)
    | part => (10, part)
  if part.isEmpty then none
  else do
    let values ← digits.mapM (baseDigit? base)
    return values.foldl (fun acc d => acc * base + d) 0

/-- Whether the last part of a host is a number, so that the host has to be an address. -/
def endsInNumber (host : List Char) : Bool :=
  let parts := (splitOn '.' host).reverse
  let last? : Option (List Char) :=
    match parts with
    | [] :: part :: _ => some part
    | [[]] => none
    | part :: _ => some part
    | [] => none
  match last? with
  | none => false
  | some part => (!part.isEmpty && part.all Char.isDigit) || (number? part).isSome

/-- The address that a host denotes. -/
def ofHost? (host : List Char) : Option Nat := do
  let parts := splitOn '.' host
  let parts := if parts.getLast? = some [] then parts.dropLast else parts
  if parts.length > 4 then none
  let numbers ← parts.mapM number?
  let last ← numbers.getLast?
  let leading := numbers.dropLast
  if leading.any (· > 255) || last ≥ Nat.pow 256 (4 - leading.length) then none
  let high := (leading.foldl (fun acc n => acc * 256 + n) 0) * Nat.pow 256 (4 - leading.length)
  return high + last

def render (address : Nat) : List Char :=
  let part (i : Nat) : List Char := Nat.toDigits 10 (address / Nat.pow 256 i % 256)
  part 3 ++ '.' :: part 2 ++ '.' :: part 1 ++ '.' :: part 0

end Ipv4

namespace Ipv6

/-- The four decimal parts at the end of an address, as two pieces. -/
def embedded? (cs : List Char) : Option (List Nat) := do
  let parts := splitOn '.' cs
  if parts.length ≠ 4 then none
  let numbers ← parts.mapM fun part => do
    if part.isEmpty || (part.length > 1 && part.head? == some '0') || part.length > 3 then none
    let digits ← part.mapM (baseDigit? 10)
    let n := digits.foldl (fun acc d => acc * 10 + d) 0
    if n > 255 then none else some n
  match numbers with
  | [a, b, c, d] => return [a * 256 + b, c * 256 + d]
  | _ => none

/-- A piece of up to four hexadecimal digits. -/
def piece? (cs : List Char) : Option Nat := do
  if cs.isEmpty || cs.length > 4 then none
  let digits ← cs.mapM (baseDigit? 16)
  return digits.foldl (fun acc d => acc * 16 + d) 0

/-- The pieces of a run without a gap; only the last may be decimal. -/
def pieces? : List (List Char) → Option (List Nat)
  | [] => some []
  | [last] => if last.contains '.' then embedded? last else (piece? last).map ([·])
  | part :: parts => do
    let n ← piece? part
    let ns ← pieces? parts
    return n :: ns

/-- The two sides of the first `::` of a text. -/
def splitGap : List Char → Option (List Char × List Char)
  | ':' :: ':' :: rest => some ([], rest)
  | c :: rest => (splitGap rest).map fun (l, r) => (c :: l, r)
  | [] => none

/-- The eight pieces of an address without its brackets. -/
def ofText? (cs : List Char) : Option (List Nat) :=
  match splitGap cs with
  | none => do
    let ns ← pieces? (splitOn ':' cs)
    if ns.length = 8 then some ns else none
  | some (left, right) => do
    if left.contains '.' then none
    let ls ← if left.isEmpty then some [] else pieces? (splitOn ':' left)
    let rs ← if right.isEmpty then some [] else pieces? (splitOn ':' right)
    if ls.length + rs.length ≤ 7 then
      some (ls ++ List.replicate (8 - ls.length - rs.length) 0 ++ rs)
    else none

/-- The length of the run of zeros at the front. -/
def zeroRun (ns : List Nat) : Nat := (ns.takeWhile (· == 0)).length

/-- The start and length of the longest run of zeros, the first of several. -/
def longestZeroRun (ns : List Nat) : Nat × Nat :=
  (List.range ns.length).foldl
    (fun best i => let run := zeroRun (ns.drop i); if run > best.2 then (i, run) else best) (0, 0)

def join (ns : List Nat) : List Char := ((ns.map (Nat.toDigits 16)).intersperse [':']).flatten

def render (ns : List Nat) : List Char :=
  let (start, length) := longestZeroRun ns
  if length < 2 then join ns
  else join (ns.take start) ++ [':', ':'] ++ join (ns.drop (start + length))

end Ipv6

end MqttConformance.Url
