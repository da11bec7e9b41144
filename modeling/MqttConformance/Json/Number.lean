import MqttConformance.Json.Basic
import MqttConformance.Json.Error

/-!
Reading numbers. A whole number that fits 64 bits stays exact. Any other number is computed from its
first significant digits, as many as fit 64 bits, which one multiplication or division by a power of
ten scales; that is fast and can differ from the nearest float in the last place.
-/

namespace MqttConformance.Json

/-- The outcome of reading from the front of a text: a value and what is left. -/
abbrev Reading (α : Type) := Except Fault (α × Bytes)

/-- A fault at the end of what was consumed. -/
def faultHere {α : Type} (cause : Cause) (rest : Bytes) : Except Fault α :=
  .error ⟨cause, rest.length⟩

/-- A fault at the next byte. -/
def faultNext {α : Type} (cause : Cause) (rest : Bytes) : Except Fault α :=
  .error ⟨cause, rest.length - 1⟩

def isDigit (b : UInt8) : Bool := 0x30 ≤ b && b ≤ 0x39

def digitValue (b : UInt8) : Nat := b.toNat - 0x30

def startsWithDigit : Bytes → Bool
  | b :: _ => isDigit b
  | [] => false

/-- The largest significand. -/
def significandBound : Nat := UInt64.size

/-- The largest exponent that is read as a number; a longer one decides at once. -/
def exponentBound : Nat := 0x80000000

/-- Scales by a power of ten. Far below one it takes steps of `10 ^ 308`, of which a few reach zero.
-/
def scaleDown (x : Magnitude) (exponent : Nat) : Nat → Option Magnitude
  | 0 => some .zero
  | fuel + 1 =>
    if exponent ≤ 308 then do x.div (← Magnitude.tenPow exponent)
    else if x.isZero then some x
    else do scaleDown (← x.div (← Magnitude.tenPow 308)) (exponent - 308) fuel

/-- The float `significand · 10 ^ exponent`, computed in floats. -/
def scaled? (significand : Nat) (exponent : Int) : Option Magnitude := do
  let x ← Magnitude.ofNat significand
  if 0 ≤ exponent then
    if exponent ≤ 308 then x.mul (← Magnitude.tenPow exponent.toNat)
    else if x.isZero then some x
    else none
  else scaleDown x (-exponent).toNat 4

def floatFrom (negative : Bool) (significand : Nat) (exponent : Int) (rest : Bytes) :
    Reading Number :=
  match scaled? significand exponent with
  | some x => .ok (.float ⟨negative, x⟩, rest)
  | none => faultHere .numberOutOfRange rest

/-- The digits of an exponent. -/
def readExponentDigits (negative : Bool) (significand : Nat) (start : Int) (up : Bool) :
    Nat → Bytes → Reading Number
  | exponent, b :: rest =>
    if isDigit b then
      let next := exponent * 10 + digitValue b
      if next < exponentBound then readExponentDigits negative significand start up next rest
      else if significand ≠ 0 ∧ up then faultHere .numberOutOfRange rest
      else .ok (.float ⟨negative, .zero⟩, rest.dropWhile isDigit)
    else
      floatFrom negative significand (if up then start + exponent else start - exponent) (b :: rest)
  | exponent, [] =>
    floatFrom negative significand (if up then start + exponent else start - exponent) []

/-- The part after the letter `e`. -/
def readExponent (negative : Bool) (significand : Nat) (start : Int) (rest : Bytes) :
    Reading Number :=
  let (up, rest) : Bool × Bytes :=
    match rest with
    | 0x2b :: rest => (true, rest)
    | 0x2d :: rest => (false, rest)
    | rest => (true, rest)
  match rest with
  | [] => faultHere .endInValue []
  | b :: rest =>
    if isDigit b then readExponentDigits negative significand start up (digitValue b) rest
    else faultHere .invalidNumber rest

/-- What may follow the last digit in front of an exponent. -/
def readTail (negative : Bool) (significand : Nat) (exponent : Int) (rest : Bytes) :
    Reading Number :=
  match rest with
  | 0x65 :: rest | 0x45 :: rest => readExponent negative significand exponent rest
  | rest => floatFrom negative significand exponent rest

/-- The digits after the point. Those that no longer fit the significand are skipped. -/
def readDecimals (negative : Bool) (start : Int) : Nat → Nat → Bytes → Reading Number
  | significand, places, b :: rest =>
    if isDigit b then
      let next := significand * 10 + digitValue b
      if next < significandBound then readDecimals negative start next (places + 1) rest
      else readTail negative significand (start - places) ((b :: rest).dropWhile isDigit)
    else if places = 0 then faultNext .invalidNumber (b :: rest)
    else readTail negative significand (start - places) (b :: rest)
  | significand, places, [] =>
    if places = 0 then faultNext .endInValue []
    else readTail negative significand (start - places) []

/-- The whole digits beyond those that fit the significand; each stands for a factor of ten. -/
def readLongInteger (negative : Bool) (significand : Nat) : Nat → Bytes → Reading Number
  | skipped, b :: rest =>
    if isDigit b then readLongInteger negative significand (skipped + 1) rest
    else if b = 0x2e then readDecimals negative skipped significand 0 rest
    else readTail negative significand skipped (b :: rest)
  | skipped, [] => floatFrom negative significand skipped []

/-- A whole number, exact where it fits: down to `-2 ^ 63`, and negative zero is a float. -/
def wholeNumber (negative : Bool) (significand : Nat) (rest : Bytes) : Reading Number :=
  if !negative then .ok (.natural significand, rest)
  else if 0 < significand ∧ significand ≤ 0x8000000000000000 then .ok (.negative significand, rest)
  else floatFrom true significand 0 rest

/-- What follows the whole part. -/
def readAfterWhole (negative : Bool) (significand : Nat) (rest : Bytes) : Reading Number :=
  match rest with
  | 0x2e :: rest => readDecimals negative 0 significand 0 rest
  | 0x65 :: rest | 0x45 :: rest => readExponent negative significand 0 rest
  | rest => wholeNumber negative significand rest

/-- The whole digits after the first. -/
def readWholeDigits (negative : Bool) : Nat → Bytes → Reading Number
  | significand, b :: rest =>
    if isDigit b then
      let next := significand * 10 + digitValue b
      if next < significandBound then readWholeDigits negative next rest
      else readLongInteger negative significand 1 rest
    else readAfterWhole negative significand (b :: rest)
  | significand, [] => readAfterWhole negative significand []

/-- A number after its sign. A leading zero stands alone. -/
def readUnsigned (negative : Bool) (rest : Bytes) : Reading Number :=
  match rest with
  | [] => faultHere .endInValue []
  | b :: rest =>
    if b = 0x30 then
      if startsWithDigit rest then faultNext .invalidNumber rest
      else readAfterWhole negative 0 rest
    else if isDigit b then readWholeDigits negative (digitValue b) rest
    else faultHere .invalidNumber rest

/-- A number that starts with a digit or a minus sign. -/
def readNumber (rest : Bytes) : Reading Number :=
  match rest with
  | 0x2d :: rest => readUnsigned true rest
  | rest => readUnsigned false rest

end MqttConformance.Json
