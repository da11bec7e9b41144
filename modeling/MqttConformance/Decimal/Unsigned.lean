/-!
Unsigned decimal numerals with a bound. A numeral is an optional plus sign and at least one ASCII
digit; leading zeros do not count against the bound. Faults are reported in reading order, so a
numeral that grows too large before its first bad character is too large.
-/

namespace MqttConformance.Decimal

/-- Why a text is not a numeral below the bound. -/
inductive NumeralFault where
  | empty
  | badDigit
  | tooLarge
  deriving DecidableEq, Repr

def NumeralFault.message : NumeralFault → String
  | .empty => "cannot parse integer from empty string"
  | .badDigit => "invalid digit found in string"
  | .tooLarge => "number too large to fit in target type"

/-- The value of an ASCII digit. -/
def digit? (c : Char) : Option Nat :=
  if '0' ≤ c ∧ c ≤ '9' then some (c.toNat - 48) else none

/-- Reads digits onto an accumulator that has to stay below the bound. -/
def readDigits (bound : Nat) : Nat → List Char → Except NumeralFault Nat
  | acc, [] => .ok acc
  | acc, c :: cs =>
    match digit? c with
    | none => .error .badDigit
    | some d =>
      if acc * 10 + d < bound then readDigits bound (acc * 10 + d) cs else .error .tooLarge

/-- Reads a whole text as a numeral below `bound`. -/
def readBelow (bound : Nat) : List Char → Except NumeralFault Nat
  | [] => .error .empty
  | ['+'] => .error .badDigit
  | '+' :: cs => readDigits bound 0 cs
  | cs => readDigits bound 0 cs

/-- The numeral below `bound` that a text is, if it is one. -/
def ofText? (bound : Nat) (s : String) : Option Nat := (readBelow bound s.toList).toOption

@[simp] theorem readDigits_nil (bound acc : Nat) : readDigits bound acc [] = .ok acc := rfl

end MqttConformance.Decimal
