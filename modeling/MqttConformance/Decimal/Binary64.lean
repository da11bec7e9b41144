/-!
Finite binary floating-point numbers of 64 bits, as a sign and a magnitude `mantissa · 2 ^
exponent`. Every operation takes the exact quotient and rounds it once, to the nearest number and to
the even mantissa of two equally near ones; `none` stands for a magnitude beyond the largest.
-/

namespace MqttConformance

/-- A magnitude in lowest exponent: the mantissa is below `2 ^ 53`, and at least `2 ^ 52` unless the
exponent is the least one. -/
structure Magnitude where
  mantissa : Nat
  exponent : Int
  deriving DecidableEq, Repr

/-- A finite number; zero has two signs. -/
structure Binary64 where
  negative : Bool
  magnitude : Magnitude
  deriving DecidableEq, Repr

namespace Magnitude

def minExponent : Int := -1074

def maxExponent : Int := 971

def zero : Magnitude := ⟨0, minExponent⟩

def isZero (x : Magnitude) : Bool := x.mantissa == 0

/-- The value as a quotient. -/
def ratio (x : Magnitude) : Nat × Nat :=
  if 0 ≤ x.exponent then (x.mantissa * Nat.pow 2 x.exponent.toNat, 1)
  else (x.mantissa, Nat.pow 2 (-x.exponent).toNat)

/-- The nearest whole number to a quotient, the even one of two. -/
def divHalfEven (num den : Nat) : Nat :=
  let q := num / den
  let r := num % den
  if 2 * r < den then q
  else if den < 2 * r then q + 1
  else if q % 2 = 0 then q else q + 1

/-- A quotient in units of `2 ^ exponent`. -/
def inUnits (num den : Nat) (exponent : Int) : Nat × Nat :=
  if 0 ≤ exponent then (num, den * Nat.pow 2 exponent.toNat)
  else (num * Nat.pow 2 (-exponent).toNat, den)

/-- The least exponent at which the whole part of a quotient stays below `2 ^ 53`. -/
def exponentFor (num den : Nat) : Int :=
  let low := max ((Nat.log2 num : Int) - Nat.log2 den - 53) minExponent
  let (n, d) := inUnits num den low
  if n / d < Nat.pow 2 53 then low else low + 1

/-- The nearest magnitude to a quotient. -/
def ofRatio (num den : Nat) : Option Magnitude :=
  if num = 0 then some zero
  else
    let exponent := exponentFor num den
    let (n, d) := inUnits num den exponent
    let mantissa := divHalfEven n d
    let rounded : Magnitude :=
      if mantissa = Nat.pow 2 53 then ⟨Nat.pow 2 52, exponent + 1⟩ else ⟨mantissa, exponent⟩
    if rounded.exponent ≤ maxExponent then some rounded else none

def ofNat (n : Nat) : Option Magnitude := ofRatio n 1

def mul (x y : Magnitude) : Option Magnitude :=
  ofRatio (x.ratio.1 * y.ratio.1) (x.ratio.2 * y.ratio.2)

/-- Division by a magnitude other than zero. -/
def div (x y : Magnitude) : Option Magnitude :=
  ofRatio (x.ratio.1 * y.ratio.2) (x.ratio.2 * y.ratio.1)

/-- The power of ten nearest to `10 ^ n`. -/
def tenPow (n : Nat) : Option Magnitude := ofNat (Nat.pow 10 n)

end Magnitude

end MqttConformance
