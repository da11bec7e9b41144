import MqttConformance.Decimal.Shortest
import MqttConformance.Json.Basic

/-!
The compact form of a document: no blanks, members in order of name, strings with the fewest
escapes.
-/

namespace MqttConformance.Json

/-- How floats are written: in positional notation from `10 ^ minPoint` up to below `10 ^ maxPoint`,
with a decimal point always, and with a signed exponent otherwise. -/
structure FloatFormat where
  minPoint : Int
  maxPoint : Int

/-- Positional from 0.00001 up to below 10000000000000000. -/
def floatFormat : FloatFormat := ⟨-4, 16⟩

def zeros (n : Nat) : List Char := List.replicate n '0'

/-- The decimal digits of a number. -/
def digitChars (n : Nat) : List Char := Nat.toDigits 10 n

/-- A magnitude other than zero. -/
def magnitudeChars (x : Magnitude) : List Char :=
  let d := Decimal.shortest x
  let ds := digitChars d.digits
  if floatFormat.minPoint ≤ d.point ∧ d.point ≤ floatFormat.maxPoint then
    if d.point ≤ 0 then ['0', '.'] ++ zeros (-d.point).toNat ++ ds
    else if ds.length ≤ d.point.toNat then ds ++ zeros (d.point.toNat - ds.length) ++ ['.', '0']
    else ds.take d.point.toNat ++ '.' :: ds.drop d.point.toNat
  else
    let exponent := d.point - 1
    let sign := if exponent < 0 then '-' else '+'
    let lead := ds.take 1
    let tail := ds.drop 1
    lead ++ (if tail.isEmpty then [] else '.' :: tail) ++ 'e' :: sign :: digitChars exponent.natAbs

def floatChars (x : Binary64) : List Char :=
  let body := if x.magnitude.isZero then ['0', '.', '0'] else magnitudeChars x.magnitude
  if x.negative then '-' :: body else body

def Number.chars : Number → List Char
  | natural n => digitChars n
  | negative n => '-' :: digitChars n
  | float x => floatChars x

/-- The text of a number. -/
def Number.render (n : Number) : String := String.ofList n.chars

/-- How a character is written inside a string: quotes, backslashes and controls are escaped. -/
def escapeChar (c : Char) : List Char :=
  match c with
  | '\"' => ['\\', '\"']
  | '\\' => ['\\', '\\']
  | '\x08' => ['\\', 'b']
  | '\x0c' => ['\\', 'f']
  | '\n' => ['\\', 'n']
  | '\r' => ['\\', 'r']
  | '\t' => ['\\', 't']
  | c =>
    if c.toNat < 0x20 then
      ['\\', 'u', '0', '0', Nat.digitChar (c.toNat / 16), Nat.digitChar (c.toNat % 16)]
    else [c]

def stringChars (s : String) : List Char := '\"' :: s.toList.flatMap escapeChar ++ ['\"']

mutual

/-- The characters of a document. -/
def chars : Json → List Char
  | .null => ['n', 'u', 'l', 'l']
  | .bool true => ['t', 'r', 'u', 'e']
  | .bool false => ['f', 'a', 'l', 's', 'e']
  | .number n => n.chars
  | .string s => stringChars s
  | .array items => '[' :: itemChars items
  | .object members => '\x7b' :: memberChars members

/-- The items of an array and its closing bracket. -/
def itemChars : List Json → List Char
  | [] => [']']
  | [item] => chars item ++ [']']
  | item :: items => chars item ++ ',' :: itemChars items

/-- The members of an object and its closing brace. -/
def memberChars : List (String × Json) → List Char
  | [] => ['\x7d']
  | [(name, value)] => stringChars name ++ ':' :: chars value ++ ['\x7d']
  | (name, value) :: members =>
    stringChars name ++ ':' :: chars value ++ ',' :: memberChars members

end

/-- The compact text of a document. -/
def render (j : Json) : String := String.ofList j.chars

/-- The bytes of the compact text. -/
def encode (j : Json) : Bytes := Utf8.encodeChars j.chars

end MqttConformance.Json
