import MqttConformance.Text.Printable
import MqttConformance.Text.Utf8

/-!
Quoted text for messages a person reads. Between double quotes every printable character stands for
itself; quotes, backslashes and the usual controls take a short escape, and whatever has no glyph of
its own is written as its code point in hexadecimal.
-/

namespace MqttConformance.Text

/-- The lower case hexadecimal digits of a number, without leading zeros. -/
def hexDigits (n : Nat) : List Char := Nat.toDigits 16 n

/-- Two upper case hexadecimal digits. -/
def hexByte (b : UInt8) : List Char :=
  [Nat.digitChar (b.toNat / 16), Nat.digitChar (b.toNat % 16)].map Char.toUpper

/-- How a character is written between quotes. -/
def escapeChar (c : Char) : List Char :=
  match c with
  | '\x00' => ['\\', '0']
  | '\t' => ['\\', 't']
  | '\r' => ['\\', 'r']
  | '\n' => ['\\', 'n']
  | '\"' => ['\\', '\"']
  | '\\' => ['\\', '\\']
  | c =>
    if 0x20 ≤ c.toNat && c.toNat < 0x7f then [c]
    else if isGraphemeExtend c || !isPrintable c then
      ['\\', 'u', '\x7b'] ++ hexDigits c.toNat ++ ['\x7d']
    else [c]

/-- A text between double quotes. -/
def quote (s : String) : String :=
  String.ofList ('\"' :: s.toList.flatMap escapeChar ++ ['\"'])

/-- Paths differ from texts in two ways: a single quote is escaped too, and a byte that belongs to
no character is written in hexadecimal. -/
def escapePathPiece : Utf8.Piece → List Char
  | .char '\'' => ['\\', '\'']
  | .char c => escapeChar c
  | .illFormed bytes => bytes.flatMap fun b => '\\' :: 'x' :: hexByte b

/-- A path between double quotes. -/
def quotePath (path : Bytes) : String :=
  String.ofList ('\"' :: (Utf8.pieces path).flatMap escapePathPiece ++ ['\"'])

end MqttConformance.Text
