import MqttConformance.Text.Utf8

/-!
Why a text is not the document that was asked for, and where. Lines count from one; the column is
the number of bytes of that line up to and including the offending one.
-/

namespace MqttConformance.Json

/-- What is wrong with a text. -/
inductive Cause where
  | endInValue
  | endInList
  | endInObject
  | endInString
  | expectedValue
  | expectedWord
  | expectedColon
  | expectedListEnd
  | expectedObjectEnd
  | trailingComma
  | trailingCharacters
  | nameNotString
  | invalidNumber
  | numberOutOfRange
  | invalidEscape
  | endOfHexEscape
  | loneSurrogate
  | controlCharacter
  | invalidCodePoint
  | nestingTooDeep
  | duplicateMember (name : String)
  | unexpectedType (found expected : String)
  deriving DecidableEq, Repr

def Cause.message : Cause → String
  | endInValue => "EOF while parsing a value"
  | endInList => "EOF while parsing a list"
  | endInObject => "EOF while parsing an object"
  | endInString => "EOF while parsing a string"
  | expectedValue => "expected value"
  | expectedWord => "expected ident"
  | expectedColon => "expected `:`"
  | expectedListEnd => "expected `,` or `]`"
  | expectedObjectEnd => "expected `,` or `\x7d`"
  | trailingComma => "trailing comma"
  | trailingCharacters => "trailing characters"
  | nameNotString => "key must be a string"
  | invalidNumber => "invalid number"
  | numberOutOfRange => "number out of range"
  | invalidEscape => "invalid escape"
  | endOfHexEscape => "unexpected end of hex escape"
  | loneSurrogate => "lone leading surrogate in hex escape"
  | controlCharacter => "control character (\\u0000-\\u001F) found while parsing a string"
  | invalidCodePoint => "invalid unicode code point"
  | nestingTooDeep => "recursion limit exceeded"
  | duplicateMember name => "duplicate field `" ++ name ++ "`"
  | unexpectedType found expected => "invalid type: " ++ found ++ ", expected " ++ expected

/-- A cause and its place. -/
structure Error where
  cause : Cause
  line : Nat
  column : Nat
  deriving DecidableEq, Repr

def Error.message (e : Error) : String :=
  e.cause.message ++ " at line " ++ toString e.line ++ " column " ++ toString e.column

/-- A cause found while reading, with the number of bytes beyond its place. -/
structure Fault where
  cause : Cause
  left : Nat
  deriving DecidableEq, Repr

/-- The place after a run of bytes: the line reached, and the bytes since its start. -/
def placeAfter (consumed : Bytes) : Nat × Nat :=
  consumed.foldl (fun ((line, column) : Nat × Nat) (b : UInt8) =>
    if b = 0x0a then (line + 1, 0) else (line, column + 1)) (1, 0)

/-- The place of a fault in the text it was found in. -/
def Fault.locate (text : Bytes) (f : Fault) : Error :=
  let (line, column) := placeAfter (text.take (text.length - f.left))
  ⟨f.cause, line, column⟩

end MqttConformance.Json
