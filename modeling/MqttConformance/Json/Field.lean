import MqttConformance.Json.Printer
import MqttConformance.Json.Skip
import MqttConformance.Text.Quoted

/-!
Reading a record of which one field matters. The record is an object, whose other members are
skipped, or an array, whose only item is the field. The field may be missing or null, but it may not
occur twice.
-/

namespace MqttConformance.Json

/-- A field that is looked for, and what messages call its record. -/
structure Field where
  name : String
  owner : String
  deriving DecidableEq, Repr

/-- A value of which null says that there is none. -/
def present? : Json → Option Json
  | .null => none
  | value => some value

/-- How deep values inside the record may nest. -/
def fieldDepth : Nat := maxDepth - 1

/-- A value, or none for null. -/
def readOptional (rest : Bytes) : Except Fault (Option Json × Bytes) := do
  let (value, rest) ← readValue fieldDepth rest
  return (present? value, rest)

namespace Field

/-- The end of an array whose only item has been read. -/
def readArrayEnd (rest : Bytes) : Except Fault (Unit × Bytes) :=
  match skipSpace rest with
  | [] => faultNext .endInList []
  | 0x5d :: rest => .ok ((), rest)
  | 0x2c :: rest =>
    match skipSpace rest with
    | 0x5d :: rest => faultHere .trailingComma rest
    | rest => faultNext .trailingCharacters rest
  | rest => faultNext .trailingCharacters rest

/-- An array after its opening bracket. -/
def readArray (rest : Bytes) : Except Fault (Option Json × Bytes) :=
  match skipSpace rest with
  | [] => faultNext .endInList []
  | 0x5d :: rest => .ok (none, rest)
  | rest => do
    let (value, rest) ← readOptional rest
    let ((), rest) ← readArrayEnd rest
    return (value, rest)

/-- The place where a second occurrence is reported: after its name, and after the object if that
ends there. -/
def afterRepetition (rest : Bytes) : Bytes :=
  match skipSpace rest with
  | 0x7d :: rest => rest
  | rest => rest

/-- The colon after a name. -/
def readColon (rest : Bytes) : Except Fault (Unit × Bytes) :=
  match skipSpace rest with
  | [] => faultNext .endInObject []
  | 0x3a :: rest => .ok ((), rest)
  | rest => faultNext .expectedColon rest

/-- A member after the opening quote of its name, given what was found of the field so far. -/
def readMember (field : Field) (found : Option (Option Json)) (rest : Bytes) :
    Except Fault (Option (Option Json) × Bytes) := do
  let (name, rest) ← readString rest
  if name = field.name then
    if found.isSome then faultHere (.duplicateMember field.name) (afterRepetition rest)
    else
      let ((), rest) ← readColon rest
      let (value, rest) ← readOptional rest
      return (some value, rest)
  else
    let ((), rest) ← readColon rest
    let rest ← skipValue rest
    return (found, rest)

/-- The members after the first, up to the closing brace. The fuel is the number of bytes. -/
def readMembers (field : Field) :
    Nat → Option (Option Json) → Bytes → Except Fault (Option (Option Json) × Bytes)
  | 0, _, rest => faultNext .endInObject rest
  | fuel + 1, found, rest =>
    match skipSpace rest with
    | [] => faultNext .endInObject []
    | 0x7d :: rest => .ok (found, rest)
    | 0x2c :: rest =>
      match skipSpace rest with
      | [] => faultNext .endInValue []
      | 0x22 :: rest => do
        let (found, rest) ← field.readMember found rest
        readMembers field fuel found rest
      | 0x7d :: rest => faultHere .trailingComma rest
      | rest => faultNext .nameNotString rest
    | rest => faultNext .expectedObjectEnd rest

/-- An object after its opening brace. -/
def readObject (field : Field) (rest : Bytes) : Except Fault (Option Json × Bytes) :=
  match skipSpace rest with
  | [] => faultNext .endInObject []
  | 0x7d :: rest => .ok (none, rest)
  | 0x22 :: rest => do
    let (found, rest) ← field.readMember none rest
    let (found, rest) ← readMembers field (rest.length + 1) found rest
    return (found.join, rest)
  | rest => faultNext .nameNotString rest

/-- What messages call a value that is no record. -/
def kindOf : Json → String
  | .null => "null"
  | .bool b => "boolean `" ++ (if b then "true" else "false") ++ "`"
  | .number (.float x) => "floating point `" ++ Number.render (.float x) ++ "`"
  | .number n => "integer `" ++ n.render ++ "`"
  | .string s => "string " ++ Text.quote s
  | .array _ => "sequence"
  | .object _ => "map"

/-- A record. -/
def read (field : Field) (rest : Bytes) : Except Fault (Option Json × Bytes) :=
  match skipSpace rest with
  | [] => faultNext .endInValue []
  | 0x5b :: rest => readArray rest
  | 0x7b :: rest => field.readObject rest
  | rest => do
    let (value, rest) ← readValue 0 rest
    faultHere (.unexpectedType (kindOf value) field.owner) rest

/-- The field of the record that a text holds. -/
def ofBytes (field : Field) (text : Bytes) : Except Error (Option Json) := readAll field.read text

end Field

end MqttConformance.Json
