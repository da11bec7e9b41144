import MqttConformance.Json.Number

/-!
Reading documents. The reader works on bytes from the front; arrays and objects nest at most 127
deep. Faults are those of the first byte that rules the text out.
-/

namespace MqttConformance.Json

def isSpace (b : UInt8) : Bool := b == 0x20 || b == 0x0a || b == 0x09 || b == 0x0d

def skipSpace (rest : Bytes) : Bytes := rest.dropWhile isSpace

/-- The rest of a word whose first letter has been read. -/
def readWord : Bytes → Bytes → Reading Unit
  | [], rest => .ok ((), rest)
  | _ :: _, [] => faultHere .endInValue []
  | w :: word, b :: rest => if b = w then readWord word rest else faultHere .expectedWord rest

def hexValue? (b : UInt8) : Option Nat :=
  if 0x30 ≤ b ∧ b ≤ 0x39 then some (b.toNat - 0x30)
  else if 0x41 ≤ b ∧ b ≤ 0x46 then some (b.toNat - 0x41 + 10)
  else if 0x61 ≤ b ∧ b ≤ 0x66 then some (b.toNat - 0x61 + 10)
  else none

/-- Four hexadecimal digits. -/
def readHex4 (rest : Bytes) : Except Fault (Nat × Bytes) :=
  match rest with
  | a :: b :: c :: d :: rest =>
    match hexValue? a, hexValue? b, hexValue? c, hexValue? d with
    | some a, some b, some c, some d => .ok (((a * 16 + b) * 16 + c) * 16 + d, rest)
    | _, _, _, _ => faultHere .invalidEscape rest
  | _ => faultHere .endInString []

/-- The second half of a surrogate pair, with the first half read. -/
def readLowSurrogate (high : Nat) (rest : Bytes) : Except Fault (Char × Bytes) :=
  match rest with
  | [] => faultHere .endInString []
  | 0x5c :: rest =>
    match rest with
    | [] => faultHere .endInString []
    | 0x75 :: rest => do
      let (low, rest) ← readHex4 rest
      if 0xdc00 ≤ low ∧ low ≤ 0xdfff then
        .ok (Char.ofNat ((high - 0xd800) * 1024 + (low - 0xdc00) + 0x10000), rest)
      else faultHere .loneSurrogate rest
    | _ :: rest => faultHere .endOfHexEscape rest
  | _ :: rest => faultHere .endOfHexEscape rest

/-- An escape after its backslash. -/
def readEscape (rest : Bytes) : Except Fault (Char × Bytes) :=
  match rest with
  | [] => faultHere .endInString []
  | b :: rest =>
    match Char.ofNat b.toNat with
    | '\"' => .ok ('\"', rest)
    | '\\' => .ok ('\\', rest)
    | '/' => .ok ('/', rest)
    | 'b' => .ok ('\x08', rest)
    | 'f' => .ok ('\x0c', rest)
    | 'n' => .ok ('\n', rest)
    | 'r' => .ok ('\r', rest)
    | 't' => .ok ('\t', rest)
    | 'u' => do
      let (n, rest) ← readHex4 rest
      if 0xdc00 ≤ n ∧ n ≤ 0xdfff then faultHere .loneSurrogate rest
      else if 0xd800 ≤ n ∧ n ≤ 0xdbff then readLowSurrogate n rest
      else .ok (Char.ofNat n, rest)
    | _ => faultHere .invalidEscape rest

/-- The characters of a string up to its closing quote, in reverse onto `acc`. An ill-formed byte is
reported once the string is complete; `bad` remembers the first one. The fuel is the number of
bytes. -/
def readChars : Nat → List Char → Option Nat → Bytes → Except Fault (List Char × Bytes)
  | 0, _, _, _ => faultHere .endInString []
  | _ + 1, _, _, [] => faultHere .endInString []
  | fuel + 1, acc, bad, b :: rest =>
    if b = 0x22 then
      match bad with
      | none => .ok (acc.reverse, rest)
      | some left => .error ⟨.invalidCodePoint, left⟩
    else if b = 0x5c then do
      let (c, rest) ← readEscape rest
      readChars fuel (c :: acc) bad rest
    else if b < 0x20 then faultHere .controlCharacter rest
    else
      match Utf8.firstPiece b rest with
      | (.char c, after) => readChars fuel (c :: acc) bad after
      | (.illFormed _, after) => readChars fuel acc (bad.or (some rest.length)) after

/-- A string after its opening quote. -/
def readString (rest : Bytes) : Except Fault (String × Bytes) := do
  let (cs, rest) ← readChars (rest.length + 1) [] none rest
  return (String.ofList cs, rest)

/-- The items of an array after the first, up to the closing bracket, in reverse onto `acc`. -/
def readItems (readItem : Bytes → Reading Json) : Nat → List Json → Bytes →
    Except Fault (List Json × Bytes)
  | 0, _, rest => faultNext .endInList rest
  | fuel + 1, acc, rest =>
    match skipSpace rest with
    | [] => faultNext .endInList []
    | 0x5d :: rest => .ok (acc.reverse, rest)
    | 0x2c :: rest =>
      match skipSpace rest with
      | [] => faultNext .endInValue []
      | 0x5d :: rest => faultHere .trailingComma rest
      | rest => do
        let (item, rest) ← readItem rest
        readItems readItem fuel (item :: acc) rest
    | _ :: rest => faultHere .expectedListEnd rest

/-- An array after its opening bracket. -/
def readArray (readItem : Bytes → Reading Json) (rest : Bytes) : Except Fault (Json × Bytes) :=
  match skipSpace rest with
  | [] => faultNext .endInList []
  | 0x5d :: rest => .ok (.array [], rest)
  | rest => do
    let (item, rest) ← readItem rest
    let (items, rest) ← readItems readItem (rest.length + 1) [item] rest
    return (.array items, rest)

/-- A colon and the value after it. -/
def readMemberValue (readItem : Bytes → Reading Json) (rest : Bytes) :
    Except Fault (Json × Bytes) :=
  match skipSpace rest with
  | [] => faultNext .endInObject []
  | 0x3a :: rest => readItem rest
  | _ :: rest => faultHere .expectedColon rest

/-- A member after the opening quote of its name. -/
def readMember (readItem : Bytes → Reading Json) (rest : Bytes) :
    Except Fault ((String × Json) × Bytes) := do
  let (name, rest) ← readString rest
  let (value, rest) ← readMemberValue readItem rest
  return ((name, value), rest)

/-- The members of an object after the first, up to the closing brace, in reverse onto `acc`. -/
def readMembers (readItem : Bytes → Reading Json) :
    Nat → List (String × Json) → Bytes →
      Except Fault (List (String × Json) × Bytes)
  | 0, _, rest => faultNext .endInObject rest
  | fuel + 1, acc, rest =>
    match skipSpace rest with
    | [] => faultNext .endInObject []
    | 0x7d :: rest => .ok (acc.reverse, rest)
    | 0x2c :: rest =>
      match skipSpace rest with
      | [] => faultNext .endInValue []
      | 0x22 :: rest => do
        let (member, rest) ← readMember readItem rest
        readMembers readItem fuel (member :: acc) rest
      | 0x7d :: rest => faultHere .trailingComma rest
      | _ :: rest => faultHere .nameNotString rest
    | _ :: rest => faultHere .expectedObjectEnd rest

/-- An object after its opening brace. -/
def readObject (readItem : Bytes → Reading Json) (rest : Bytes) : Except Fault (Json × Bytes) :=
  match skipSpace rest with
  | [] => faultNext .endInObject []
  | 0x7d :: rest => .ok (.object [], rest)
  | 0x22 :: rest => do
    let (member, rest) ← readMember readItem rest
    let (members, rest) ← readMembers readItem (rest.length + 1) [member] rest
    return (ofMembers members, rest)
  | _ :: rest => faultHere .nameNotString rest

/-- A value, with what is left of the nesting. -/
def readValue : Nat → Bytes → Except Fault (Json × Bytes)
  | depth, rest =>
    match skipSpace rest with
    | [] => faultNext .endInValue []
    | b :: rest =>
      match Char.ofNat b.toNat with
      | 'n' => do let ((), rest) ← readWord [0x75, 0x6c, 0x6c] rest; return (.null, rest)
      | 't' => do let ((), rest) ← readWord [0x72, 0x75, 0x65] rest; return (.bool true, rest)
      | 'f' => do
        let ((), rest) ← readWord [0x61, 0x6c, 0x73, 0x65] rest
        return (.bool false, rest)
      | '\"' => do let (s, rest) ← readString rest; return (.string s, rest)
      | '[' =>
        match depth with
        | 0 => faultHere .nestingTooDeep rest
        | depth + 1 => readArray (readValue depth) rest
      | '\x7b' =>
        match depth with
        | 0 => faultHere .nestingTooDeep rest
        | depth + 1 => readObject (readValue depth) rest
      | _ =>
        if isDigit b || b == 0x2d then do
          let (n, rest) ← readNumber (b :: rest)
          return (.number n, rest)
        else faultHere .expectedValue rest

/-- How deep arrays and objects may nest. -/
def maxDepth : Nat := 127

/-- A whole text as one value: nothing but blanks may follow. -/
def readAll {α : Type} (read : Bytes → Reading α) (text : Bytes) : Except Error α :=
  let outcome : Except Fault α := do
    let (value, rest) ← read text
    match skipSpace rest with
    | [] => return value
    | _ :: rest => faultHere .trailingCharacters rest
  outcome.mapError (Fault.locate text)

/-- The document that a text holds. -/
def ofBytes (text : Bytes) : Except Error Json := readAll (readValue maxDepth) text

end MqttConformance.Json
