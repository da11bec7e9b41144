import MqttConformance.Json.Reader

/-!
Skipping values that nobody asks for. A skipped value is checked for its shape only: its strings may
hold any bytes but controls, its numbers may be out of range, and it may nest to any depth.
-/

namespace MqttConformance.Json

/-- An open bracket around the value being skipped. -/
inductive Frame where
  | list
  | object
  deriving DecidableEq, Repr

namespace Frame

def closing : Frame → UInt8
  | list => 0x5d
  | object => 0x7d

def endCause : Frame → Cause
  | list => .endInList
  | object => .endInObject

def expectedCause : Frame → Cause
  | list => .expectedListEnd
  | object => .expectedObjectEnd

end Frame

/-- The part after the letter `e`. -/
def skipExponent (rest : Bytes) : Except Fault Bytes :=
  let rest :=
    match rest with
    | 0x2b :: rest | 0x2d :: rest => rest
    | rest => rest
  match rest with
  | [] => faultHere .invalidNumber []
  | b :: rest => if isDigit b then .ok (rest.dropWhile isDigit) else faultHere .invalidNumber rest

/-- What may follow the last digit in front of an exponent. -/
def skipTail (rest : Bytes) : Except Fault Bytes :=
  match rest with
  | 0x65 :: rest | 0x45 :: rest => skipExponent rest
  | rest => .ok rest

/-- The part after the whole digits. -/
def skipFraction (rest : Bytes) : Except Fault Bytes :=
  match rest with
  | 0x2e :: rest =>
    if startsWithDigit rest then skipTail (rest.dropWhile isDigit)
    else faultNext .invalidNumber rest
  | rest => skipTail rest

/-- A number after its sign. -/
def skipUnsigned (rest : Bytes) : Except Fault Bytes :=
  match rest with
  | [] => faultHere .invalidNumber []
  | b :: rest =>
    if b = 0x30 then
      if startsWithDigit rest then faultNext .invalidNumber rest else skipFraction rest
    else if isDigit b then skipFraction (rest.dropWhile isDigit)
    else faultHere .invalidNumber rest

/-- An escape after its backslash. Any four hexadecimal digits will do. -/
def skipEscape (rest : Bytes) : Except Fault Bytes :=
  match rest with
  | [] => faultHere .endInString []
  | b :: rest =>
    match Char.ofNat b.toNat with
    | '\"' | '\\' | '/' | 'b' | 'f' | 'n' | 'r' | 't' => .ok rest
    | 'u' => do
      let (_, rest) ← readHex4 rest
      return rest
    | _ => faultHere .invalidEscape rest

/-- A string after its opening quote. A control is reported at the byte before it. The fuel is the
number of bytes. -/
def skipString : Nat → Bytes → Except Fault Bytes
  | 0, rest => faultHere .endInString rest
  | _ + 1, [] => faultHere .endInString []
  | fuel + 1, b :: rest =>
    if b = 0x22 then .ok rest
    else if b = 0x5c then do skipString fuel (← skipEscape rest)
    else if b < 0x20 then faultHere .controlCharacter (b :: rest)
    else skipString fuel rest

/-- The name of a member and the colon after it. -/
def skipName (rest : Bytes) : Except Fault Bytes :=
  match skipSpace rest with
  | [] => faultNext .endInObject []
  | 0x22 :: rest => do
    let rest ← skipString (rest.length + 1) rest
    match skipSpace rest with
    | [] => faultNext .endInObject []
    | 0x3a :: rest => .ok rest
    | rest => faultNext .expectedColon rest
  | rest => faultNext .nameNotString rest

/-- What follows a complete value inside `frames`: their closing brackets, up to a comma or the end
of the outermost one. Returns the frames that stay open. -/
def closeFrames : List Frame → Bytes → Except Fault (List Frame × Bytes)
  | [], rest => .ok ([], rest)
  | frame :: frames, rest =>
    match skipSpace rest with
    | [] => faultNext frame.endCause []
    | b :: after =>
      if b = 0x2c then .ok (frame :: frames, after)
      else if b = frame.closing then closeFrames frames after
      else faultNext frame.expectedCause (b :: after)

/-- What follows an opening bracket. -/
def openFrame (frame : Frame) (frames : List Frame) (rest : Bytes) :
    Except Fault (List Frame × Bytes) :=
  match skipSpace rest with
  | [] => faultNext frame.endCause []
  | b :: after =>
    if b = frame.closing then closeFrames frames after else .ok (frame :: frames, b :: after)

/-- One opening bracket, or one complete value without brackets and what closes after it. -/
def skipToken (frames : List Frame) (rest : Bytes) : Except Fault (List Frame × Bytes) :=
  match skipSpace rest with
  | [] => faultNext .endInValue []
  | b :: rest =>
    match Char.ofNat b.toNat with
    | '[' => openFrame .list frames rest
    | '\x7b' => openFrame .object frames rest
    | 'n' => do let ((), rest) ← readWord [0x75, 0x6c, 0x6c] rest; closeFrames frames rest
    | 't' => do let ((), rest) ← readWord [0x72, 0x75, 0x65] rest; closeFrames frames rest
    | 'f' => do let ((), rest) ← readWord [0x61, 0x6c, 0x73, 0x65] rest; closeFrames frames rest
    | '\"' => do closeFrames frames (← skipString (rest.length + 1) rest)
    | '-' => do closeFrames frames (← skipUnsigned rest)
    | _ =>
      if isDigit b then do closeFrames frames (← skipUnsigned (b :: rest))
      else faultNext .expectedValue (b :: rest)

/-- Tokens until every frame is closed. The fuel is the number of bytes. -/
def skipTokens : Nat → List Frame → Bytes → Except Fault Bytes
  | 0, _, rest => faultHere .endInValue rest
  | fuel + 1, frames, rest => do
    let rest ← if frames.head? = some .object then skipName rest else .ok rest
    match ← skipToken frames rest with
    | ([], rest) => .ok rest
    | (frames, rest) => skipTokens fuel frames rest

/-- The text after one value. -/
def skipValue (rest : Bytes) : Except Fault Bytes := skipTokens (rest.length + 1) [] rest

end MqttConformance.Json
