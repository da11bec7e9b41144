/-!
UTF-8 over lists of bytes. `pieces` cuts a byte string into characters and maximal ill-formed runs;
strict decoding refuses the runs, lenient decoding puts one replacement character for each.
-/

namespace MqttConformance

/-- A byte string. -/
abbrev Bytes := List UInt8

/-- A cut of a byte string: a well-formed character, or the longest start of one that breaks off. -/
inductive Utf8.Piece where
  | char (c : Char)
  | illFormed (bytes : Bytes)
  deriving DecidableEq, Repr

namespace Utf8

/-- What a lead byte asks for: how many bytes follow, and the range of the first of them. -/
def lead? (b : UInt8) : Option (Nat × UInt8 × UInt8) :=
  if b < 0xc2 then none
  else if b ≤ 0xdf then some (1, 0x80, 0xbf)
  else if b == 0xe0 then some (2, 0xa0, 0xbf)
  else if b == 0xed then some (2, 0x80, 0x9f)
  else if b ≤ 0xef then some (2, 0x80, 0xbf)
  else if b == 0xf0 then some (3, 0x90, 0xbf)
  else if b ≤ 0xf3 then some (3, 0x80, 0xbf)
  else if b == 0xf4 then some (3, 0x80, 0x8f)
  else none

def isTail (b : UInt8) : Bool := 0x80 ≤ b && b ≤ 0xbf

/-- The payload of a byte after the lead. -/
def low6 (b : UInt8) : Nat := b.toNat % 64

/-- The first piece of a byte string that starts with `b`, and the bytes after it. -/
def firstPiece (b : UInt8) (rest : Bytes) : Piece × Bytes :=
  if b < 0x80 then (.char (Char.ofNat b.toNat), rest)
  else
    match lead? b with
    | none => (.illFormed [b], rest)
    | some (tails, lo, hi) =>
      match rest with
      | [] => (.illFormed [b], [])
      | t₁ :: r₁ =>
        if !(lo ≤ t₁ && t₁ ≤ hi) then (.illFormed [b], rest)
        else if tails == 1 then (.char (Char.ofNat (b.toNat % 32 * 64 + low6 t₁)), r₁)
        else
          match r₁ with
          | [] => (.illFormed [b, t₁], [])
          | t₂ :: r₂ =>
            if !isTail t₂ then (.illFormed [b, t₁], r₁)
            else if tails == 2 then
              (.char (Char.ofNat (b.toNat % 16 * 4096 + low6 t₁ * 64 + low6 t₂)), r₂)
            else
              match r₂ with
              | [] => (.illFormed [b, t₁, t₂], [])
              | t₃ :: r₃ =>
                if !isTail t₃ then (.illFormed [b, t₁, t₂], r₂)
                else
                  (.char (Char.ofNat
                    (b.toNat % 8 * 262144 + low6 t₁ * 4096 + low6 t₂ * 64 + low6 t₃)), r₃)

theorem length_firstPiece_le (b : UInt8) (rest : Bytes) :
    (firstPiece b rest).2.length ≤ rest.length := by
  unfold firstPiece
  repeat' split
  all_goals simp only [List.length_cons, List.length_nil, Nat.le_refl] <;> omega

/-- A byte string as its characters and ill-formed runs, in order. -/
def pieces : Bytes → List Piece
  | [] => []
  | b :: rest => (firstPiece b rest).1 :: pieces (firstPiece b rest).2
termination_by bytes => bytes.length
decreasing_by
  have := length_firstPiece_le b rest
  simp only [List.length_cons]
  omega

/-- The characters of a well-formed byte string. -/
def decodeChars? (bytes : Bytes) : Option (List Char) :=
  (pieces bytes).mapM fun
    | .char c => some c
    | .illFormed _ => none

/-- The text of a well-formed byte string. -/
def decode? (bytes : Bytes) : Option String := (decodeChars? bytes).map String.ofList

/-- The text of any byte string, with U+FFFD for each ill-formed run. -/
def decodeLossy (bytes : Bytes) : String :=
  String.ofList <| (pieces bytes).map fun
    | .char c => c
    | .illFormed _ => '\uFFFD'

/-- The bytes of a character. -/
def encodeChar (c : Char) : Bytes :=
  let n := c.toNat
  if n < 0x80 then [n.toUInt8]
  else if n < 0x800 then [(0xc0 + n / 64).toUInt8, (0x80 + n % 64).toUInt8]
  else if n < 0x10000 then
    [(0xe0 + n / 4096).toUInt8, (0x80 + n / 64 % 64).toUInt8, (0x80 + n % 64).toUInt8]
  else
    [(0xf0 + n / 262144).toUInt8, (0x80 + n / 4096 % 64).toUInt8, (0x80 + n / 64 % 64).toUInt8,
      (0x80 + n % 64).toUInt8]

def encodeChars (cs : List Char) : Bytes := cs.flatMap encodeChar

/-- The bytes of a text. -/
def encode (s : String) : Bytes := encodeChars s.toList

@[simp] theorem encodeChars_nil : encodeChars [] = [] := rfl

@[simp] theorem encodeChars_cons (c : Char) (cs : List Char) :
    encodeChars (c :: cs) = encodeChar c ++ encodeChars cs := rfl

@[simp] theorem pieces_nil : pieces [] = [] := by simp [pieces]

theorem pieces_cons (b : UInt8) (rest : Bytes) :
    pieces (b :: rest) = (firstPiece b rest).1 :: pieces (firstPiece b rest).2 := by
  rw [pieces]

end Utf8

end MqttConformance
