import MqttConformance.Text.Utf8

/-!
File paths: byte strings whose parts are separated by slashes. Joining keeps the text of both sides,
so that a path is shown and opened as it was written; an absolute right side replaces the left one.
-/

namespace MqttConformance

/-- A file path, which need not be text. -/
structure Path where
  bytes : Bytes
  deriving DecidableEq, Repr

namespace Path

def slash : UInt8 := 0x2f

def ofText (s : String) : Path := ⟨Utf8.encode s⟩

/-- The path as text, with U+FFFD for what is not. -/
def toTextLossy (p : Path) : String := Utf8.decodeLossy p.bytes

def isAbsolute (p : Path) : Bool := p.bytes.head? == some slash

def endsWithSlash (p : Path) : Bool := p.bytes.getLast? == some slash

/-- The path without the slashes at its end; the root stays. -/
def withoutSlashes (p : Path) : Path :=
  match p.bytes.reverse.dropWhile (· == slash) with
  | [] => ⟨p.bytes.take 1⟩
  | reversed => ⟨reversed.reverse⟩

/-- `q` taken from the directory `p`. -/
def join (p q : Path) : Path :=
  if q.isAbsolute then q
  else if p.bytes.isEmpty || p.endsWithSlash then ⟨p.bytes ++ q.bytes⟩
  else ⟨p.bytes ++ slash :: q.bytes⟩

/-- The parts between slashes, empty ones included. -/
def splitSlash : Bytes → List Bytes
  | [] => [[]]
  | b :: rest =>
    if b = slash then [] :: splitSlash rest
    else
      match splitSlash rest with
      | [] => [[b]]
      | part :: parts => (b :: part) :: parts

def dot : Bytes := [0x2e]

def dotDot : Bytes := [0x2e, 0x2e]

/-- Whether a part leads anywhere: repeated slashes do not, and neither does a dot. -/
def counts (part : Bytes) : Bool := !part.isEmpty && part != dot

/-- The parts that lead somewhere, and a dot with which a relative path starts. -/
def parts (p : Path) : List Bytes :=
  match splitSlash p.bytes with
  | [] => []
  | first :: rest =>
    let rest := rest.filter counts
    if first.isEmpty then rest else first :: rest

/-- The last part, if it names a file. -/
def fileName? (p : Path) : Option Bytes :=
  match p.parts.getLast? with
  | some name => if name = dot ∨ name = dotDot then none else some name
  | none => none

/-- Parts with slashes between them. -/
def joinSlash (parts : List Bytes) : Bytes := (parts.intersperse [slash]).flatten

/-- The path with the given parts. -/
def ofParts (absolute : Bool) (names : List Bytes) : Path :=
  ⟨if absolute then slash :: joinSlash names else joinSlash names⟩

/-- The path without its last part, as it is written up to the part before. -/
def parent? (p : Path) : Option Path :=
  match splitSlash p.bytes with
  | [] => none
  | first :: rest =>
    match rest.reverse.dropWhile (!counts ·) with
    | [] => if first.isEmpty then none else some ⟨[]⟩
    | _ :: above =>
      match (above.dropWhile (!counts ·)).reverse with
      | [] => some ⟨if first.isEmpty then [slash] else first⟩
      | names => some ⟨joinSlash (first :: names)⟩

end Path

end MqttConformance
