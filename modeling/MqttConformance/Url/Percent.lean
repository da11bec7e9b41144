import MqttConformance.Text.Utf8

/-!
Percent-encoding. Each component of a URL has its set of ASCII characters that are encoded;
characters beyond ASCII and controls always are, byte by byte. Decoding takes every complete escape
and leaves the rest alone.
-/

namespace MqttConformance.Url

/-- A component of a URL, by the characters that it encodes. -/
inductive Component where
  | controls
  | fragment
  | query
  | specialQuery
  | path
  | userinfo
  | segment
  | specialSegment
  deriving DecidableEq, Repr

namespace Component

def inFragmentSet (c : Char) : Bool :=
  c == ' ' || c == '\"' || c == '<' || c == '>' || c.toNat == 0x60

def inQuerySet (c : Char) : Bool := c == ' ' || c == '\"' || c == '#' || c == '<' || c == '>'

def inPathSet (c : Char) : Bool :=
  inFragmentSet c || c == '#' || c == '?' || c == '\x7b' || c == '\x7d'

def inUserinfoSet (c : Char) : Bool :=
  inPathSet c || c == '/' || c == ':' || c == ';' || c == '=' || c == '@' || c == '[' ||
    c == '\\' || c == ']' || c == '^' || c == '|'

/-- Whether the component encodes a character. -/
def encodes (component : Component) (c : Char) : Bool :=
  c.toNat < 0x20 || 0x7f ≤ c.toNat ||
    match component with
    | controls => false
    | fragment => inFragmentSet c
    | query => inQuerySet c
    | specialQuery => inQuerySet c || c == '\''
    | path => inPathSet c
    | userinfo => inUserinfoSet c
    | segment => inPathSet c || c == '/' || c == '%'
    | specialSegment => inPathSet c || c == '/' || c == '%' || c == '\\'

end Component

def upperHexDigit (n : Nat) : Char := (Nat.digitChar n).toUpper

/-- A byte as an escape. -/
def escapeByte (b : UInt8) : List Char :=
  ['%', upperHexDigit (b.toNat / 16), upperHexDigit (b.toNat % 16)]

def percentEncodeChar (component : Component) (c : Char) : List Char :=
  if component.encodes c then (Utf8.encodeChar c).flatMap escapeByte else [c]

/-- A text as it stands in a component. -/
def percentEncode (component : Component) (cs : List Char) : List Char :=
  cs.flatMap (percentEncodeChar component)

def hexDigit? (b : UInt8) : Option Nat :=
  if 0x30 ≤ b ∧ b ≤ 0x39 then some (b.toNat - 0x30)
  else if 0x41 ≤ b ∧ b ≤ 0x46 then some (b.toNat - 0x41 + 10)
  else if 0x61 ≤ b ∧ b ≤ 0x66 then some (b.toNat - 0x61 + 10)
  else none

/-- The bytes with every complete escape replaced by its byte. -/
def percentDecode : Bytes → Bytes
  | 0x25 :: a :: b :: rest =>
    match hexDigit? a, hexDigit? b with
    | some x, some y => (x * 16 + y).toUInt8 :: percentDecode rest
    | _, _ => 0x25 :: percentDecode (a :: b :: rest)
  | b :: rest => b :: percentDecode rest
  | [] => []
termination_by bytes => bytes.length

end MqttConformance.Url
