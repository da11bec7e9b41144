import MqttConformance.Text.Composed
import MqttConformance.Text.Utf8
import MqttConformance.Url.Direction
import MqttConformance.Url.DomainFold
import MqttConformance.Url.Joiner
import MqttConformance.Url.Punycode

/-!
Domain names in their ASCII form. Every character is folded and the text composed; a label with
characters beyond ASCII is written in Punycode behind the marker `xn--`, and a label that has the
marker already must decode to characters that folding and composing leave alone. Controls, blanks
and delimiters may not occur, and labels have to be readable.
-/

namespace MqttConformance.Url.Domain

/-- The ASCII characters that no domain holds. -/
def isForbidden (c : Char) : Bool :=
  c.toNat ≤ 0x20 || c.toNat == 0x7f || c == '%' || c == '#' || c == '/' || c == ':' || c == '<' ||
    c == '>' || c == '?' || c == '@' || c == '[' || c == '\\' || c == ']' || c == '^' || c == '|'

/-- What a character folds to; `none` when no domain can hold it. -/
def fold? (c : Char) : Option (List Char) :=
  let n := c.toNat
  if Text.inRanges foldRefused n then none
  else if Text.inRanges foldIgnored n then some []
  else
    match foldSequences.find? (·.1 == n) with
    | some (_, ns) => some (ns.map Char.ofNat)
    | none =>
      match foldRuns.find? fun r => r.first ≤ n && n ≤ r.last && (n - r.first) % r.step == 0 with
      | some r => some [Char.ofNat (r.target + (n - r.first))]
      | none => some [c]

/-- The folded and composed form of a text. -/
def normalize? (cs : List Char) : Option (List Char) := do
  let folded ← cs.mapM fold?
  return Text.composed folded.flatten

/-- The labels between dots. -/
def labels : List Char → List (List Char)
  | [] => [[]]
  | c :: cs =>
    if c = '.' then [] :: labels cs
    else
      match labels cs with
      | [] => [[c]]
      | label :: rest => (c :: label) :: rest

def marker : List Char := ['x', 'n', '-', '-']

def isAscii (cs : List Char) : Bool := cs.all (·.toNat < 0x80)

/-- Whether a label that folding leaves alone can be read: no mark comes first, and joiners are
where they belong. -/
def isReadable (label : List Char) : Bool :=
  !((label.head?.map Text.isMark).getD false) && joinersFit label

/-- The characters that a label stands for. -/
def decodeLabel? (label : List Char) : Option (List Char) :=
  if marker.isPrefixOf label then do
    let decoded ← Punycode.decode? (label.drop 4)
    if normalize? decoded == some decoded && !decoded.any isForbidden && !decoded.contains '.' &&
        !isAscii decoded && isReadable decoded then some decoded
    else none
  else if isReadable label then some label
  else none

/-- A label in its ASCII form. -/
def encodeLabel (label : List Char) : List Char :=
  if isAscii label then label else marker ++ Punycode.encode label

/-- The ASCII form of a domain given in bytes. -/
def toAscii? (bytes : Bytes) : Option (List Char) := do
  let text ← normalize? (← Utf8.decodeChars? bytes)
  if text.any isForbidden then none
  let decoded ← (labels text).mapM decodeLabel?
  if decoded.any hasRightToLeft && !decoded.all runsOneWay then none
  return ((labels text).map encodeLabel |>.intersperse ['.']).flatten

end MqttConformance.Url.Domain
