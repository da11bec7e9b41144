import MqttConformance.Url.Domain
import MqttConformance.Url.Segments

/-!
Reading an absolute URL. Controls and blanks around the text are dropped, and tabs and line breaks
anywhere in it. What follows the scheme depends on its kind: the special schemes always have a host,
a file has one or none, and any other scheme may have a host, a path alone, or an opaque path.
-/

namespace MqttConformance.Url

/-- The text without controls and blanks around it, and without tabs and line breaks in it. -/
def cleaned (s : String) : List Char :=
  let outside (c : Char) : Bool := c.toNat ≤ 0x20
  (((s.toList.dropWhile outside).reverse.dropWhile outside).reverse).filter (!isTabOrNewline ·)

/-- Splits off the scheme, in lower case. -/
def splitScheme (cs : List Char) : Option (String × List Char) :=
  let isPart (c : Char) : Bool := c.isAlphanum || c == '+' || c == '-' || c == '.'
  let name := cs.takeWhile isPart
  match cs.dropWhile isPart, name with
  | ':' :: rest, first :: _ =>
    if first.isAlpha then some (String.ofList (name.map Char.toLower), rest) else none
  | _, _ => none

def isSlash (kind : SchemeKind) (c : Char) : Bool := c == '/' || (kind.isSpecial && c == '\\')

/-- The end of the authority. -/
def endsAuthority (kind : SchemeKind) (c : Char) : Bool := isSlash kind c || c == '?' || c == '#'

/-- A host of a special scheme: an address in brackets, an address in parts, or a domain. -/
def specialHost (cs : List Char) : Except Fault Host :=
  if cs.head? == some '[' then
    if cs.getLast? == some ']' then
      match Ipv6.ofText? (cs.drop 1).dropLast with
      | some pieces => .ok (.ipv6 pieces)
      | none => .error .invalidIpv6
    else .error .invalidIpv6
  else
    match Domain.toAscii? (percentDecode (Utf8.encodeChars cs)) with
    | none => .error .invalidDomain
    | some [] => .error .emptyHost
    | some name =>
      if Ipv4.endsInNumber name then
        match Ipv4.ofHost? name with
        | some address => .ok (.ipv4 address)
        | none => .error .invalidIpv4
      else .ok (.domain name)

def isForbiddenInHost (c : Char) : Bool :=
  c.toNat == 0 || c == '\t' || c == '\n' || c == '\r' || c == ' ' || c == '#' || c == '/' ||
    c == ':' || c == '<' || c == '>' || c == '?' || c == '@' || c == '[' || c == '\\' || c == ']' ||
    c == '^' || c == '|'

/-- A host of any other scheme, which is kept as it is. -/
def otherHost (cs : List Char) : Except Fault Host :=
  if cs.head? == some '[' then specialHost cs
  else if cs.any isForbiddenInHost then .error .invalidDomainCharacter
  else .ok (.domain (percentEncode .controls cs))

/-- Splits the authority from what follows it, and the user from the host. -/
def splitUserinfo (kind : SchemeKind) (cs : List Char) : Option (List Char) × List Char :=
  let authority := cs.takeWhile (!endsAuthority kind ·)
  if authority.contains '@' then
    let host := (authority.reverse.takeWhile (· != '@')).reverse
    let user := authority.take (authority.length - host.length - 1)
    (some user, cs.drop (user.length + 1))
  else (none, cs)

/-- User and password as they stand in a URL; an empty password leaves no colon. -/
def renderUserinfo (user : List Char) : Option (List Char) :=
  let name := percentEncode .userinfo (user.takeWhile (· != ':'))
  let password := percentEncode .userinfo ((user.dropWhile (· != ':')).drop 1)
  if name.isEmpty && password.isEmpty then none
  else some (if password.isEmpty then name else name ++ ':' :: password)

/-- Splits off the host: it ends at a colon outside brackets, or with the authority. -/
def splitHost (kind : SchemeKind) : Bool → List Char → List Char × List Char
  | _, [] => ([], [])
  | inBrackets, c :: cs =>
    if (c == ':' && !inBrackets) || endsAuthority kind c then ([], c :: cs)
    else
      let inBrackets := if c == '[' then true else if c == ']' then false else inBrackets
      let (host, rest) := splitHost kind inBrackets cs
      (c :: host, rest)

/-- Reads the digits of a port onto `port`. -/
def readPort : Nat → Bool → List Char → Except Fault (Option Nat × List Char)
  | port, some?, [] => .ok (if some? then some port else none, [])
  | port, some?, c :: cs =>
    if c.isDigit then
      let port := port * 10 + (c.toNat - 0x30)
      if 65535 < port then .error .invalidPort else readPort port true cs
    else if c == '/' || c == '\\' || c == '?' || c == '#' then
      .ok (if some? then some port else none, c :: cs)
    else .error .invalidPort

/-- Splits off one segment: its characters, whether a slash ends it, and what follows. -/
def takeSegment (kind : SchemeKind) (cs : List Char) : List Char × Bool × List Char :=
  let segment := cs.takeWhile (!endsAuthority kind ·)
  match cs.dropWhile (!endsAuthority kind ·) with
  | [] => (segment, false, [])
  | c :: rest => if isSlash kind c then (segment, true, rest) else (segment, false, c :: rest)

theorem length_takeSegment_lt (kind : SchemeKind) (cs : List Char)
    (h : (takeSegment kind cs).2.1 = true) : (takeSegment kind cs).2.2.length < cs.length := by
  have hle := (List.dropWhile_suffix (l := cs) (fun c => !endsAuthority kind c)).length_le
  unfold takeSegment at h ⊢
  dsimp only at h ⊢
  split
  · next heq => rw [heq] at h; simp at h
  · next c rest heq =>
    rw [heq] at hle h
    simp only at h
    split at h
    · next hc => simp only [hc, if_true, List.length_cons] at hle ⊢; omega
    · simp at h

/-- Reads segments onto a path, up to a query or fragment. -/
def readSegments (kind : SchemeKind) (path cs : List Char) : List Char × List Char :=
  let next := takeSegment kind cs
  let path := addSegment kind path (percentEncode .path next.1) next.2.1
  if _h : (takeSegment kind cs).2.1 = true then readSegments kind path next.2.2
  else (path, next.2.2)
termination_by cs.length
decreasing_by exact length_takeSegment_lt kind cs _h

/-- A path of segments. -/
def readPath (kind : SchemeKind) (path cs : List Char) : List Char × List Char :=
  let (path, rest) := readSegments kind path cs
  (normalizeFile kind path, rest)

/-- The path after an authority. -/
def readPathStart (kind : SchemeKind) (cs : List Char) : List Char × List Char :=
  match cs with
  | [] => if kind.isSpecial then readPath kind ['/'] [] else ([], [])
  | c :: rest =>
    if isSlash kind c then readPath kind ['/'] rest
    else if c == '?' || c == '#' then
      if kind.isSpecial then readPath kind ['/'] cs else ([], cs)
    else readPath kind ['/'] cs

/-- Query and fragment, each up to its end. -/
def readQueryFragment (kind : SchemeKind) (cs : List Char) :
    Option (List Char) × Option (List Char) :=
  let component := if kind.isSpecial then Component.specialQuery else .query
  match cs with
  | '?' :: rest =>
    let query := percentEncode component (rest.takeWhile (· != '#'))
    match rest.dropWhile (· != '#') with
    | _ :: fragment => (some query, some (percentEncode .fragment fragment))
    | [] => (some query, none)
  | '#' :: fragment => (none, some (percentEncode .fragment fragment))
  | _ => (none, none)

/-- The URL with path, query and fragment read from what follows the authority. -/
def finish (scheme : String) (userinfo : Option (List Char)) (host : Option Host)
    (port : Option Nat) (path : PathText) (rest : List Char) : Url :=
  let (query, fragment) := readQueryFragment (.ofScheme scheme) rest
  { scheme, userinfo, host, port, path, query, fragment }

/-- The host of an authority; a special scheme needs one. -/
def readHost (kind : SchemeKind) (cs : List Char) : Except Fault Host :=
  if !kind.isSpecial then otherHost cs
  else if cs.isEmpty then .error .emptyHost
  else specialHost cs

/-- The port behind a colon, if there is one. -/
def readPortPart : List Char → Except Fault (Option Nat × List Char)
  | ':' :: rest => readPort 0 false rest
  | rest => .ok (none, rest)

/-- The URL with a port and what follows it; the port that the scheme has anyway is left out. -/
def finishPort (scheme : String) (userinfo : Option (List Char)) (host : Host) (port : Option Nat)
    (rest : List Char) : Url :=
  let port := if port = defaultPort? scheme then none else port
  let (path, rest) := readPathStart (.ofScheme scheme) rest
  finish scheme userinfo (some host) port (.segments path) rest

/-- A URL after the two slashes in front of its authority. -/
def readAuthority (scheme : String) (cs : List Char) : Except Fault Url :=
  let kind := SchemeKind.ofScheme scheme
  let (user, rest) := splitUserinfo kind cs
  let userinfo := user.bind renderUserinfo
  let (hostText, after) := splitHost kind false rest
  if user = some [] ∧ (rest.head?.any (endsAuthority kind)) then .error .emptyHost
  else
    match readHost kind hostText with
    | .error fault => .error fault
    | .ok host =>
      if hostText.isEmpty && (after.head? == some ':' || userinfo.isSome) then .error .emptyHost
      else
        match readPortPart after with
        | .error fault => .error fault
        | .ok (port, rest) => .ok (finishPort scheme userinfo host port rest)

/-- The host of a file URL; this computer needs no name, and a drive letter is no host. -/
def readFileHost (cs : List Char) : Except Fault (Option Host × List Char) := do
  let text := cs.takeWhile (!endsAuthority .file ·)
  if isDrive text then return (none, cs)
  let rest := cs.drop text.length
  if text.isEmpty then return (some (.domain []), rest)
  match ← specialHost text with
  | .domain name =>
    return (some (.domain (if name = "localhost".toList then [] else name)), rest)
  | host => return (some host, rest)

/-- A file URL without a host, or with none that has a name. -/
def readPlainFile (cs : List Char) : Url :=
  let (path, rest) := readPath .file ['/'] cs
  finish "file" none (some (.domain [])) none (.segments path) rest

/-- A file URL after its host, which does not count before a drive letter. -/
def readFilePath (host : Host) (cs : List Char) : Url :=
  let (path, rest) := readPathStart .file cs
  let first := (cs.drop 1).takeWhile (!endsAuthority .file ·)
  let startsWithSlash := cs.head?.any (isSlash .file)
  let host := if startsWithSlash && isDrive first then .domain [] else host
  finish "file" none (some host) none (.segments path) rest

/-- A file URL after its scheme. -/
def readFile (cs : List Char) : Except Fault Url :=
  match cs with
  | a :: b :: rest =>
    if isSlash .file a && isSlash .file b then
      match readFileHost rest with
      | .error fault => .error fault
      | .ok (none, rest) => .ok (readPlainFile rest)
      | .ok (some host, rest) => .ok (readFilePath host rest)
    else .ok (readPlainFile (if isSlash .file a then b :: rest else cs))
  | cs => .ok (readPlainFile (cs.dropWhile (isSlash .file)))

/-- A URL of any other scheme, after the scheme. -/
def readOther (scheme : String) (cs : List Char) : Except Fault Url :=
  match cs with
  | '/' :: '/' :: rest => readAuthority scheme rest
  | '/' :: rest =>
    let (path, rest) := readPath .other ['/'] rest
    .ok (finish scheme none none none (.segments path) rest)
  | cs =>
    let isEnd (c : Char) : Bool := c == '?' || c == '#'
    let path := percentEncode .controls (cs.takeWhile (!isEnd ·))
    .ok (finish scheme none none none (.opaquePath path) (cs.dropWhile (!isEnd ·)))

/-- The URL that a text denotes without a base. -/
def ofText (s : String) : Except Fault Url :=
  match splitScheme (cleaned s) with
  | none => .error .relativeWithoutBase
  | some (scheme, rest) =>
    match SchemeKind.ofScheme scheme with
    | .file => readFile rest
    | .special => readAuthority scheme (rest.dropWhile (isSlash .special))
    | .other => readOther scheme rest

end MqttConformance.Url
