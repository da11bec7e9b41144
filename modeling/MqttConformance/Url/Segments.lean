import MqttConformance.Url.Basic

/-!
Building a path segment by segment. A double-dot segment takes the last segment away, a single dot
adds nothing, and any other segment is added. Tabs and line breaks are dropped before a segment is
looked at. Drive letters at the start of a path are not taken away.
-/

namespace MqttConformance.Url

def isTabOrNewline (c : Char) : Bool := c == '\t' || c == '\n' || c == '\r'

/-- A single dot, perhaps escaped. -/
def isSingleDot (segment : List Char) : Bool :=
  match segment with
  | ['.'] | ['%', '2', 'e'] | ['%', '2', 'E'] => true
  | _ => false

/-- Two dots, each perhaps escaped. -/
def isDoubleDot (segment : List Char) : Bool :=
  match segment with
  | '.' :: rest => isSingleDot rest
  | '%' :: '2' :: 'e' :: rest => isSingleDot rest
  | '%' :: '2' :: 'E' :: rest => isSingleDot rest
  | _ => false

/-- A text that starts with a drive letter and nothing more before the next delimiter. -/
def startsWithDrive : List Char → Bool
  | a :: b :: rest =>
    a.isAlpha && (b == ':' || b == '|') &&
      match rest with
      | [] => true
      | c :: _ => c == '/' || c == '\\' || c == '?' || c == '#'
  | _ => false

def isDrive (segment : List Char) : Bool := segment.length == 2 && startsWithDrive segment

def endsWithSlash (path : List Char) : Bool := path.getLast? == some '/'

/-- What follows the last slash. -/
def lastSegment (path : List Char) : List Char := (path.reverse.takeWhile (· != '/')).reverse

/-- The path up to and including its last slash. -/
def upToLastSlash (path : List Char) : List Char := (path.reverse.dropWhile (· != '/')).reverse

/-- Whether the slash at the end of a path only separates: it is not the first slash, and no drive
letter stands before it. -/
def lastSlashRemovable (path : List Char) : Bool :=
  let before := path.dropLast
  before.contains '/' && !startsWithDrive ((lastSegment before) ++ ['/'])

/-- Takes the last segment away, unless a file path ends with a drive letter. -/
def popSegment (kind : SchemeKind) (path : List Char) : List Char :=
  if kind == .file && isDrive (lastSegment path) then path else upToLastSlash path

/-- Adds an encoded segment, which a slash follows or not, to a path that ends with a slash. -/
def addSegment (kind : SchemeKind) (path segment : List Char) (slash : Bool) : List Char :=
  let ending := if slash then ['/'] else []
  if isDoubleDot segment then
    let path := if endsWithSlash path && lastSlashRemovable path then path.dropLast else path
    let path := popSegment kind path
    if slash && !endsWithSlash path then path ++ ['/'] else path
  else if isSingleDot segment then
    if endsWithSlash path then path else path ++ ['/']
  else if kind == .file && path.length == 1 && isDrive segment then
    path ++ segment.take 1 ++ [':'] ++ ending
  else path ++ segment ++ ending

/-- A file path has one slash in front. -/
def normalizeFile (kind : SchemeKind) (path : List Char) : List Char :=
  if kind == .file then '/' :: path.dropWhile (· == '/') else path

/-- A path without the empty segment at its end. -/
def dropEmptySegment (path : List Char) : List Char :=
  if endsWithSlash (path.drop 1) then path.dropLast else path

/-- Adds a segment given as text. Dots alone are skipped. -/
def pushSegment (kind : SchemeKind) (path : List Char) (segment : String) : List Char :=
  if segment = "." ∨ segment = ".." then path
  else
    let path := if path.length = 1 then path else path ++ ['/']
    let component := if kind.isSpecial then Component.specialSegment else .segment
    let text := percentEncode component (segment.toList.filter (!isTabOrNewline ·))
    normalizeFile kind (addSegment kind path text false)

/-- The URL with segments added to its path, if it has one that takes segments. -/
def extend? (u : Url) (segments : List String) : Option Url :=
  match u.path with
  | .opaquePath _ => none
  | .segments path =>
    some { u with path := .segments (segments.foldl (pushSegment u.kind) (dropEmptySegment path)) }

end MqttConformance.Url
