import MqttConformance.Path
import MqttConformance.Text.Quoted

/-!
A file system as a tree of named nodes, and the operations of the client on it. Every operation
walks the path part by part: each part but the last has to be a directory, and two dots lead to the
parent. A node is a file or a directory: there are no links, so no two locations are one file, and
there are no permissions, so an operation is refused for what the tree holds only.
-/

namespace MqttConformance

/-- Why the system refused an operation. -/
inductive IoFault where
  | notFound
  | notDirectory
  | isDirectory
  | alreadyThere
  | nameTooLong
  | networkUnreachable
  | connectionRefused
  | nulInPath
  | other (text : String)
  deriving DecidableEq, Repr

def IoFault.message : IoFault → String
  | notFound => "No such file or directory (os error 2)"
  | alreadyThere => "File exists (os error 17)"
  | notDirectory => "Not a directory (os error 20)"
  | isDirectory => "Is a directory (os error 21)"
  | nameTooLong => "File name too long (os error 36)"
  | networkUnreachable => "Network is unreachable (os error 101)"
  | connectionRefused => "Connection refused (os error 111)"
  | nulInPath => "file name contained an unexpected NUL byte"
  | other text => text

/-- The fault as log records show it. -/
def IoFault.shown : IoFault → String
  | notFound => system 2 "NotFound" "No such file or directory"
  | alreadyThere => system 17 "AlreadyExists" "File exists"
  | notDirectory => system 20 "NotADirectory" "Not a directory"
  | isDirectory => system 21 "IsADirectory" "Is a directory"
  | nameTooLong => system 36 "InvalidFilename" "File name too long"
  | networkUnreachable => system 101 "NetworkUnreachable" "Network is unreachable"
  | connectionRefused => system 111 "ConnectionRefused" "Connection refused"
  | nulInPath =>
    "Error \x7b kind: InvalidInput, message: \"file name contained an unexpected NUL byte\" \x7d"
  | other text => "Custom \x7b kind: Other, error: " ++ Text.quote text ++ " \x7d"
where
  /-- A fault that the system numbers. -/
  system (code : Nat) (kind message : String) : String :=
    "Os \x7b code: " ++ toString code ++ ", kind: " ++ kind ++ ", message: " ++
      Text.quote message ++ " \x7d"

/-- What a name stands for: a file with its content, or a directory. -/
inductive Node where
  | file (content : Bytes)
  | directory
  deriving DecidableEq, Repr

/-- The names that lead from the root to a node. -/
abbrev Location := List Bytes

/-- The nodes of a tree by location, the latest entry first, and the working directory. The root is
always a directory. No node is a link to another, and none is protected. -/
structure FileSystem where
  nodes : List (Location × Node)
  workDir : Location
  deriving DecidableEq, Repr

namespace FileSystem

/-- The node at a location. -/
def node? (fs : FileSystem) (at_ : Location) : Option Node :=
  if at_ = [] then some .directory else (fs.nodes.find? (·.1 = at_)).map (·.2)

/-- The tree with a node put at a location. -/
def put (fs : FileSystem) (at_ : Location) (node : Node) : FileSystem :=
  { fs with nodes := (at_, node) :: fs.nodes.filter (·.1 ≠ at_) }

@[simp] theorem workDir_put (fs : FileSystem) (l : Location) (n : Node) :
    (fs.put l n).workDir = fs.workDir := rfl

theorem node?_put_of_ne {fs : FileSystem} {l m : Location} {n : Node} (h : m ≠ l) :
    (fs.put l n).node? m = fs.node? m := by
  unfold node? put
  split
  · rfl
  · simp only [List.find?_cons, Ne.symm h, decide_false]
    rw [List.find?_filter]
    congr 2
    funext p
    by_cases hp : p.1 = m <;> simp [hp, h]

theorem node?_put_self {fs : FileSystem} {l : Location} {n : Node} (h : l ≠ []) :
    (fs.put l n).node? l = some n := by
  simp [node?, put, h]

/-- The longest name, and the longest path with the byte that ends it. -/
def maxName : Nat := 255

def maxPath : Nat := 4096

/-- One part further from a location. -/
def step (fs : FileSystem) (from_ : Location) (part : Bytes) : Except IoFault Location :=
  match fs.node? from_ with
  | none => .error .notFound
  | some (.file _) => .error .notDirectory
  | some .directory =>
    if part.isEmpty || part = Path.dot then .ok from_
    else if part = Path.dotDot then .ok from_.dropLast
    else if maxName < part.length then .error .nameTooLong
    else .ok (from_ ++ [part])

def walk (fs : FileSystem) : Location → List Bytes → Except IoFault Location
  | at_, [] => .ok at_
  | at_, part :: parts =>
    match fs.step at_ part with
    | .ok next => fs.walk next parts
    | .error fault => .error fault

/-- The location that a path leads to, whether something is there or not. -/
def locate (fs : FileSystem) (path : Path) : Except IoFault Location :=
  if path.bytes.contains 0 then .error .nulInPath
  else if path.bytes.isEmpty then .error .notFound
  else if maxPath ≤ path.bytes.length then .error .nameTooLong
  else fs.walk (if path.isAbsolute then [] else fs.workDir) (Path.splitSlash path.bytes)

/-- The content of a file. -/
def read (fs : FileSystem) (path : Path) : Except IoFault Bytes :=
  match fs.locate path with
  | .error fault => .error fault
  | .ok at_ =>
    match fs.node? at_ with
    | none => .error .notFound
    | some .directory => .error .isDirectory
    | some (.file content) => .ok content

def isDirectory (fs : FileSystem) (path : Path) : Bool :=
  match fs.locate path with
  | .error _ => false
  | .ok at_ => fs.node? at_ == some .directory

/-- Creates a file without content, or empties it; returns where it is. A path that ends with a
slash can only be that of a directory. -/
def create (fs : FileSystem) (path : Path) : Except IoFault (Location × FileSystem) :=
  match fs.locate path.withoutSlashes with
  | .error fault => .error fault
  | .ok at_ =>
    if path.endsWithSlash then .error .isDirectory
    else
      match fs.node? at_ with
      | some .directory => .error .isDirectory
      | _ => .ok (at_, fs.put at_ (.file []))

/-- Opens a file to write at its end, and creates it if it is missing; returns where it is. -/
def openEnd (fs : FileSystem) (path : Path) : Except IoFault (Location × FileSystem) :=
  match fs.create path with
  | .error fault => .error fault
  | .ok (at_, created) => .ok (at_, if (fs.node? at_).isSome then fs else created)

/-- Creates one directory. -/
def createDirectory (fs : FileSystem) (path : Path) : Except IoFault FileSystem :=
  match fs.locate path with
  | .error fault => .error fault
  | .ok at_ =>
    match fs.node? at_ with
    | some _ => .error .alreadyThere
    | none => .ok (fs.put at_ .directory)

/-- A directory that may be there already. -/
def ensureOne (fs : FileSystem) (path : Path) : Except IoFault FileSystem :=
  match fs.createDirectory path with
  | .ok fs => .ok fs
  | .error fault => if fs.isDirectory path then .ok fs else .error fault

/-- Creates a directory together with the directories above it that are missing; returns what
stopped it, and the tree with the directories that it had created by then. The fuel is the number of
parts of the path. -/
def ensureDirectory (fs : FileSystem) (path : Path) : Nat → Option IoFault × FileSystem
  | 0 => (none, fs)
  | fuel + 1 =>
    if path.bytes.isEmpty then (none, fs)
    else
      match fs.ensureOne path with
      | .ok fs => (none, fs)
      | .error .notFound =>
        match path.parent? with
        | none => (some .notFound, fs)
        | some parent =>
          match fs.ensureDirectory parent fuel with
          | (some fault, fs) => (some fault, fs)
          | (none, fs) =>
            match fs.ensureOne path with
            | .ok fs => (none, fs)
            | .error fault => (some fault, fs)
      | .error fault => (some fault, fs)

/-- A directory with all directories above it, whether they are there already or not. -/
def createDirectories (fs : FileSystem) (path : Path) : Option IoFault × FileSystem :=
  fs.ensureDirectory path (path.parts.length + 1)

/-- Puts bytes at the end of a file. -/
def append (fs : FileSystem) (at_ : Location) (bytes : Bytes) : FileSystem :=
  match fs.node? at_ with
  | some (.file content) => fs.put at_ (.file (content ++ bytes))
  | _ => fs

/-- The files below the working directory, by their paths from there. -/
def files (fs : FileSystem) : List (Path × Bytes) :=
  fs.nodes.filterMap fun (at_, node) =>
    match node with
    | .directory => none
    | .file content =>
      if fs.workDir.isPrefixOf at_ then
        some (Path.ofParts false (at_.drop fs.workDir.length), content)
      else none

/-- The tree with directories all the way to a location. -/
def withDirectories (fs : FileSystem) (at_ : Location) : FileSystem :=
  (List.range at_.length).foldl
    (fun fs n =>
      let at_ := at_.take (n + 1)
      if fs.node? at_ = none then fs.put at_ .directory else fs) fs

/-- Where a path without dots leads, whatever is there. -/
def place (fs : FileSystem) (path : Path) : Location :=
  let names := (Path.splitSlash path.bytes).filter fun part => !part.isEmpty && part != Path.dot
  if path.isAbsolute then names else fs.workDir ++ names

/-- The tree with a file in it, and the directories that lead to it. -/
def withFile (fs : FileSystem) (path : Path) (content : Bytes) : FileSystem :=
  let at_ := fs.place path
  (fs.withDirectories at_.dropLast).put at_ (.file content)

/-- The tree with a directory in it, and the directories that lead to it. -/
def withDirectory (fs : FileSystem) (path : Path) : FileSystem := fs.withDirectories (fs.place path)

/-- A tree that holds nothing but an empty working directory. -/
def empty (workDir : Location) : FileSystem where
  nodes := (List.range workDir.length).map fun n => (workDir.take (n + 1), .directory)
  workDir := workDir

end FileSystem

end MqttConformance
