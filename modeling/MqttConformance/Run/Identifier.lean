import MqttConformance.Json.Field
import MqttConformance.Path

/-!
Run identifiers. The service names a run when a configuration is submitted; the client puts that
name into two routes and into the name of the archive, so it has to be a name without separators.
-/

namespace MqttConformance.Run

/-- Whether a text can name a run. -/
def isIdentifier (s : String) : Bool :=
  !s.toList.isEmpty && s != "." && s != ".." && !s.toList.any fun c => c == '/' || c == '\\'

/-- The name of a run. -/
structure Identifier where
  text : String
  valid : isIdentifier text = true
  deriving DecidableEq, Repr

namespace Identifier

def ofText? (s : String) : Option Identifier :=
  if h : isIdentifier s = true then some ⟨s, h⟩ else none

@[simp] theorem ofText?_text (id : Identifier) : ofText? id.text = some id := by
  simp [ofText?, id.valid]

theorem text_of_ofText? {s : String} {id : Identifier} (h : ofText? s = some id) : id.text = s := by
  unfold ofText? at h
  split at h
  · cases h; rfl
  · cases h

@[ext] theorem ext {a b : Identifier} (h : a.text = b.text) : a = b := by
  cases a; cases b; cases h; rfl

/-- The name of the archive with the results of the run. -/
def archiveName (id : Identifier) : String := "result_" ++ id.text ++ ".zip"

/-- Where the archive goes. -/
def archivePath (outputDir : Path) (id : Identifier) : Path :=
  outputDir.join (Path.ofText id.archiveName)

end Identifier

/-- The service's answer to a submission, of which only the time stamp is read: it names the run. -/
structure Receipt where
  timestamp : Option Json
  deriving Repr

namespace Receipt

def timestampField : Json.Field := ⟨"timestamp", "struct SubmitResponse"⟩

/-- The receipt that a body holds. -/
def ofBytes (body : Bytes) : Except Json.Error Receipt :=
  (timestampField.ofBytes body).map Receipt.mk

/-- Why a receipt names no run. -/
inductive Fault where
  | missing
  | invalid (text : String)
  deriving DecidableEq, Repr

/-- The run that a receipt names: by its text, or by a number as it is written. -/
def identifier (receipt : Receipt) : Except Fault Identifier :=
  match receipt.timestamp with
  | none | some .null => .error .missing
  | some (.string s) => named s
  | some (.number n) => named n.render
  | some other => .error (.invalid other.render)
where
  named (s : String) : Except Fault Identifier :=
    match Identifier.ofText? s with
    | some id => .ok id
    | none => .error (.invalid s)

end Receipt

end MqttConformance.Run
