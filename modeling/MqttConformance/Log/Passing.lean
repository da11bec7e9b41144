import MqttConformance.Log.Event
import MqttConformance.Text.Quoted

/-!
Results that are logged in passing: a fault leaves a record, and so does a missing value; the result
itself goes on unchanged. The records are those of `Log.Event`, without the place in the program that
they come from.
-/

namespace MqttConformance.Log

/-- Values that log records can show. -/
class Described (α : Type) where
  describe : α → String

namespace Described

instance : Described String := ⟨Text.quote⟩

instance : Described Int := ⟨toString⟩

instance : Described Bool := ⟨fun b => if b then "true" else "false"⟩

instance {α : Type} [Described α] : Described (Option α) where
  describe
    | none => "None"
    | some a => "Some(" ++ describe a ++ ")"

instance {α : Type} [Described α] : Described (List α) where
  describe items := "[" ++ ", ".intercalate (items.map describe) ++ "]"

end Described

variable {ε α : Type}

/-- The record of a fault. -/
def faultEvent [Described ε] (level : Level) (message : String) (fault : ε) : Event :=
  ⟨level, .faults, message ++ ", error: " ++ Described.describe fault, []⟩

/-- The record that a value is missing. -/
def missingEvent (level : Level) (message : String) : Event := ⟨level, .faults, message, []⟩

/-- A result, and the record of its fault if it has one. -/
def passResult [Described ε] (level : Level) (message : String) (result : Except ε α) :
    Except ε α × List Event :=
  match result with
  | .ok _ => (result, [])
  | .error fault => (result, [faultEvent level message fault])

/-- A value, and the record of its absence if it is missing. -/
def passOption (level : Level) (message : String) (value : Option α) : Option α × List Event :=
  match value with
  | some _ => (value, [])
  | none => (value, [missingEvent level message])

@[simp] theorem passResult_fst [Described ε] (level : Level) (message : String)
    (result : Except ε α) : (passResult level message result).1 = result := by
  cases result <;> rfl

end MqttConformance.Log
