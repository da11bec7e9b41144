import MqttConformance.Text.Utf8

/-!
The process environment: a byte string for every variable that is set. Configuration reads only
those values that are text.
-/

namespace MqttConformance.Config

/-- What every variable holds. -/
structure Environment where
  value? : String → Option Bytes

namespace Environment

@[ext] theorem ext {e₁ e₂ : Environment} (h : ∀ name, e₁.value? name = e₂.value? name) :
    e₁ = e₂ := by
  cases e₁; cases e₂; congr; exact funext h

def empty : Environment := ⟨fun _ => none⟩

def set (e : Environment) (name : String) (value : Bytes) : Environment :=
  ⟨fun n => if n = name then some value else e.value? n⟩

def unset (e : Environment) (name : String) : Environment :=
  ⟨fun n => if n = name then none else e.value? n⟩

/-- The value of a variable that holds text. -/
def text? (e : Environment) (name : String) : Option String := (e.value? name).bind Utf8.decode?

theorem text?_congr {e₁ e₂ : Environment} {name : String} (h : e₁.value? name = e₂.value? name) :
    e₁.text? name = e₂.text? name := congrArg (·.bind Utf8.decode?) h

@[simp] theorem value?_empty (name : String) : empty.value? name = none := rfl

@[simp] theorem value?_set (e : Environment) (name : String) (value : Bytes) (n : String) :
    (e.set name value).value? n = if n = name then some value else e.value? n := rfl

@[simp] theorem value?_unset (e : Environment) (name n : String) :
    (e.unset name).value? n = if n = name then none else e.value? n := rfl

end Environment

/-- A temporary value of a variable, which remembers the text it replaced. -/
structure Override where
  name : String
  previous : Option String
  deriving DecidableEq, Repr

namespace Override

/-- Sets a variable for a while. A previous value that is not text is not remembered. -/
def install (e : Environment) (name : String) (value : Bytes) : Override × Environment :=
  (⟨name, e.text? name⟩, e.set name value)

/-- Ends the override: the remembered text comes back, or the variable goes. -/
def remove (o : Override) (e : Environment) : Environment :=
  match o.previous with
  | some text => e.set o.name (Utf8.encode text)
  | none => e.unset o.name

end Override

end MqttConformance.Config
