/-!
How a computation ends: with a value, with an error, in a wait that never ends, or in a crash.
-/

namespace MqttConformance

/-- How an effect ends. -/
inductive Outcome (ε α : Type) where
  | done (value : α)
  | failed (error : ε)
  /-- Everything that arrived has been handled, and the effect waits for more. -/
  | blocked
  | crashed (message : String)
  deriving DecidableEq, Repr

namespace Outcome

variable {ε δ α β : Type}

/-- The end of an effect that only computes. -/
def ofExcept : Except ε α → Outcome ε α
  | .ok value => .done value
  | .error error => .failed error

/-- The same end with another value. -/
def map (f : α → β) : Outcome ε α → Outcome ε β
  | .done value => .done (f value)
  | .failed error => .failed error
  | .blocked => .blocked
  | .crashed message => .crashed message

/-- The same end with its error seen in another way. -/
def mapError (f : ε → δ) : Outcome ε α → Outcome δ α
  | .done value => .done value
  | .failed error => .failed (f error)
  | .blocked => .blocked
  | .crashed message => .crashed message

@[simp] theorem mapError_done (f : ε → δ) (value : α) :
    (done value : Outcome ε α).mapError f = .done value := rfl

@[simp] theorem mapError_failed (f : ε → δ) (error : ε) :
    (failed error : Outcome ε α).mapError f = .failed (f error) := rfl

end Outcome

end MqttConformance
