import MqttConformance.Decimal.Binary64
import MqttConformance.Text.Utf8

/-!
JSON documents. Whole numbers of 64 bits stay exact, every other number is a binary float. An object
keeps its members in the order of their names, one for each name.
-/

namespace MqttConformance

/-- A number of a document. -/
inductive Json.Number where
  /-- A whole number from zero up to `2 ^ 64 - 1`. -/
  | natural (n : Nat)
  /-- A whole number below zero, by its magnitude of at most `2 ^ 63`. -/
  | negative (n : Nat)
  | float (x : Binary64)
  deriving DecidableEq, Repr

/-- A document. -/
inductive Json where
  | null
  | bool (b : Bool)
  | number (n : Json.Number)
  | string (s : String)
  | array (items : List Json)
  | object (members : List (String × Json))
  deriving Repr

namespace Json

/-- Puts a member into its place by name; a member of that name is replaced. -/
def insert (name : String) (value : Json) : List (String × Json) → List (String × Json)
  | [] => [(name, value)]
  | (n, v) :: rest =>
    if name = n then (name, value) :: rest
    else if name < n then (name, value) :: (n, v) :: rest
    else (n, v) :: insert name value rest

/-- The members of an object in order of name; of several with one name the last counts. -/
def ofMembers (members : List (String × Json)) : Json :=
  .object (members.foldl (fun acc (name, value) => insert name value acc) [])

/-- The value of a member. -/
def member? (name : String) : Json → Option Json
  | .object members => (members.find? (·.1 == name)).map (·.2)
  | _ => none

end Json

end MqttConformance
