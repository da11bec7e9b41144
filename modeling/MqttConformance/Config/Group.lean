import MqttConformance.Config.Environment
import MqttConformance.Config.Setting

/-!
Groups of settings. A group lists its fields once; reading it from the environment and showing it
are the same for every group. The variable of a field is `MQTT_COMPLIANCE_<GROUP>_<FIELD>` in
capitals.
-/

namespace MqttConformance.Config

/-- A field of a group: its name, its type of setting, and how the group holds it. -/
structure Field (G : Type) where
  name : String
  Value : Type
  setting : Setting Value
  get : G → Value
  put : Value → G → G

/-- A group of settings with its defaults. -/
structure Group (G : Type) where
  name : String
  default : G
  fields : List (Field G)

/-- The text in capitals, for ASCII letters. -/
def capitals (s : String) : String := String.ofList (s.toList.map Char.toUpper)

namespace Field

variable {G : Type}

/-- The variable that overrides the field. -/
def variableName (group : String) (field : Field G) : String :=
  "MQTT_COMPLIANCE_" ++ capitals group ++ "_" ++ capitals field.name

/-- Takes the field's value from its variable. -/
def override (group : String) (env : Environment) (field : Field G) (g : G) : G × List Log.Event :=
  let name := field.variableName group
  let (value, events) := @Setting.resolve _ field.setting name (env.text? name) (field.get g)
  (field.put value g, events)

/-- How the field's value is shown. -/
def shown (field : Field G) (g : G) : Shown := @Setting.shown _ field.setting (field.get g)

end Field

namespace Group

variable {G : Type}

/-- Overrides fields one after another. -/
def overrideFields (group : String) (env : Environment) : List (Field G) → G → G × List Log.Event
  | [], g => (g, [])
  | field :: fields, g =>
    let (g, events) := field.override group env g
    let (g, more) := overrideFields group env fields g
    (g, events ++ more)

/-- The group with every field taken from its variable, where that is set and readable. -/
def override (group : Group G) (env : Environment) (g : G) : G × List Log.Event :=
  overrideFields group.name env group.fields g

/-- The variables that the group depends on. -/
def variableNames (group : Group G) : List String := group.fields.map (·.variableName group.name)

/-- The group over several lines, at one step of indentation. -/
def render (group : Group G) (g : G) : String :=
  let line (field : Field G) : String :=
    "        " ++ field.name ++ ": " ++ (field.shown g).block "        " ++ ",\n"
  "    " ++ group.name ++ ": ConfigValueGroup \x7b\n" ++ String.join (group.fields.map line) ++
    "    \x7d,\n"

end Group

end MqttConformance.Config
