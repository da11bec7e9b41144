import Mathlib
import MqttConformance.Config.Client

/-! What a configuration takes from the environment, entry by entry. An `Entry` is a field of one of
the groups. It depends on its own variable alone, and overriding a group sets each of its entries to
what the variable says, if that can be read, and leaves all others. -/

namespace MqttConformance.Config

namespace Field

variable {G : Type}

/-- What the variable of a field says, if that is a text of the field's type. -/
def reading? (group : String) (env : Environment) (field : Field G) : Option field.Value :=
  (env.text? (field.variableName group)).bind (@Setting.ofText? _ field.setting)

/-- What one field holds does not change when the other is put. -/
def Apart (field other : Field G) : Prop := ∀ v g, field.get (other.put v g) = field.get g

theorem override_fst (group : String) (env : Environment) (field : Field G) (g : G) :
    (field.override group env g).1 =
      field.put ((field.reading? group env).getD (field.get g)) g := by
  let := field.setting
  exact congrArg (field.put · g) (Setting.resolve_fst _ _ _)

end Field

namespace Group

variable {G : Type}

/-- The fields of a group hold what is put into them, do not disturb each other and are all that
the group holds. -/
structure Lawful (fields : List (Field G)) : Prop where
  get_put : ∀ field ∈ fields, ∀ v g, field.get (field.put v g) = v
  apart : fields.Pairwise fun field other => field.Apart other ∧ other.Apart field
  ext {g g' : G} : (∀ field ∈ fields, field.get g = field.get g') → g = g'

variable {group : String} {env : Environment} {fields : List (Field G)} {field : Field G}

theorem get_overrideFields_of_apart (h : ∀ other ∈ fields, field.Apart other) (g : G) :
    field.get (overrideFields group env fields g).1 = field.get g := by
  induction fields generalizing g with
  | nil => rfl
  | cons first rest ih =>
    obtain ⟨hfirst, hrest⟩ := List.forall_mem_cons.1 h
    simp only [overrideFields, ih hrest, Field.override_fst]
    exact hfirst _ _

/-- Each field is set from its own variable. -/
theorem get_overrideFields (hput : ∀ field ∈ fields, ∀ v g, field.get (field.put v g) = v)
    (hapart : fields.Pairwise fun field other => field.Apart other ∧ other.Apart field)
    (hmem : field ∈ fields) (g : G) : field.get (overrideFields group env fields g).1 =
      (field.reading? group env).getD (field.get g) := by
  induction fields generalizing g with
  | nil => cases hmem
  | cons first rest ih =>
    obtain ⟨hfirst, hrest⟩ := List.pairwise_cons.1 hapart
    obtain ⟨hputFirst, hputRest⟩ := List.forall_mem_cons.1 hput
    simp only [overrideFields]
    rcases List.mem_cons.1 hmem with rfl | hmem
    · rw [get_overrideFields_of_apart fun other h => (hfirst other h).1, Field.override_fst,
        hputFirst]
    · rw [ih hputRest hrest hmem, Field.override_fst, (hfirst field hmem).2]

theorem Lawful.get_override {group : Group G} (h : Lawful group.fields)
    (hmem : field ∈ group.fields) (g : G) : field.get (group.override env g).1 =
      (field.reading? group.name env).getD (field.get g) :=
  get_overrideFields h.get_put h.apart hmem g

end Group

namespace GroupName

/-- What holds the values of a group. -/
abbrev Holder : GroupName → Type
  | endpoints => Endpoints
  | http => Http
  | run => Run
  | download => Download
  | log => Logging

def group : (n : GroupName) → Group n.Holder
  | endpoints => endpointsGroup
  | http => httpGroup
  | run => runGroup
  | download => downloadGroup
  | log => logGroup

def get : (n : GroupName) → Client → n.Holder
  | endpoints, c => c.endpoints
  | http, c => c.http
  | run, c => c.run
  | download, c => c.download
  | log, c => c.log

theorem mem_all (n : GroupName) : n ∈ all := by cases n <;> decide

theorem lawful (n : GroupName) : Group.Lawful n.group.fields where
  get_put := by
    cases n <;> simp [group, endpointsGroup, httpGroup, runGroup, downloadGroup, logGroup]
  apart := by
    cases n <;>
      simp [group, endpointsGroup, httpGroup, runGroup, downloadGroup, logGroup, Field.Apart]
  ext := by
    cases n <;> rintro ⟨⟩ ⟨⟩ <;>
      simp [group, endpointsGroup, httpGroup, runGroup, downloadGroup, logGroup]

variable {env : Environment} {c : Client} {m n : GroupName}

theorem get_overrideGroup_self :
    n.get (c.overrideGroup env n).1 = (n.group.override env (n.get c)).1 := by
  cases n <;> simp only [get, group, Client.overrideGroup]

theorem get_overrideGroup_of_ne (h : m ≠ n) : m.get (c.overrideGroup env n).1 = m.get c := by
  cases n <;> cases m <;> first
    | exact absurd rfl h
    | simp only [get, Client.overrideGroup]

end GroupName

/-- A field of a group of the configuration. -/
structure Entry where
  group : GroupName
  field : Field group.Holder
  mem : field ∈ group.group.fields

namespace Entry

variable {env : Environment} {c d : Client} {n : GroupName}

section

variable (e : Entry)

def Value : Type := e.field.Value

/-- What a configuration holds for the entry. -/
def get (c : Client) : e.Value := e.field.get (e.group.get c)

/-- The variable that the entry is read from. -/
def variableName : String := e.field.variableName e.group.group.name

/-- What the variable says, if that is a text of the entry's type. -/
def reading? (env : Environment) : Option e.Value := e.field.reading? e.group.group.name env

end

variable {e : Entry}

/-- The entries are all there is to a configuration. -/
theorem ext (h : ∀ e : Entry, e.get c = e.get d) : c = d := by
  have hgroup (n : GroupName) : n.get c = n.get d :=
    n.lawful.ext fun field hmem => h ⟨n, field, hmem⟩
  obtain ⟨⟩ := c
  obtain ⟨⟩ := d
  simp only [Client.mk.injEq]
  exact ⟨hgroup .endpoints, hgroup .http, hgroup .run, hgroup .download, hgroup .log⟩

/-- An entry is overridden with its group, from its variable. -/
theorem get_overrideGroup : e.get (c.overrideGroup env n).1 =
    if n = e.group then (e.reading? env).getD (e.get c) else e.get c := by
  by_cases h : n = e.group
  · subst h
    rw [if_pos rfl]
    unfold get
    rw [GroupName.get_overrideGroup_self]
    exact e.group.lawful.get_override e.mem _
  · rw [if_neg h]
    unfold get
    rw [GroupName.get_overrideGroup_of_ne (Ne.symm h)]

theorem get_overrideGroups {names : List GroupName} :
    e.get (Client.overrideGroups env names c).1 =
      if e.group ∈ names then (e.reading? env).getD (e.get c) else e.get c := by
  induction names generalizing c with
  | nil => rfl
  | cons n names ih =>
    simp only [Client.overrideGroups, ih, get_overrideGroup, List.mem_cons]
    by_cases hn : n = e.group
    · cases hr : e.reading? env <;> simp [hn]
    · simp [hn, Ne.symm hn]

/-- What an entry reads depends on its variable alone. -/
theorem reading?_congr {env' : Environment}
    (h : env.value? e.variableName = env'.value? e.variableName) :
    e.reading? env = e.reading? env' :=
  congrArg (·.bind (@Setting.ofText? _ e.field.setting)) (Environment.text?_congr h)

end Entry

end MqttConformance.Config
