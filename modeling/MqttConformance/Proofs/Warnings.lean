import MqttConformance.Proofs.Cutting
import MqttConformance.Proofs.Session
import MqttConformance.Proofs.Utf8

/-! Which variables a configuration warns of while it is read. A text that its field cannot take
gives one warning, which names the variable, and nothing else gives any. So a variable is never
passed over in silence exactly if it holds text: other bytes count as no value at all
(`Scope.told_iff_text`). -/

namespace MqttConformance.Config

/-! ## Warnings -/

/-- Whether an event warns that a variable cannot be read: its message ends with the name of the
variable and the reason. -/
def warnsOf (name : String) (event : Log.Event) : Bool :=
  event.level == .warn &&
    (" for " ++ name ++ " cannot be parsed into correct type; reverting to default.").toList.isSuffixOf
      event.message.toList

/-- A name without blanks. -/
def IsOneWord (name : String) : Prop := ' ' ∉ name.toList

instance (name : String) : Decidable (IsOneWord name) := inferInstanceAs (Decidable (_ ∉ _))

section

variable {name other text : String}

/-- A warning is of the one variable that it names. -/
theorem warnsOf_unreadableEvent (hn : IsOneWord name) (ho : IsOneWord other) :
    warnsOf name (Setting.unreadableEvent other text) = decide (name = other) := by
  rw [Bool.eq_iff_iff]
  simp only [warnsOf, Setting.unreadableEvent, beq_self_eq_true, Bool.true_and,
    List.isSuffixOf_iff_suffix, String.toList_append, decide_eq_true_eq]
  constructor
  · rintro ⟨before, h⟩
    have hfor : " for ".toList = " for".toList ++ [' '] := by decide
    rw [← List.append_assoc] at h
    have hcut : before ++ " for".toList ++ ' ' :: name.toList =
        "Configuration value ".toList ++ text.toList ++ " for".toList ++ ' ' :: other.toList := by
      simpa only [hfor, List.append_assoc, List.singleton_append] using List.append_cancel_right h
    exact String.toList_inj.1 (Text.eq_of_last hn ho hcut)
  · rintro rfl
    exact ⟨("Configuration value ".toList ++ text.toList), by simp⟩

end

namespace Setting

section

variable {α : Type} [Setting α] {name other : String} {event : Log.Event}

/-- The warning that a user's text gives rise to, if the type of the setting cannot take it. -/
def warning? (α : Type) [Setting α] (name : String) (given : Option String) : Option Log.Event :=
  given.bind fun text =>
    if (ofText? text : Option α).isNone then some (unreadableEvent name text) else none

theorem level_valueEvent {value : α} {origin : Origin} :
    (valueEvent name value origin).level ≠ .warn := by
  cases origin <;> nofun

theorem warnsOf_valueEvent {value : α} {origin : Origin} :
    warnsOf name (valueEvent other value origin) = false := by
  simp [warnsOf, level_valueEvent]

theorem warning?_eq_some {given : Option String} : warning? α name given = some event ↔
    ∃ text, given = some text ∧ (ofText? text : Option α) = none ∧
      event = unreadableEvent name text := by
  cases given with
  | none => simp [warning?]
  | some text =>
    cases h : (ofText? text : Option α) with
    | none => simp [warning?, h, eq_comm (a := event)]
    | some value => simp [warning?, h]

/-- Choosing a value logs the warning, if there is one, and no other. -/
theorem filter_resolve (hn : IsOneWord name) (ho : IsOneWord other) (given : Option String)
    (current : α) : (resolve other given current).2.filter (warnsOf name) =
      if name = other then (warning? α other given).toList else [] := by
  cases given with
  | none => simp [resolve, warning?, warnsOf_valueEvent]
  | some text =>
    cases h : (ofText? text : Option α) with
    | none =>
      simp only [resolve, h, List.filter_cons, List.filter_nil, warnsOf_valueEvent,
        warnsOf_unreadableEvent hn ho]
      by_cases heq : name = other <;> simp [warning?, h, heq]
    | some value => simp [resolve, warning?, h, warnsOf_valueEvent]

theorem warning?_of_mem_resolve {given : Option String} {current : α}
    (h : event ∈ (resolve other given current).2) (hl : event.level = .warn) :
    warning? α other given = some event := by
  have hvalue {value : α} {origin : Origin} : event ≠ valueEvent other value origin :=
    fun heq => level_valueEvent (heq ▸ hl)
  cases given with
  | none => exact absurd (List.mem_singleton.1 h) hvalue
  | some text =>
    cases hread : (ofText? text : Option α) with
    | none =>
      have hmem : event = unreadableEvent other text := by
        simpa [resolve, hread, hvalue] using h
      simp [warning?, hread, hmem]
    | some value => simp [resolve, hread, hvalue] at h

end

end Setting

/-- The warning that the variable of a field gives rise to. -/
def Field.warning? {G : Type} (group : String) (env : Environment) (field : Field G) :
    Option Log.Event :=
  @Setting.warning? field.Value field.setting (field.variableName group)
    (env.text? (field.variableName group))

/-! ## From one field to all groups -/

namespace Group

variable {G : Type} {group : String} {env : Environment} {field : Field G} {fields : List (Field G)}
variable {name : String} {g : G} {event : Log.Event}

theorem filter_override (hn : IsOneWord name) (hf : IsOneWord (field.variableName group)) :
    (field.override group env g).2.filter (warnsOf name) =
      if name = field.variableName group then (field.warning? group env).toList else [] :=
  @Setting.filter_resolve _ field.setting _ _ hn hf _ _

theorem filter_overrideFields_cons :
    (overrideFields group env (field :: fields) g).2.filter (warnsOf name) =
      (field.override group env g).2.filter (warnsOf name) ++
        (overrideFields group env fields (field.override group env g).1).2.filter (warnsOf name) :=
  List.filter_append _ _

/-- Fields with other variables do not warn of this one. -/
theorem filter_overrideFields_of_not_mem (hn : IsOneWord name)
    (hwords : ∀ field ∈ fields, IsOneWord (field.variableName group))
    (h : name ∉ fields.map (·.variableName group)) :
    (overrideFields group env fields g).2.filter (warnsOf name) = [] := by
  induction fields generalizing g with
  | nil => rfl
  | cons first rest ih =>
    obtain ⟨hfirst, hrest⟩ := List.forall_mem_cons.1 hwords
    rw [List.map_cons, List.mem_cons, not_or] at h
    rw [filter_overrideFields_cons, filter_override hn hfirst, ih hrest h.2, if_neg h.1]
    rfl

/-- The warnings of a field's variable are those of the field. -/
theorem filter_overrideFields (hwords : ∀ field ∈ fields, IsOneWord (field.variableName group))
    (hd : (fields.map (·.variableName group)).Nodup) (hmem : field ∈ fields) :
    (overrideFields group env fields g).2.filter (warnsOf (field.variableName group)) =
      (field.warning? group env).toList := by
  induction fields generalizing g with
  | nil => cases hmem
  | cons first rest ih =>
    have hname : IsOneWord (field.variableName group) := hwords field hmem
    obtain ⟨hfirst, hrest⟩ := List.forall_mem_cons.1 hwords
    obtain ⟨hnot, hd⟩ := List.nodup_cons.1 hd
    rw [filter_overrideFields_cons, filter_override hname hfirst]
    rcases List.mem_cons.1 hmem with rfl | hmem
    · rw [if_pos rfl, filter_overrideFields_of_not_mem hname hrest hnot, List.append_nil]
    · have hne : field.variableName group ≠ first.variableName group := fun heq =>
        hnot (List.mem_map.2 ⟨field, hmem, heq⟩)
      rw [if_neg hne, ih hrest hd hmem, List.nil_append]

/-- Every warning comes from a field. -/
theorem exists_warning_of_mem (h : event ∈ (overrideFields group env fields g).2)
    (hl : event.level = .warn) : ∃ field ∈ fields, field.warning? group env = some event := by
  induction fields generalizing g with
  | nil => cases h
  | cons first rest ih =>
    rcases List.mem_append.1 h with h | h
    · exact ⟨first, List.mem_cons_self, @Setting.warning?_of_mem_resolve _ first.setting _ _ _ _ h hl⟩
    · obtain ⟨field, hmem, hfield⟩ := ih h
      exact ⟨field, List.mem_cons_of_mem _ hmem, hfield⟩

end Group

namespace GroupName

variable {env : Environment} {c : Client} {m n : GroupName} {name : String}

theorem overrideGroup_snd :
    (c.overrideGroup env n).2 = (n.group.override env (n.get c)).2 := by
  cases n <;> simp only [Client.overrideGroup, group, get]

theorem isOneWord_of_mem (h : name ∈ n.group.variableNames) : IsOneWord name := by
  have hall : ∀ name ∈ n.group.variableNames, IsOneWord name := by
    cases n <;> decide +kernel
  exact hall name h

theorem isOneWord_field (field : Field n.Holder) (h : field ∈ n.group.fields) :
    IsOneWord (field.variableName n.group.name) :=
  isOneWord_of_mem (List.mem_map_of_mem h)

/-- Each variable belongs to one field of one group. -/
theorem variableNames_nodup : (all.flatMap (·.group.variableNames)).Nodup := by
  decide +kernel

theorem nodup_variableNames (n : GroupName) : n.group.variableNames.Nodup :=
  (List.nodup_flatMap.1 variableNames_nodup).1 n (mem_all n)

theorem not_mem_variableNames (h : m ≠ n) (hn : name ∈ n.group.variableNames) :
    name ∉ m.group.variableNames := by
  have : Std.Symm (Function.onFun List.Disjoint fun n : GroupName => n.group.variableNames) :=
    ⟨fun _ _ h => h.symm⟩
  have hdisjoint := (List.nodup_flatMap.1 variableNames_nodup).2
  exact fun hm => hdisjoint.forall (mem_all m) (mem_all n) h hm hn

end GroupName

namespace Entry

variable {e : Entry} {env : Environment} {c : Client} {n : GroupName} {names : List GroupName}
variable {event : Log.Event}

/-- The warning that the variable of an entry gives rise to. -/
def warning? (e : Entry) (env : Environment) : Option Log.Event :=
  e.field.warning? e.group.group.name env

theorem variableName_mem (e : Entry) : e.variableName ∈ e.group.group.variableNames :=
  List.mem_map_of_mem e.mem

theorem filter_overrideGroup : (c.overrideGroup env n).2.filter (warnsOf e.variableName) =
    if n = e.group then (e.warning? env).toList else [] := by
  rw [GroupName.overrideGroup_snd]
  by_cases h : n = e.group
  · subst h
    rw [if_pos rfl]
    exact Group.filter_overrideFields GroupName.isOneWord_field e.group.nodup_variableNames e.mem
  · rw [if_neg h]
    exact Group.filter_overrideFields_of_not_mem (GroupName.isOneWord_of_mem e.variableName_mem)
      GroupName.isOneWord_field (GroupName.not_mem_variableNames h e.variableName_mem)

/-- However many groups are read, each once, the warnings of an entry's variable are its own. -/
theorem filter_overrideGroups (hd : names.Nodup) :
    (Client.overrideGroups env names c).2.filter (warnsOf e.variableName) =
      if e.group ∈ names then (e.warning? env).toList else [] := by
  induction names generalizing c with
  | nil => rfl
  | cons n names ih =>
    obtain ⟨hn, hd⟩ := List.nodup_cons.1 hd
    have hcons : (Client.overrideGroups env (n :: names) c).2.filter (warnsOf e.variableName) =
        (c.overrideGroup env n).2.filter (warnsOf e.variableName) ++
          (Client.overrideGroups env names (c.overrideGroup env n).1).2.filter
            (warnsOf e.variableName) := List.filter_append _ _
    rw [hcons, filter_overrideGroup, ih hd]
    by_cases heq : n = e.group
    · subst heq
      rw [if_pos rfl, if_neg hn, if_pos List.mem_cons_self, List.append_nil]
    · rw [if_neg heq, List.nil_append]
      simp only [List.mem_cons, Ne.symm heq, false_or]

/-- Every warning comes from an entry of a group that is read. -/
theorem exists_warning_of_mem (h : event ∈ (Client.overrideGroups env names c).2)
    (hl : event.level = .warn) : ∃ e : Entry, e.group ∈ names ∧ e.warning? env = some event := by
  induction names generalizing c with
  | nil => cases h
  | cons n names ih =>
    have hcons : (Client.overrideGroups env (n :: names) c).2 = (c.overrideGroup env n).2 ++
        (Client.overrideGroups env names (c.overrideGroup env n).1).2 := rfl
    rw [hcons, List.mem_append] at h
    rcases h with h | h
    · rw [GroupName.overrideGroup_snd] at h
      obtain ⟨field, hmem, hfield⟩ := Group.exists_warning_of_mem h hl
      exact ⟨⟨n, field, hmem⟩, List.mem_cons_self, hfield⟩
    · obtain ⟨e, hmem, he⟩ := ih h
      exact ⟨e, List.mem_cons_of_mem _ hmem, he⟩

/-- An entry warns exactly if its variable holds a text that it cannot take. -/
theorem warning?_eq_some : e.warning? env = some event ↔ ∃ text,
    env.text? e.variableName = some text ∧ e.reading? env = none ∧
      event = Setting.unreadableEvent e.variableName text := by
  refine (@Setting.warning?_eq_some _ e.field.setting _ _ _).trans
    (exists_congr fun text => and_congr_right fun htext => and_congr_left fun _ => ?_)
  have hread : e.reading? env = @Setting.ofText? _ e.field.setting text :=
    congrArg (·.bind (@Setting.ofText? _ e.field.setting)) htext
  exact ⟨hread.trans, hread.symm.trans⟩

/-- Bytes that are not text read as an unset variable does. -/
theorem reading?_eq_none_of_text? (h : env.text? e.variableName = none) : e.reading? env = none :=
  congrArg (·.bind (@Setting.ofText? _ e.field.setting)) h

theorem warning?_eq_none_of_text? (h : env.text? e.variableName = none) : e.warning? env = none := by
  rw [Option.eq_none_iff_forall_ne_some]
  intro event hevent
  obtain ⟨text, htext, -⟩ := warning?_eq_some.1 hevent
  cases h.symm.trans htext

theorem warning?_eq_none_of_reading? {value : e.Value} (h : e.reading? env = some value) :
    e.warning? env = none := by
  rw [Option.eq_none_iff_forall_ne_some]
  intro event hevent
  obtain ⟨text, -, hread, -⟩ := warning?_eq_some.1 hevent
  cases h.symm.trans hread

end Entry

/-! ## Reading the environment -/

namespace Scope

variable {env : Environment} {c : Client} {scope : Scope} {e : Entry} {event : Log.Event}

/-- The configuration after a reading of the environment, with what is logged meanwhile. -/
def overriding (env : Environment) (c : Client) : Scope → Client × List Log.Event
  | group name => c.overrideGroup env name
  | everything => c.override env

theorem overriding_eq : scope.overriding env c = Client.overrideGroups env scope.names c := by
  cases scope with
  | group name => exact Prod.ext rfl (List.append_nil _).symm
  | everything => rfl

theorem nodup_names : scope.names.Nodup := by
  cases scope with
  | group name => exact List.nodup_singleton name
  | everything => decide

theorem get_overriding (h : e.group ∈ scope.names) :
    e.get (scope.overriding env c).1 = (e.reading? env).getD (e.get c) := by
  rw [overriding_eq, Entry.get_overrideGroups, if_pos h]

theorem filter_overriding (h : e.group ∈ scope.names) :
    (scope.overriding env c).2.filter (warnsOf e.variableName) = (e.warning? env).toList := by
  rw [overriding_eq, Entry.filter_overrideGroups nodup_names, if_pos h]

/-- Every warning names an entry that is read and that cannot take the text of its variable. -/
theorem exists_unreadable_of_mem (h : event ∈ (scope.overriding env c).2)
    (hl : event.level = .warn) : ∃ other : Entry, other.group ∈ scope.names ∧
      warnsOf other.variableName event ∧ (env.text? other.variableName).isSome ∧
      other.reading? env = none := by
  rw [overriding_eq] at h
  obtain ⟨other, hmem, hwarning⟩ := Entry.exists_warning_of_mem h hl
  obtain ⟨text, htext, hread, rfl⟩ := Entry.warning?_eq_some.1 hwarning
  have hword := GroupName.isOneWord_of_mem other.variableName_mem
  have hnamed : warnsOf other.variableName (Setting.unreadableEvent other.variableName text) :=
    (warnsOf_unreadableEvent hword hword).trans (decide_eq_true rfl)
  exact ⟨other, hmem, hnamed, Option.isSome_of_eq_some htext, hread⟩

/-- What a variable is set to is taken or warned of exactly if it is text. -/
theorem taken_or_warned_iff {bytes : Bytes} (h : e.group ∈ scope.names)
    (hset : env.value? e.variableName = some bytes) :
    ((∃ value, e.reading? env = some value ∧ e.get (scope.overriding env c).1 = value) ∨
      (∃ event, (scope.overriding env c).2.filter (warnsOf e.variableName) = [event]) ∧
        e.get (scope.overriding env c).1 = e.get c) ↔ ∃ text, bytes = Utf8.encode text := by
  have hdecoded : env.text? e.variableName = Utf8.decode? bytes :=
    congrArg (·.bind Utf8.decode?) hset
  rw [get_overriding h, filter_overriding h]
  constructor
  · intro htold
    cases hdecode : Utf8.decode? bytes with
    | some text => exact ⟨text, Utf8.decode?_eq_some.1 hdecode⟩
    | none =>
      -- The bytes are passed over, as if the variable were unset.
      have htext := hdecoded.trans hdecode
      rw [Entry.reading?_eq_none_of_text? htext, Entry.warning?_eq_none_of_text? htext] at htold
      rcases htold with ⟨_, hvalue, _⟩ | ⟨⟨_, hevent⟩, _⟩
      · cases hvalue
      · cases hevent
  · rintro ⟨text, rfl⟩
    cases hread : e.reading? env with
    | some value => exact .inl ⟨value, rfl, rfl⟩
    | none =>
      have htext := hdecoded.trans (Utf8.decode?_eq_some.2 rfl)
      rw [Entry.warning?_eq_some.2 ⟨text, htext, hread, rfl⟩]
      exact .inr ⟨⟨_, rfl⟩, rfl⟩

/-- An entry that is read takes what its variable says and nothing is said against it, or keeps
what it has. It is warned of exactly once if the variable holds a text that it cannot take, and not
at all otherwise; so whatever a variable is set to is taken or warned of, exactly as long as that is
text. No other warning is given. -/
theorem told_iff_text (env : Environment) (c : Client) (scope : Scope) (e : Entry)
    (h : e.group ∈ scope.names) :
    let after := scope.overriding env c
    let warnings := after.2.filter (warnsOf e.variableName)
    (∀ value, e.reading? env = some value → e.get after.1 = value ∧ warnings = []) ∧
    (e.reading? env = none → e.get after.1 = e.get c) ∧
    (env.value? e.variableName = none → warnings = []) ∧
    ((∀ bytes, env.value? e.variableName = some bytes →
        (∃ value, e.reading? env = some value ∧ e.get after.1 = value) ∨
        (∃ event, warnings = [event]) ∧ e.get after.1 = e.get c) ↔
      ∀ bytes, env.value? e.variableName = some bytes → ∃ text, bytes = Utf8.encode text) ∧
    ∀ event ∈ after.2, event.level = .warn →
      ∃ other : Entry, other.group ∈ scope.names ∧ warnsOf other.variableName event ∧
        (env.text? other.variableName).isSome ∧ other.reading? env = none := by
  intro after warnings
  have hsilent (hnone : e.warning? env = none) : warnings = [] := by
    simp only [warnings, after, filter_overriding h, hnone, Option.toList_none]
  refine ⟨fun value hread => ⟨?_, hsilent (Entry.warning?_eq_none_of_reading? hread)⟩,
    fun hread => ?_, fun hunset => ?_, forall₂_congr fun bytes hset => taken_or_warned_iff h hset,
    fun event => exists_unreadable_of_mem⟩
  · simp only [after, get_overriding h, hread, Option.getD_some]
  · simp only [after, get_overriding h, hread, Option.getD_none]
  · exact hsilent (Entry.warning?_eq_none_of_text? (congrArg (·.bind Utf8.decode?) hunset))

/-- A size that is no number is warned of, and the default size stays. -/
theorem unreadable_size_told :
    let name := "MQTT_COMPLIANCE_DOWNLOAD_CHUNK_SIZE"
    let loaded := Client.load (Environment.empty.set name (Utf8.encode "many"))
    (∃ event, loaded.2.filter (warnsOf name) = [event]) ∧ loaded.1.download.chunkSize = 1024 := by
  intro name loaded
  let env := Environment.empty.set name (Utf8.encode "many")
  let e : Entry := ⟨.download, downloadGroup.fields[1], List.getElem_mem _⟩
  have hname : e.variableName = name := by decide +kernel +zetaReduce
  have hunread : @id (Option UInt64) (e.reading? env) = none := by decide +kernel +zetaReduce
  obtain ⟨-, hkept, -, htold, -⟩ := told_iff_text env {} everything e e.group.mem_all
  have hset : env.value? e.variableName = some (Utf8.encode "many") := by
    rw [hname, Environment.value?_set, if_pos rfl]
  have hone := htold.2 (fun bytes hbytes => ⟨"many", Option.some.inj (hbytes.symm.trans hset)⟩) _ hset
  rw [hname] at hone
  rcases hone with ⟨value, hread, -⟩ | ⟨hone, -⟩
  · exact absurd (hunread.symm.trans hread) nofun
  · exact ⟨hone, hkept hunread⟩

/-- Bytes that are not text are neither taken nor warned of. -/
theorem bytes_pass_unnoticed : ¬∀ (env : Environment) (e : Entry) (bytes : Bytes),
    env.value? e.variableName = some bytes →
      let loaded := Client.load env
      (∃ value, e.reading? env = some value ∧ e.get loaded.1 = value) ∨
      (∃ event, loaded.2.filter (warnsOf e.variableName) = [event]) ∧ e.get loaded.1 = e.get {} := by
  intro h
  let name := "MQTT_COMPLIANCE_ENDPOINTS_BASE_URL"
  let env := Environment.empty.set name [0x61, 0xff]
  let e : Entry := ⟨.endpoints, endpointsGroup.fields[0], List.getElem_mem _⟩
  have hname : e.variableName = name := by decide +kernel +zetaReduce
  have hset : env.value? e.variableName = some [0x61, 0xff] := by
    rw [hname, Environment.value?_set, if_pos rfl]
  obtain ⟨text, htext⟩ :=
    (@taken_or_warned_iff _ {} everything _ _ e.group.mem_all hset).1 (h env e _ hset)
  have hdecode : Utf8.decode? [0x61, 0xff] = none := by decide +kernel
  rw [Utf8.decode?_eq_some.2 htext] at hdecode
  cases hdecode

end Scope

end MqttConformance.Config
