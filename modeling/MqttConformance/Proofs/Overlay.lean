import MqttConformance.Proofs.Settings
import MqttConformance.Proofs.Utf8

/-! Overrides of different variables that come and go in any order. What a configuration loads then
is what it would load if the values of the overrides in place had been set in the first environment
(`Overlaid.loads_see_overrides_in_place`). A variable that has been given back may have lost a value
that was no text, but configurations read texts alone, so no load tells the difference. -/

namespace MqttConformance.Config

/-! ## What a load depends on -/

section

variable {env env' : Environment}

theorem Field.override_congr {G : Type} {group : String} {field : Field G} {g : G}
    (h : ∀ name, env.text? name = env'.text? name) :
    field.override group env g = field.override group env' g := by
  simp only [Field.override, h]

theorem Group.overrideFields_congr {G : Type} {group : String} {fields : List (Field G)} {g : G}
    (h : ∀ name, env.text? name = env'.text? name) :
    Group.overrideFields group env fields g = Group.overrideFields group env' fields g := by
  induction fields generalizing g with
  | nil => rfl
  | cons field fields ih => simp only [Group.overrideFields, Field.override_congr h, ih]

theorem Client.overrideGroup_congr {c : Client} {name : GroupName}
    (h : ∀ name, env.text? name = env'.text? name) :
    c.overrideGroup env name = c.overrideGroup env' name := by
  cases name <;> simp only [Client.overrideGroup, Group.override, Group.overrideFields_congr h]

theorem Client.overrideGroups_congr {c : Client} {names : List GroupName}
    (h : ∀ name, env.text? name = env'.text? name) :
    Client.overrideGroups env names c = Client.overrideGroups env' names c := by
  induction names generalizing c with
  | nil => rfl
  | cons name names ih => simp only [Client.overrideGroups, Client.overrideGroup_congr h, ih]

/-- Environments with the same texts load the same configuration and log the same events. -/
theorem Client.load_congr (h : ∀ name, env.text? name = env'.text? name) :
    Client.load env = Client.load env' := Client.overrideGroups_congr h

end

namespace Environment

variable {env : Environment} {name : String} {value : Bytes} {values : List (String × Bytes)}

/-- The environment with values set one after another. -/
def setAll (env : Environment) (values : List (String × Bytes)) : Environment :=
  values.foldl (fun env v => env.set v.1 v.2) env

@[simp] theorem setAll_nil : env.setAll [] = env := rfl

theorem value?_setAll_of_not_mem (h : name ∉ values.map Prod.fst) :
    (env.setAll values).value? name = env.value? name := by
  induction values generalizing env with
  | nil => rfl
  | cons v values ih =>
    rw [List.map_cons, List.mem_cons, not_or] at h
    exact (@ih (env.set v.1 v.2) h.2).trans (if_neg h.1)

theorem value?_setAll_of_mem (hd : (values.map Prod.fst).Nodup) (h : (name, value) ∈ values) :
    (env.setAll values).value? name = some value := by
  induction values generalizing env with
  | nil => cases h
  | cons v values ih =>
    obtain ⟨hv, hvalues⟩ := List.nodup_cons.1 hd
    rcases List.mem_cons.1 h with rfl | h
    · have hlater : ((env.set name value).setAll values).value? name =
          (env.set name value).value? name := value?_setAll_of_not_mem hv
      exact hlater.trans (if_pos rfl)
    · exact @ih (env.set v.1 v.2) hvalues h

end Environment

/-! ## Overrides in any order -/

namespace Override

variable {env : Environment} {n : String}

/-- An override gives back the text that it replaced. -/
theorem text?_remove (o : Override) :
    (o.remove env).text? n = if n = o.name then o.previous else env.text? n := by
  obtain ⟨name, previous⟩ := o
  cases previous with
  | none => by_cases h : n = name <;> simp [remove, Environment.text?, h]
  | some text =>
    by_cases h : n = name <;> simp [remove, Environment.text?, h, Utf8.decode?_eq_some.2 rfl]

theorem value?_remove_of_ne (o : Override) (h : n ≠ o.name) :
    (o.remove env).value? n = env.value? n := by
  unfold remove
  cases o.previous <;> exact if_neg h

/-- What happens while overrides come and go. -/
inductive Move where
  | install (name : String) (value : Bytes)
  /-- Removes the override of a variable, if one is in place. -/
  | remove (name : String)
  /-- A configuration is loaded. -/
  | load
  deriving DecidableEq, Repr

namespace Move

def installed? : Move → Option String
  | install name _ => some name
  | remove _ | load => none

/-- The values of the overrides that are in place after the moves: those that are installed and not
removed later. -/
def inPlace : List Move → List (String × Bytes)
  | [] => []
  | install name value :: later =>
    if remove name ∈ later then inPlace later else (name, value) :: inPlace later
  | remove _ :: later | load :: later => inPlace later

variable {moves : List Move} {name : String} {value : Bytes}

theorem inPlace_concat_load : inPlace (moves ++ [load]) = inPlace moves := by
  induction moves with
  | nil => rfl
  | cons move moves ih => cases move <;> simp [inPlace, ih]

theorem inPlace_concat_install :
    inPlace (moves ++ [install name value]) = inPlace moves ++ [(name, value)] := by
  induction moves with
  | nil => simp [inPlace]
  | cons move moves ih =>
    cases move with
    | install first _ => by_cases h : remove first ∈ moves <;> simp [inPlace, ih, h]
    | remove | load => exact ih

theorem inPlace_concat_remove :
    inPlace (moves ++ [remove name]) = (inPlace moves).filter (·.1 ≠ name) := by
  induction moves with
  | nil => rfl
  | cons move moves ih =>
    cases move with
    | install first _ =>
      by_cases hn : first = name
      · by_cases h : remove name ∈ moves <;> simp [inPlace, ih, h, hn]
      · by_cases h : remove first ∈ moves <;> simp [inPlace, ih, h, hn]
    | remove | load => exact ih

theorem inPlace_sublist : ((inPlace moves).map Prod.fst).Sublist (moves.filterMap installed?) := by
  induction moves with
  | nil => exact .slnil
  | cons move moves ih =>
    cases move with
    | install name value =>
      rw [inPlace, List.filterMap_cons]
      split
      · exact ih.cons _
      · exact ih.cons_cons _
    | remove | load => exact ih

/-- Nothing is in place exactly if every override that is installed is removed later. -/
theorem inPlace_eq_nil : inPlace moves = [] ↔ ∀ before name value later,
    moves = before ++ install name value :: later → remove name ∈ later := by
  induction moves with
  | nil => simp [inPlace]
  | cons move moves ih =>
    have hsplit : (∀ before name value later, move :: moves = before ++ install name value :: later →
          remove name ∈ later) ↔
        (∀ name value, move = install name value → remove name ∈ moves) ∧ inPlace moves = [] := by
      rw [ih]
      constructor
      · intro h
        refine ⟨fun name value hmove => ?_, fun before name value later hmoves => ?_⟩
        · exact h [] name value moves (by rw [hmove]; rfl)
        · exact h (move :: before) name value later (congrArg _ hmoves)
      · rintro ⟨hfirst, hlater⟩ before name value later heq
        cases before with
        | nil =>
          obtain ⟨hmove, rfl⟩ := List.cons.inj heq
          exact hfirst name value hmove
        | cons first before => exact hlater before name value later (List.cons.inj heq).2
    rw [hsplit]
    cases move with
    | install name value => by_cases h : remove name ∈ moves <;> simp [inPlace, h]
    | remove | load => simp [inPlace]

end Move

end Override

/-- The overrides in place, the environment, and the configuration that was loaded last, with the
events that told of it. -/
structure Overlaid where
  inPlace : List Override := []
  env : Environment
  loaded : Option (Client × List Log.Event) := none

namespace Overlaid

open Override (Move)

def step (s : Overlaid) : Move → Overlaid
  | .install name value =>
    let (o, env) := Override.install s.env name value
    { s with inPlace := s.inPlace ++ [o], env := env }
  | .remove name =>
    match s.inPlace.find? (·.name = name) with
    | none => s
    | some o => { s with inPlace := s.inPlace.eraseP (·.name = name), env := o.remove s.env }
  | .load => { s with loaded := some (Client.load s.env) }

def run (s : Overlaid) (moves : List Move) : Overlaid := moves.foldl step s

variable {env : Environment} {values : List (String × Bytes)} {name : String} {value : Bytes}
variable {s : Overlaid} {moves : List Move} {move : Move}

theorem run_snoc : s.run (moves ++ [move]) = (s.run moves).step move := List.foldl_append

/-- The overrides in place gave their variables the `values`, and each holds the text that its
variable had in the first environment `env`. All other variables have their first texts. -/
structure Stands (env : Environment) (values : List (String × Bytes)) (s : Overlaid) : Prop where
  names : s.inPlace.map (·.name) = values.map Prod.fst
  held : ∀ v ∈ values, s.env.value? v.1 = some v.2
  previous : ∀ o ∈ s.inPlace, o.previous = env.text? o.name
  free : ∀ name, name ∉ values.map Prod.fst → s.env.text? name = env.text? name

namespace Stands

theorem start : Stands env [] { env := env } where
  names := rfl
  held := List.forall_mem_nil _
  previous := List.forall_mem_nil _
  free _ _ := rfl

theorem install (h : s.Stands env values) (hn : name ∉ values.map Prod.fst) :
    (s.step (.install name value)).Stands env (values ++ [(name, value)]) where
  names := by simp [step, Override.install, h.names]
  held v hv := by
    rcases List.mem_append.1 hv with hv | hv
    · have hne : v.1 ≠ name := fun heq => hn (heq ▸ List.mem_map_of_mem hv)
      exact (if_neg hne).trans (h.held v hv)
    · obtain rfl := List.mem_singleton.1 hv
      exact if_pos rfl
  previous o ho := by
    rcases List.mem_append.1 ho with ho | ho
    · exact h.previous o ho
    · obtain rfl := List.mem_singleton.1 ho
      exact h.free name hn
  free n hnot := by
    rw [List.map_append, List.mem_append, not_or] at hnot
    have hne : n ≠ name := fun heq => hnot.2 (List.mem_singleton.2 heq)
    exact (Environment.text?_congr (if_neg hne)).trans (h.free n hnot.1)

theorem remove (h : s.Stands env values) (hd : (values.map Prod.fst).Nodup) :
    (s.step (.remove name)).Stands env (values.filter (·.1 ≠ name)) := by
  cases hfind : s.inPlace.find? (·.name = name) with
  | none =>
    have hstep : s.step (.remove name) = s := by rw [step, hfind]
    have hne : ∀ v ∈ values, v.1 ≠ name := by
      intro v hv heq
      have hmem : name ∈ s.inPlace.map (·.name) := by
        rw [h.names, ← heq]
        exact List.mem_map_of_mem hv
      obtain ⟨o, ho, hname⟩ := List.mem_map.1 hmem
      exact List.find?_eq_none.1 hfind o ho (decide_eq_true hname)
    rw [hstep, List.filter_eq_self.2 fun v hv => decide_eq_true (hne v hv)]
    exact h
  | some o =>
    have hname : o.name = name := by simpa using List.find?_some hfind
    have hprevious : o.previous = env.text? name :=
      hname ▸ h.previous o (List.mem_of_find?_eq_some hfind)
    have hstep : s.step (.remove name) =
        { s with inPlace := s.inPlace.eraseP (·.name = name), env := o.remove s.env } := by
      rw [step, hfind]
    rw [hstep]
    refine ⟨?_, fun v hv => ?_, fun o' ho' => h.previous o' (List.mem_of_mem_eraseP ho'),
      fun n hnot => ?_⟩
    · have herase : (s.inPlace.eraseP (·.name = name)).map (·.name) =
          (s.inPlace.map (·.name)).erase name := by
        rw [List.erase_eq_eraseP', List.eraseP_map]
        rfl
      rw [herase, h.names, hd.erase_eq_filter, List.filter_map]
      refine congrArg (List.map Prod.fst) (List.filter_congr fun v _ => ?_)
      by_cases hv : v.1 = name <;> simp [hv]
    · obtain ⟨hv, hne⟩ := List.mem_filter.1 hv
      rw [← h.held v hv]
      exact o.value?_remove_of_ne (hname ▸ of_decide_eq_true hne)
    · refine o.text?_remove.trans ?_
      by_cases hn : n = o.name
      · rw [if_pos hn, hprevious, hn, hname]
      · rw [if_neg hn]
        refine h.free n fun hmem => hnot ?_
        obtain ⟨v, hv, rfl⟩ := List.mem_map.1 hmem
        exact List.mem_map_of_mem (List.mem_filter.2 ⟨hv, decide_eq_true (hname ▸ hn)⟩)

theorem load (h : s.Stands env values) : (s.step .load).Stands env values := ⟨h.1, h.2, h.3, h.4⟩

/-- Overrides of different variables stand after any moves. -/
theorem run (h : (moves.filterMap Move.installed?).Nodup) :
    (Overlaid.run { env := env } moves).Stands env (Move.inPlace moves) := by
  induction moves using List.reverseRecOn with
  | nil => exact start
  | append_singleton moves move ih =>
    rw [List.filterMap_append, List.nodup_append] at h
    have hstands := ih h.1
    rw [run_snoc]
    cases move with
    | install name value =>
      rw [Move.inPlace_concat_install]
      refine hstands.install fun hmem => ?_
      exact h.2.2 name (Move.inPlace_sublist.subset hmem) name (List.mem_singleton.2 rfl) rfl
    | remove name =>
      rw [Move.inPlace_concat_remove]
      exact hstands.remove (h.1.sublist Move.inPlace_sublist)
    | load =>
      rw [Move.inPlace_concat_load]
      exact hstands.load

/-- The texts are those of the first environment with the values set. -/
theorem text?_eq (h : s.Stands env values) (hd : (values.map Prod.fst).Nodup) (name : String) :
    s.env.text? name = (env.setAll values).text? name := by
  by_cases hmem : name ∈ values.map Prod.fst
  · obtain ⟨v, hv, rfl⟩ := List.mem_map.1 hmem
    refine Environment.text?_congr ?_
    rw [h.held v hv, Environment.value?_setAll_of_mem hd hv]
  · rw [h.free name hmem]
    exact Environment.text?_congr (Environment.value?_setAll_of_not_mem hmem).symm

end Stands

/-- A configuration is loaded as if only the values of the overrides in place had been set. -/
theorem load_run (h : (moves.filterMap Move.installed?).Nodup) :
    Client.load (run { env := env } moves).env = Client.load (env.setAll (Move.inPlace moves)) :=
  Client.load_congr ((Stands.run h).text?_eq (h.sublist Move.inPlace_sublist))

/-- **Loading among overrides of different variables.** However they come and go, each load gives
what the first environment would give with just the values of the overrides in place; and when all
are removed, in whatever order, it gives what it gave before them. -/
theorem loads_see_overrides_in_place (env : Environment) (moves : List Move)
    (h : (moves.filterMap Move.installed?).Nodup) :
    (∀ before later, moves = before ++ .load :: later →
      (run { env := env } (before ++ [.load])).loaded =
        some (Client.load (env.setAll (Move.inPlace before)))) ∧
    Client.load (run { env := env } moves).env = Client.load (env.setAll (Move.inPlace moves)) ∧
    ((∀ before name value later, moves = before ++ .install name value :: later →
        .remove name ∈ later) →
      Client.load (run { env := env } moves).env = Client.load env) := by
  refine ⟨fun before later hmoves => ?_, load_run h, fun hremoved => ?_⟩
  · rw [hmoves, List.filterMap_append, List.nodup_append] at h
    rw [run_snoc]
    exact congrArg some (load_run h.1)
  · rw [load_run h, Move.inPlace_eq_nil.2 hremoved, Environment.setAll_nil]

/-- Of two overrides the first goes first. The value under the other one was no text and is lost, and
yet what is loaded in the end is what was loaded at first. -/
theorem load_survives_lost_bytes :
    let size := "MQTT_COMPLIANCE_DOWNLOAD_CHUNK_SIZE"
    let format := "MQTT_COMPLIANCE_LOG_FORMAT"
    let env := (Environment.empty.set format [0xff]).set size (Utf8.encode "64")
    let before : List Move :=
      [.install size (Utf8.encode "128"), .install format (Utf8.encode "json"), .remove size]
    let moves := before ++ [.load, .remove format]
    (moves.filterMap Move.installed?).Nodup ∧
    (run { env := env } (before ++ [.load])).loaded =
      some (Client.load (env.set format (Utf8.encode "json"))) ∧
    Client.load (run { env := env } moves).env = Client.load env ∧
    (run { env := env } moves).env.value? format = none := by
  intro size format env before moves
  have hnodup : (moves.filterMap Move.installed?).Nodup := by decide +kernel
  obtain ⟨hbetween, -, hafter⟩ := loads_see_overrides_in_place env moves hnodup
  have hempty : Move.inPlace moves = [] := by decide +kernel
  exact ⟨hnodup, hbetween before [.remove format] rfl, hafter (Move.inPlace_eq_nil.1 hempty),
    by decide +kernel⟩

end Overlaid

end MqttConformance.Config
