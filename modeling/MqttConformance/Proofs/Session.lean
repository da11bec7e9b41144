import MqttConformance.Proofs.Settings

/-! A configuration that lives on while variables come and go. Its entries hold what their variables
said when they were last read (`Session.run_reads_latest`): a session is a list of steps, a step
lemma gives what each does to an entry, and induction on the list carries it to the session. -/

namespace MqttConformance.Config

/-- What one call overrides. -/
inductive Scope where
  | group (name : GroupName)
  | everything
  deriving DecidableEq, Repr

namespace Scope

def names : Scope → List GroupName
  | group name => [name]
  | everything => GroupName.all

def override (env : Environment) (c : Client) : Scope → Client
  | group name => (c.overrideGroup env name).1
  | everything => (c.override env).1

variable {env : Environment} {c : Client} {scope : Scope} {e : Entry}

theorem override_eq : scope.override env c = (Client.overrideGroups env scope.names c).1 := by
  cases scope <;> rfl

theorem get_override : e.get (scope.override env c) =
    if e.group ∈ scope.names then (e.reading? env).getD (e.get c) else e.get c := by
  rw [override_eq, Entry.get_overrideGroups]

end Scope

/-- What happens in a session. -/
inductive Step where
  | set (name : String) (value : Bytes)
  | unset (name : String)
  /-- The configuration takes what the environment says. -/
  | override (scope : Scope)
  /-- The configuration goes back to the defaults. -/
  | reset
  /-- A configuration of its own is loaded. -/
  | load
  deriving DecidableEq

namespace Step

def environment (env : Environment) : Step → Environment
  | set name value => env.set name value
  | unset name => env.unset name
  | override _ | reset | load => env

def config (env : Environment) (c : Client) : Step → Client
  | override scope => scope.override env c
  | reset => {}
  | set _ _ | unset _ | load => c

/-- The steps, each with the environment that it finds. -/
def history (env : Environment) : List Step → List (Environment × Step)
  | [] => []
  | step :: steps => (env, step) :: history (step.environment env) steps

end Step

/-- The environment, the configuration that lives on, and the one that was loaded last. -/
structure Session where
  env : Environment
  config : Client := {}
  loaded : Option Client := none

namespace Session

def step (s : Session) (step : Step) : Session where
  env := step.environment s.env
  config := step.config s.env s.config
  loaded := if step = .load then some (Client.load s.env).1 else s.loaded

def run (s : Session) (steps : List Step) : Session := steps.foldl Session.step s

end Session

namespace Entry

variable (e : Entry)

/-- What a step reads for the entry. -/
def readBy? : Environment × Step → Option e.Value
  | (env, .override scope) => if e.group ∈ scope.names then e.reading? env else none
  | _ => none

/-- What was read last, since the last reset. -/
def latest? (history : List (Environment × Step)) : Option e.Value :=
  (history.reverse.takeWhile (·.2 ≠ .reset)).findSome? e.readBy?

/-- Whether a step has to do with the entry: it touches its variable, overrides its group or resets
the configuration. -/
def concerns : Step → Bool
  | .set name _ | .unset name => name = e.variableName
  | .override scope => e.group ∈ scope.names
  | .reset => true
  | .load => false

/-- What a session holds of the entry: its variable and its value. -/
def view (s : Session) : Option Bytes × e.Value := (s.env.value? e.variableName, e.get s.config)

end Entry

namespace Session

variable {s t : Session} {steps : List Step} {step : Step} {e : Entry}

theorem run_append {more : List Step} : s.run (steps ++ more) = (s.run steps).run more :=
  List.foldl_append

theorem run_snoc : s.run (steps ++ [step]) = (s.run steps).step step := run_append

theorem history_snoc : Step.history s.env (steps ++ [step]) =
    Step.history s.env steps ++ [((s.run steps).env, step)] := by
  induction steps generalizing s with
  | nil => rfl
  | cons first steps ih => exact congrArg (List.cons _) (ih (s := s.step first))

/-- What a step does to an entry. -/
theorem get_step : e.get (s.step step).config =
    if step = .reset then e.get {} else (e.readBy? (s.env, step)).getD (e.get s.config) := by
  cases step with
  | override scope =>
    refine Scope.get_override.trans ?_
    simp only [reduceCtorEq, if_false, Entry.readBy?]
    split <;> rfl
  | _ => rfl

theorem latest?_snoc {history : List (Environment × Step)} {env : Environment} :
    e.latest? (history ++ [(env, step)]) =
      if step = .reset then none else (e.readBy? (env, step)).or (e.latest? history) := by
  rw [Entry.latest?, List.reverse_concat, List.takeWhile_cons]
  by_cases h : step = .reset
  · simp [h]
  · cases hr : e.readBy? (env, step) <;> simp [h, hr, Entry.latest?]

/-- Every entry holds what was read last, or else what it held at the reset or the start. -/
theorem get_run : e.get (s.run steps).config = (e.latest? (Step.history s.env steps)).getD
    (e.get (if .reset ∈ steps then {} else s.config)) := by
  induction steps using List.reverseRecOn with
  | nil => rfl
  | append_singleton steps step ih =>
    rw [run_snoc, get_step, history_snoc, latest?_snoc]
    by_cases h : step = .reset
    · simp [h]
    · rw [if_neg h, if_neg h, ih]
      simp only [List.mem_append, List.mem_singleton, Ne.symm h, or_false]
      cases e.readBy? ((s.run steps).env, step) <;> rfl

theorem view_step_of_not_concerns (h : ¬ e.concerns step) : e.view (s.step step) = e.view s := by
  cases step with
  | set name value | unset name =>
    have hname : name ≠ e.variableName := by simpa [Entry.concerns] using h
    exact Prod.ext (if_neg hname.symm) rfl
  | override scope =>
    have hmem : e.group ∉ scope.names := by simpa [Entry.concerns] using h
    exact Prod.ext rfl (Scope.get_override.trans (if_neg hmem))
  | reset => exact absurd rfl h
  | load => rfl

theorem view_step_congr (h : e.view s = e.view t) :
    e.view (s.step step) = e.view (t.step step) := by
  obtain ⟨hvalue, hget⟩ := Prod.ext_iff.1 h
  refine Prod.ext ?_ ?_
  · cases step with
    | set name value | unset name => exact congrArg (ite _ _) hvalue
    | _ => exact hvalue
  · have hread : e.readBy? (s.env, step) = e.readBy? (t.env, step) := by
      cases step with
      | override scope => exact congrArg (ite _ · _) (Entry.reading?_congr hvalue)
      | _ => rfl
    change e.get (s.step step).config = e.get (t.step step).config
    have hget' : e.get s.config = e.get t.config := hget
    rw [get_step, get_step, hread, hget']

theorem view_run_congr (h : e.view s = e.view t) :
    e.view (s.run steps) = e.view (t.run steps) := by
  induction steps generalizing s t with
  | nil => exact h
  | cons step steps ih => exact ih (view_step_congr h)

/-- What a session holds of an entry is the work of the steps that have to do with it. -/
theorem view_run_filter : e.view (s.run (steps.filter e.concerns)) = e.view (s.run steps) := by
  induction steps generalizing s with
  | nil => rfl
  | cons step steps ih =>
    by_cases h : e.concerns step
    · rw [List.filter_cons_of_pos h]
      exact ih
    · rw [List.filter_cons_of_neg h, ih]
      exact view_run_congr (view_step_of_not_concerns h).symm

theorem get_run_override {scopes : List Scope} : e.get (s.run (scopes.map .override)).config =
    if e.group ∈ scopes.flatMap Scope.names then (e.reading? s.env).getD (e.get s.config)
    else e.get s.config := by
  induction scopes generalizing s with
  | nil => rfl
  | cons scope scopes ih =>
    have hstep : e.get (s.step (.override scope)).config =
        if e.group ∈ scope.names then (e.reading? s.env).getD (e.get s.config)
        else e.get s.config := Scope.get_override
    refine (ih (s := s.step (.override scope))).trans ?_
    rw [hstep]
    change (if _ then (e.reading? s.env).getD _ else _) = _
    by_cases h : e.group ∈ scope.names
    · cases e.reading? s.env <;> simp [h]
    · simp [h]

/-- Overriding more than once, or in another order, sets nothing else. -/
theorem config_override_congr {scopes again : List Scope}
    (h : ∀ n, n ∈ scopes.flatMap Scope.names ↔ n ∈ again.flatMap Scope.names) :
    (s.run (scopes.map .override)).config = (s.run (again.map .override)).config := by
  refine Entry.ext fun e => ?_
  rw [get_run_override, get_run_override]
  simp only [h]

/-- A load takes the defaults and overrides them, apart from the configuration that lives on. -/
theorem step_load : s.step .load =
    { s with loaded := some (s.run [.reset, .override .everything]).config } := by
  have hload : (s.run [.reset, .override .everything]).config = (Client.load s.env).1 := by
    simp only [run, List.foldl, Session.step, Step.config, Step.environment, Scope.override,
      Client.load]
  rw [hload]
  rfl

/-- **A session reads every entry from its own variable.** Whatever happens, an entry holds what its
variable said when its group was last overridden, since the last reset, with the variable a text of
the entry's type; if that never happened it holds its default, or what it held at a start that is
not the defaults. So it depends on its own variable alone, does not change when the variable is
gone or unreadable, and is the same however often and in which order the groups are overridden. A
load is an override of the defaults and leaves the configuration as it is. -/
theorem run_reads_latest (start : Session) (steps : List Step) :
    (start.config = {} → ∀ e : Entry, e.get (start.run steps).config =
      (e.latest? (Step.history start.env steps)).getD (e.get {})) ∧
    (∀ e : Entry, e.get (start.run steps).config =
      (e.latest? (Step.history start.env steps)).getD
        (e.get (if .reset ∈ steps then {} else start.config))) ∧
    (∀ (e : Entry) (other : Session) (others : List Step),
      start.env.value? e.variableName = other.env.value? e.variableName →
      e.get start.config = e.get other.config →
      steps.filter e.concerns = others.filter e.concerns →
      e.get (start.run steps).config = e.get (other.run others).config) ∧
    (∀ e : Entry, .reset ∉ steps →
      (∀ visit ∈ Step.history start.env steps, e.readBy? visit = none) →
      e.get (start.run steps).config = e.get start.config) ∧
    (∀ scopes again : List Scope,
      (∀ n, n ∈ scopes.flatMap Scope.names ↔ n ∈ again.flatMap Scope.names) →
      (start.run (steps ++ scopes.map .override)).config =
        (start.run (steps ++ again.map .override)).config) ∧
    start.run (steps ++ [.load]) = { start.run steps with
      loaded := some (start.run (steps ++ [.reset, .override .everything])).config } := by
  refine ⟨fun hstart e => ?_, fun e => get_run, fun e other others hvalue hget hsteps => ?_,
    fun e hreset hnone => ?_, fun scopes again h => ?_, ?_⟩
  · rw [get_run, hstart, ite_self]
  · have hview : e.view (start.run (steps.filter e.concerns)) =
        e.view (other.run (others.filter e.concerns)) := by
      rw [hsteps]
      exact view_run_congr (Prod.ext hvalue hget)
    rw [view_run_filter, view_run_filter] at hview
    exact (Prod.ext_iff.1 hview).2
  · have hlatest : e.latest? (Step.history start.env steps) = none :=
      List.findSome?_eq_none_iff.2 fun visit h =>
        hnone visit (List.mem_reverse.1 ((List.takeWhile_sublist _).subset h))
    rw [get_run, hlatest, if_neg hreset]
    rfl
  · rw [run_append, run_append, config_override_congr h]
  · rw [run_snoc, run_append, step_load]

theorem chunk_size_outlives_variable :
    let start : Session := { env := .empty }
    let steps : List Step := [.set "MQTT_COMPLIANCE_DOWNLOAD_CHUNK_SIZE" (Utf8.encode "64"),
      .override (.group .download), .set "MQTT_COMPLIANCE_DOWNLOAD_CHUNK_SIZE" (Utf8.encode "x"),
      .override .everything]
    let others : List Step := .set "MQTT_COMPLIANCE_LOG_PREFIX" (Utf8.encode "a") :: steps
    let more : List Step :=
      [.unset "MQTT_COMPLIANCE_DOWNLOAD_CHUNK_SIZE", .override (.group .download)]
    (start.run steps).config.download.chunkSize = 64 ∧
    (start.run others).config.download.chunkSize = 64 ∧
    ((start.run steps).run more).config.download.chunkSize = 64 ∧
    (start.run (others ++ [.override (.group .log), .override .everything])).config =
      (start.run (others ++ [.override .everything])).config := by
  intro start steps others more
  let e : Entry := ⟨.download, downloadGroup.fields[1], List.getElem_mem _⟩
  let last := @id (Option UInt64) (e.latest? (Step.history start.env steps))
  have hlast : last = some 64 := by decide +kernel +zetaReduce
  have hsteps : steps.filter e.concerns = others.filter e.concerns := by
    decide +kernel +zetaReduce
  have hnone : ∀ visit ∈ Step.history (start.run steps).env more,
      @id (Option UInt64) (e.readBy? visit) = none := by
    decide +kernel +zetaReduce
  have hsize : (start.run steps).config.download.chunkSize = last.getD 1024 :=
    (run_reads_latest start steps).1 rfl e
  rw [hlast] at hsize
  refine ⟨hsize, ?_, ?_, ?_⟩
  · exact ((run_reads_latest start steps).2.2.1 e start others rfl rfl hsteps).symm.trans hsize
  · exact ((run_reads_latest (start.run steps) more).2.2.2.1 e (by decide) hnone).trans hsize
  · exact (run_reads_latest start others).2.2.2.2.1 [.group .log, .everything] [.everything]
      fun n => by cases n <;> decide

end Session

end MqttConformance.Config
