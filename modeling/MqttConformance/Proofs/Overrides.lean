import Mathlib
import MqttConformance.Config.Environment
import MqttConformance.Proofs.Utf8

/-! Overrides of variables that are nested in each other. They are installed and removed again, the
latest one first, and each holds what it replaced. `Overridden` keeps the overrides in place on a
stack; `Nested` describes the calls after which none is in place. What is left then is the first
environment, without the values of the overridden variables that are not text
(`Overridden.nested_calls_restore_iff`). -/

namespace MqttConformance.Config

namespace Override

/-- A call of a user of overrides. -/
inductive Call where
  | install (name : String) (value : Bytes)
  /-- Removes the latest override that is in place. -/
  | remove
  deriving DecidableEq, Repr

/-- Calls that remove every override they install, the latest one first. -/
inductive Nested : List Call → Prop where
  | nothing : Nested []
  | within {name : String} {value : Bytes} {inner rest : List Call} (hinner : Nested inner)
      (hrest : Nested rest) : Nested (.install name value :: (inner ++ .remove :: rest))

/-- The variables that are overridden. -/
def installed (calls : List Call) : List String :=
  calls.filterMap fun
    | .install name _ => some name
    | .remove => none

@[simp] theorem installed_nil : installed [] = [] := rfl

@[simp] theorem installed_install (name : String) (value : Bytes) (calls : List Call) :
    installed (.install name value :: calls) = name :: installed calls := rfl

@[simp] theorem installed_remove (calls : List Call) :
    installed (.remove :: calls) = installed calls := rfl

@[simp] theorem installed_append (calls more : List Call) :
    installed (calls ++ more) = installed calls ++ installed more := List.filterMap_append

/-- Calls that remove `depth` overrides that were there before, besides all that they install. -/
def Unwinds : Nat → List Call → Prop
  | 0, calls => Nested calls
  | depth + 1, calls => ∃ inner rest, calls = inner ++ .remove :: rest ∧ Nested inner ∧
      Unwinds depth rest

theorem Unwinds.install {name : String} {value : Bytes} {depth : Nat} {calls : List Call}
    (h : Unwinds (depth + 1) calls) : Unwinds depth (.install name value :: calls) := by
  obtain ⟨inner, rest, rfl, hinner, hrest⟩ := h
  cases depth with
  | zero => exact .within hinner hrest
  | succ depth =>
    obtain ⟨inner', rest', rfl, hinner', hrest'⟩ := hrest
    refine ⟨.install name value :: (inner ++ .remove :: inner'), rest', ?_, ?_, hrest'⟩
    · simp
    · exact .within hinner hinner'

end Override

namespace Environment

/-- The environment without the values of the given variables that are not text. -/
def keepText (env : Environment) (names : List String) : Environment :=
  ⟨fun n => if n ∈ names then (env.text? n).map Utf8.encode else env.value? n⟩

variable {env : Environment} {name : String} {names more : List String}

theorem value?_keepText : (env.keepText names).value? name =
    if name ∈ names then (env.text? name).map Utf8.encode else env.value? name := rfl

/-- Keeping the text of a variable keeps its value, unless that is not text. -/
theorem map_text?_eq_value? : (env.text? name).map Utf8.encode = env.value? name ↔
    ∀ bytes, env.value? name = some bytes → ∃ text, bytes = Utf8.encode text := by
  unfold text?
  cases env.value? name with
  | none => simp
  | some bytes =>
    cases h : Utf8.decode? bytes with
    | none =>
      have hnone (text : String) : bytes ≠ Utf8.encode text := fun heq => by
        rw [heq, Utf8.decode?_eq_some.2 rfl] at h
        cases h
      simp [h, hnone]
    | some text =>
      have hbytes : bytes = Utf8.encode text := Utf8.decode?_eq_some.1 h
      exact ⟨fun _ _ heq => ⟨text, (Option.some.inj heq).symm.trans hbytes⟩, fun _ => by
        rw [Option.bind_some, h, hbytes]
        rfl⟩

theorem text?_map_text? :
    ((env.text? name).map Utf8.encode).bind Utf8.decode? = env.text? name := by
  cases env.text? name with
  | none => rfl
  | some text => exact Utf8.decode?_eq_some.2 rfl

@[simp] theorem text?_keepText : (env.keepText names).text? name = env.text? name := by
  unfold text? keepText
  dsimp only
  split
  · exact text?_map_text?
  · rfl

@[simp] theorem keepText_nil : env.keepText [] = env := Environment.ext fun n => by simp [keepText]

theorem keepText_keepText : (env.keepText names).keepText more = env.keepText (names ++ more) := by
  refine Environment.ext fun n => ?_
  simp only [value?_keepText, text?_keepText, List.mem_append]
  by_cases h : n ∈ more <;> simp [h]

/-- The environment is kept whole exactly if the given variables hold text. -/
theorem keepText_eq_self : env.keepText names = env ↔ ∀ name ∈ names, ∀ bytes,
    env.value? name = some bytes → ∃ text, bytes = Utf8.encode text := by
  rw [Environment.ext_iff]
  refine forall_congr' fun name => ?_
  rw [value?_keepText, ← map_text?_eq_value?]
  split <;> simp [*]

end Environment

/-- An override puts back what it replaced, as far as that is text, whatever has become of other
variables in between. -/
theorem Override.remove_install (env : Environment) (name : String) (value : Bytes)
    (names : List String) :
    (Override.install env name value).1.remove
      ((Override.install env name value).2.keepText names) = env.keepText (name :: names) := by
  have hremove (env' : Environment) : (Override.install env name value).1.remove env' =
      ⟨fun n => if n = name then (env.text? name).map Utf8.encode else env'.value? n⟩ := by
    unfold install remove
    cases env.text? name <;> rfl
  rw [hremove]
  refine Environment.ext fun n => ?_
  simp only [Environment.value?_keepText, List.mem_cons]
  by_cases h : n = name
  · simp [h]
  · have hvalue : (install env name value).2.value? n = env.value? n := by simp [install, h]
    have htext : (install env name value).2.text? n = env.text? n := Environment.text?_congr hvalue
    rw [if_neg h, hvalue, htext]
    simp [h]

/-- The overrides in place, the latest one first, and the environment. -/
structure Overridden where
  inPlace : List Override := []
  env : Environment

namespace Overridden

open Override (Call Nested Unwinds installed)

def step (s : Overridden) : Call → Option Overridden
  | .install name value =>
    let (o, env) := Override.install s.env name value
    some ⟨o :: s.inPlace, env⟩
  | .remove =>
    match s.inPlace with
    | [] => none
    | o :: others => some ⟨others, o.remove s.env⟩

def run (s : Overridden) (calls : List Call) : Option Overridden := calls.foldlM step s

variable {s t : Overridden} {calls more : List Call} {env after : Environment}

theorem run_cons {call : Call} : s.run (call :: calls) = (s.step call).bind (·.run calls) := rfl

theorem run_append : s.run (calls ++ more) = (s.run calls).bind (·.run more) := List.foldlM_append

/-- Nested calls leave the overrides in place as they were, and all text. -/
theorem run_nested (h : Nested calls) (s : Overridden) :
    s.run calls = some ⟨s.inPlace, s.env.keepText (installed calls)⟩ := by
  induction h generalizing s with
  | nothing => simp [run]
  | @within name value inner rest _ _ ihinner ihrest =>
    obtain ⟨inPlace, env⟩ := s
    have hstep : step ⟨inPlace, env⟩ (.install name value) =
        some ⟨(Override.install env name value).1 :: inPlace,
          (Override.install env name value).2⟩ := rfl
    have hremove (env' : Environment) :
        step ⟨(Override.install env name value).1 :: inPlace, env'⟩ .remove =
          some ⟨inPlace, (Override.install env name value).1.remove env'⟩ := rfl
    rw [run_cons, hstep, Option.bind_some, run_append, ihinner, Option.bind_some, run_cons, hremove,
      Option.bind_some, ihrest, Override.remove_install, Environment.keepText_keepText]
    simp

/-- Calls that leave no override in place remove all that were there, one after another. -/
theorem unwinds_of_run (h : s.run calls = some ⟨[], after⟩) : Unwinds s.inPlace.length calls := by
  induction calls generalizing s with
  | nil =>
    cases h
    exact .nothing
  | cons call calls ih =>
    rw [run_cons] at h
    obtain ⟨t, hstep, hrun⟩ := Option.bind_eq_some_iff.1 h
    cases call with
    | install name value =>
      cases hstep
      exact (ih hrun).install
    | remove =>
      obtain ⟨inPlace, env⟩ := s
      cases inPlace with
      | nil => cases hstep
      | cons o others =>
        cases hstep
        exact ⟨[], calls, rfl, .nothing, ih hrun⟩

/-- **What is left of overrides.** The calls after which every override has been removed, the latest
one first, are the nested ones. Then each variable that was overridden holds what it held at first
if that is text, and is gone otherwise, and all other variables are as they were. So the environment
is the first one exactly if every variable that was overridden had been unset or held text. -/
theorem nested_calls_restore_iff (env : Environment) (calls : List Call) :
    (Nested calls ↔ ∃ after, run { env := env } calls = some { env := after }) ∧
    ∀ after, run { env := env } calls = some { env := after } →
      (∀ name, after.value? name =
        if name ∈ installed calls then (env.text? name).map Utf8.encode else env.value? name) ∧
      (after = env ↔ ∀ name ∈ installed calls, ∀ bytes, env.value? name = some bytes →
        ∃ text, bytes = Utf8.encode text) := by
  refine ⟨⟨fun h => ⟨_, run_nested h _⟩, fun ⟨after, h⟩ => unwinds_of_run h⟩, fun after h => ?_⟩
  have hnested : Nested calls := unwinds_of_run h
  obtain rfl : after = env.keepText (installed calls) := by
    have hrun := h.symm.trans (run_nested hnested _)
    cases hrun
    rfl
  exact ⟨fun _ => Environment.value?_keepText, Environment.keepText_eq_self⟩

/-- Two overrides of one variable and one of another between them. -/
theorem stacked_overrides_restore :
    let env := (Environment.empty.set "A" (Utf8.encode "first")).set "B" [0xff]
    let calls : List Call := [.install "A" [0xff], .install "C" [], .install "A" (Utf8.encode "x"),
      .remove, .remove, .remove]
    Nested calls ∧ (∀ name ∈ installed calls, ∀ bytes, env.value? name = some bytes →
      ∃ text, bytes = Utf8.encode text) ∧ run { env := env } calls = some { env := env } := by
  intro env calls
  have hnested : Nested calls :=
    @Nested.within _ _ [.install "C" [], .install "A" (Utf8.encode "x"), .remove, .remove] []
      (@Nested.within _ _ [.install "A" (Utf8.encode "x"), .remove] []
        (.within .nothing .nothing) .nothing) .nothing
  have htext : ∀ name ∈ installed calls, ∀ bytes, env.value? name = some bytes →
      ∃ text, bytes = Utf8.encode text := by
    have hvalues : env.value? "A" = some (Utf8.encode "first") ∧ env.value? "C" = none := by
      decide
    intro name hname bytes hbytes
    have hcases : name = "A" ∨ name = "C" ∨ name = "A" := by simpa [calls] using hname
    rcases hcases.elim .inl Or.symm with rfl | rfl
    · exact ⟨"first", Option.some.inj (hbytes.symm.trans hvalues.1)⟩
    · cases hvalues.2.symm.trans hbytes
  obtain ⟨hiff, hrestore⟩ := nested_calls_restore_iff env calls
  obtain ⟨after, hrun⟩ := hiff.1 hnested
  obtain rfl : after = env := (hrestore after hrun).2.2 htext
  exact ⟨hnested, htext, hrun⟩

/-- A value that is not text is lost under an override: the environment is not the first one once
all is removed. -/
theorem override_loses_bytes :
    ¬ ∀ (env : Environment) (calls : List Call), Nested calls →
      run { env := env } calls = some { env := env } := by
  intro hall
  have hrun := hall (Environment.empty.set "A" [0xff]) [.install "A" [], .remove]
    (.within .nothing .nothing)
  have hvalue : (run { env := Environment.empty.set "A" [0xff] } [.install "A" [], .remove]).map
      (fun s => s.env.value? "A") = some none := by
    decide +kernel
  rw [hrun] at hvalue
  cases hvalue

end Overridden

end MqttConformance.Config
