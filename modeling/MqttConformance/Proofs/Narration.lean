import MqttConformance.Cli.Program
import MqttConformance.Proofs.Layers
import MqttConformance.Proofs.Course
import MqttConformance.Proofs.Sink
import MqttConformance.Proofs.Steady

/-! The program beside the library. A run of the program is the run of a runner with lines said in
between (`Cli.carryOut_run_agrees`): each phase is steady, so that what has been said and logged
before does not change it, and the lines said can be read off from how far the run of the library
has come. -/

namespace MqttConformance

namespace Run.Library

variable (c : Config.Client)

/-- A run as a library carries it out, until it has been started. -/
def submission : Activity Submission := do
  let r ← Runner.build c
  r.submit c.run.configPath

/-- A run as a library carries it out, until its end is no longer awaited. -/
def wait : Activity WaitOutcome := do
  let r ← Runner.build c
  let _ ← r.submit c.run.configPath
  r.wait

/-- A run as a library carries it out. -/
def report : Activity RunReport := do
  let r ← Runner.build c
  r.runAll c.run.configPath

end Run.Library

namespace Outcome

variable {ε α : Type}

/-- The exit code of a program that ends like this; one that waits has none. -/
def exitCode : Outcome ε α → Option Nat
  | done _ => some 0
  | failed _ => some 1
  | blocked => none
  | crashed _ => some 101

variable {outcome : Outcome ε α}

theorem exitCode_eq_zero : outcome.exitCode = some 0 ↔ ∃ value, outcome = .done value := by
  cases outcome <;> simp [exitCode]

theorem exitCode_eq_one : outcome.exitCode = some 1 ↔ ∃ error, outcome = .failed error := by
  cases outcome <;> simp [exitCode]

end Outcome

namespace Cli

open Effect (Ends)
open Run (Runner)

/-- The line that an action puts on the output. -/
def lineOf : Action → Option String
  | .print line => some line
  | .observe message => some ("< " ++ message)
  | _ => none

@[simp] theorem lineOf_print (line : String) : lineOf (.print line) = some line := rfl

@[simp] theorem observed?_print (line : String) : (Action.print line).observed? = none := rfl

/-- What a run says, by how far it has come: the answer to its submission and its identifier once it
is started, every message that is heard, that it downloads once the wait is over, and what was saved
once it is finished. -/
def narration (submission : Outcome ClientError Run.Submission)
    (wait : Outcome ClientError Run.WaitOutcome) (report : Outcome ClientError Run.RunReport)
    (messages : List String) : List String :=
  match submission with
  | .done s =>
    s.response :: ("Run identifier: " ++ s.id.text) :: (messages.map ("< " ++ ·) ++
      match wait with
      | .done _ =>
        "Downloading" ::
          match report with
          | .done r => [savedLine r.download]
          | _ => []
      | _ => [])
  | _ => []

/-! ## Lines -/

variable {actions : List Action}

theorem output_eq : output actions = String.join ((actions.filterMap lineOf).map (· ++ "\n")) := by
  rw [output, List.map_filterMap]
  congr 2
  funext action
  cases action <;> rfl

theorem not_isPrint_of_isSend (h : ∀ action ∈ actions, action.isSend) :
    ∀ action ∈ actions, !action.isPrint := by
  intro action hmem
  have hsend := h action hmem
  cases action with
  | print line => cases hsend
  | _ => rfl

theorem filter_not_isPrint (h : ∀ action ∈ actions, !action.isPrint) :
    actions.filter (!·.isPrint) = actions := List.filter_eq_self.2 h

/-- Actions that print nothing are heard where they pass messages on. -/
theorem filterMap_lineOf (h : ∀ action ∈ actions, !action.isPrint) :
    actions.filterMap lineOf = (actions.filterMap Action.observed?).map ("< " ++ ·) := by
  rw [List.map_filterMap]
  refine List.filterMap_congr fun action hmem => ?_
  have hprint := h action hmem
  cases action with
  | print line => cases hprint
  | _ => rfl

theorem filterMap_observed?_sends (h : ∀ action ∈ actions, action.isSend) :
    actions.filterMap Action.observed? = [] := by
  refine List.filterMap_eq_nil_iff.2 fun action hmem => ?_
  have hsend := h action hmem
  cases action with
  | send request => rfl
  | _ => cases hsend

theorem filterMap_lineOf_sends (h : ∀ action ∈ actions, action.isSend) :
    actions.filterMap lineOf = [] := by
  rw [filterMap_lineOf (not_isPrint_of_isSend h), filterMap_observed?_sends h]
  rfl

theorem lineOf_of_isSend {action : Action} (h : action.isSend) : lineOf action = none := by
  cases action with
  | send request => rfl
  | _ => cases h

/-- Requests that come before everything else come before each line. -/
theorem prefix_of_lineOf {first before more rest : List Action} {action : Action}
    (h : ∀ action ∈ first, action.isSend) (heq : first ++ more = before ++ action :: rest)
    (hline : lineOf action ≠ none) : first <+: before := by
  rcases List.append_eq_append_iff.1 heq with ⟨as, hbefore, -⟩ | ⟨bs, hfirst, hmore⟩
  · exact ⟨as, hbefore.symm⟩
  · cases bs with
    | nil => exact ⟨[], by simpa using hfirst⟩
    | cons b bs =>
      obtain ⟨rfl, -⟩ := List.cons.inj hmore
      exact absurd (lineOf_of_isSend (h action (hfirst ▸ by simp))) hline

/-! ## The run of the program -/

/-- How the library's run ends and how the program's run ends, with the same requests before them
and the same files. -/
structure Beside (c : Config.Client) (services : Services) (n : Nat) (files : FileSystem)
    (submission : Outcome ClientError Run.Submission) (opening : List Action)
    (wait : Outcome ClientError Run.WaitOutcome) (report : Outcome ClientError Run.RunReport)
    (actions : List Action) (program : Outcome Failure Unit) (told : List Action)
    (after : FileSystem) : Prop where
  submission_ends : ∃ opened,
    (Run.Library.submission c).EndsFrom services n files submission opening opened
  wait_ends : ∃ waiting waited,
    (Run.Library.wait c).EndsFrom services n files wait waiting waited
  report_ends : (Run.Library.report c).EndsFrom services n files report actions after
  program_ends : (runTask c).EndsFrom services n files program told after
  exitCode_eq : program.exitCode = report.exitCode
  filter_told : told.filter (!·.isPrint) = actions
  lines_told : told.filterMap lineOf =
    narration submission wait report (actions.filterMap Action.observed?)
  opening_prefix {before rest : List Action} {action : Action} :
    told = before ++ action :: rest → lineOf action ≠ none →
      (∃ s, submission = .done s) ∧ opening <+: before

section

open Effect (EndsFrom)

variable {c : Config.Client} {services : Services} {n n₁ n₂ n₃ : Nat}
variable {files files₁ files₂ files₃ files₄ : FileSystem}
variable {building submitting waiting downloading : List Action}
variable {r : Runner} {s : Run.Submission} {w : Run.WaitOutcome} {d : Run.DownloadSummary}
variable {halt : Halt ClientError}

/-- A run that ends before it is started says nothing. -/
theorem Beside.of_halt {opened : FileSystem} {opening : List Action}
    {program : Outcome Failure Unit}
    (hall : ∀ action ∈ opening, action.isSend)
    (hsubmission : (Run.Library.submission c).EndsFrom services n files halt.outcome opening opened)
    (hwait : (Run.Library.wait c).EndsFrom services n files halt.outcome opening opened)
    (hreport : (Run.Library.report c).EndsFrom services n files halt.outcome opening opened)
    (hprogram : (runTask c).EndsFrom services n files program opening opened)
    (hcode : program.exitCode = (halt.outcome : Outcome ClientError Run.RunReport).exitCode) :
    Beside c services n files halt.outcome opening halt.outcome halt.outcome opening program opening
      opened where
  submission_ends := ⟨_, hsubmission⟩
  wait_ends := ⟨_, _, hwait⟩
  report_ends := hreport
  program_ends := hprogram
  exitCode_eq := hcode
  filter_told := filter_not_isPrint (not_isPrint_of_isSend hall)
  lines_told := by
    rw [filterMap_lineOf_sends hall]
    cases halt <;> rfl
  opening_prefix htold hline :=
    absurd (lineOf_of_isSend (hall _ (htold ▸ List.mem_append_right _ List.mem_cons_self))) hline

theorem exitCode_halt {α β : Type} {f : ClientError → Failure} :
    ((halt.map f).outcome : Outcome Failure α).exitCode =
      (halt.outcome : Outcome ClientError β).exitCode := by
  cases halt <;> rfl

theorem say_bind {line : String} {α : Type} {next : Unit → Task α} {outcome : Outcome Failure α}
    {actions : List Action} (h : (next ()).EndsFrom services n files outcome actions files₁) :
    (say line >>= next).EndsFrom services n files outcome (.print line :: actions) files₁ :=
  (EndsFrom.act (.print line)).bind h

/-- A run that has been started says so before everything else. -/
theorem Beside.of_started {wait : Outcome ClientError Run.WaitOutcome}
    {report : Outcome ClientError Run.RunReport} {program : Outcome Failure Unit}
    {opening actions told : List Action} {waited after : FileSystem}
    (hall : ∀ action ∈ opening, action.isSend)
    (hsubmission : (Run.Library.submission c).EndsFrom services n files (.done s) opening files₁)
    (hwait : (Run.Library.wait c).EndsFrom services n files wait waiting waited)
    (hreport : (Run.Library.report c).EndsFrom services n files report (opening ++ actions) after)
    (hprogram : (runTask c).EndsFrom services n files program
      (opening ++ .print s.response :: .print ("Run identifier: " ++ s.id.text) :: told) after)
    (hcode : program.exitCode = report.exitCode) (hfilter : told.filter (!·.isPrint) = actions)
    (hlines : s.response :: ("Run identifier: " ++ s.id.text) :: told.filterMap lineOf =
      narration (.done s) wait report (actions.filterMap Action.observed?)) :
    Beside c services n files (.done s) opening wait report (opening ++ actions) program
      (opening ++ .print s.response :: .print ("Run identifier: " ++ s.id.text) :: told) after where
  submission_ends := ⟨_, hsubmission⟩
  wait_ends := ⟨_, _, hwait⟩
  report_ends := hreport
  program_ends := hprogram
  exitCode_eq := hcode
  filter_told := by
    have hsilent := filter_not_isPrint (not_isPrint_of_isSend hall)
    rw [List.filter_append, hsilent, ← hfilter]
    rfl
  lines_told := by
    rw [List.filterMap_append, List.filterMap_append, filterMap_lineOf_sends hall,
      filterMap_observed?_sends hall]
    exact hlines
  opening_prefix htold hline := ⟨⟨s, rfl⟩, prefix_of_lineOf hall htold hline⟩

/-- Once a run has been started, it is narrated as far as it comes. -/
theorem exists_beside_of_started
    (hbuild : (Runner.build c).EndsFrom services n files (.done r) building files₁)
    (hsubmit : (r.submit c.run.configPath).EndsFrom services
      (n + building.countP Action.isSend) files₁ (.done s) submitting files₂)
    (hall : ∀ action ∈ building ++ submitting, action.isSend) :
    ∃ wait report actions program told after,
      Beside c services n files (.done s) (building ++ submitting) wait report actions program told
        after := by
  have hsubmission : (Run.Library.submission c).EndsFrom services n files (.done s)
      (building ++ submitting) files₂ := hbuild.bind hsubmit
  obtain ⟨waited, waiting, files₃, hall₃, hwait⟩ := r.steady_wait services _ files₂
  have hlines₃ := filterMap_lineOf hall₃
  have hfilter₃ := filter_not_isPrint hall₃
  rcases waited.done_or_halt with ⟨w, rfl⟩ | ⟨halt, rfl⟩
  swap
  · -- the wait ends the run: nothing is downloaded, and nothing more is printed
    have hreport : (Run.Library.report c).EndsFrom services n files halt.outcome
        (building ++ (submitting ++ waiting)) files₃ :=
      hbuild.bind (hsubmit.bind hwait.bind_halt)
    have hprogram : (runTask c).EndsFrom services n files (halt.map (.mk .completion)).outcome
        (building ++ (submitting ++
          .print s.response :: .print ("Run identifier: " ++ s.id.text) :: waiting)) files₃ :=
      hbuild.mapError_done.bind (hsubmit.mapError_done.bind
        (say_bind (say_bind hwait.mapError_halt.bind_halt)))
    rw [← List.append_assoc] at hreport hprogram
    refine ⟨_, _, _, _, _, _, .of_started hall hsubmission (hbuild.bind (hsubmit.bind hwait))
      hreport hprogram exitCode_halt hfilter₃ ?_⟩
    cases halt <;> simp [hlines₃, narration, Halt.outcome]
  have hwait' : (Run.Library.wait c).EndsFrom services n files (.done w)
      (building ++ (submitting ++ waiting)) files₃ := hbuild.bind (hsubmit.bind hwait)
  obtain ⟨downloaded, downloading, files₄, hall₄, hdownload⟩ :=
    r.steady_download s.id services _ files₃
  have hlines₄ := filterMap_lineOf_sends hall₄
  have hobserved₄ := filterMap_observed?_sends hall₄
  have hfilter₄ := filter_not_isPrint (not_isPrint_of_isSend hall₄)
  rcases downloaded.done_or_halt with ⟨d, rfl⟩ | ⟨halt, rfl⟩
  · -- a report: the summary is the last line
    have hreport : (Run.Library.report c).EndsFrom services n files (.done ⟨s.id, w, d⟩)
        (building ++ (submitting ++ (waiting ++ (downloading ++ [])))) files₄ :=
      hbuild.bind (hsubmit.bind (hwait.bind (hdownload.bind (.quiet_bind (.report _) (.pure _)))))
    have hprogram : (runTask c).EndsFrom services n files (.done ())
        (building ++ (submitting ++
          .print s.response :: .print ("Run identifier: " ++ s.id.text) ::
            (waiting ++ .print "Downloading" :: (downloading ++ [.print (savedLine d)])))) files₄ :=
      hbuild.mapError_done.bind (hsubmit.mapError_done.bind
        (say_bind (say_bind (hwait.mapError_done.bind (.quiet_bind (.report _)
          (say_bind (hdownload.mapError_done.bind (.act _))))))))
    rw [← List.append_assoc] at hreport hprogram
    refine ⟨_, _, _, _, _, _, .of_started hall hsubmission hwait' hreport hprogram rfl ?_ ?_⟩
    · simp [hfilter₃, hfilter₄]
    · simp [hlines₃, hlines₄, hobserved₄, narration]
  · -- the download ends the run, after it was announced
    have hreport : (Run.Library.report c).EndsFrom services n files halt.outcome
        (building ++ (submitting ++ (waiting ++ downloading))) files₄ :=
      hbuild.bind (hsubmit.bind (hwait.bind hdownload.bind_halt))
    have hprogram : (runTask c).EndsFrom services n files (halt.map (.mk (.download s.id))).outcome
        (building ++ (submitting ++
          .print s.response :: .print ("Run identifier: " ++ s.id.text) ::
            (waiting ++ .print "Downloading" :: downloading))) files₄ :=
      hbuild.mapError_done.bind (hsubmit.mapError_done.bind
        (say_bind (say_bind (hwait.mapError_done.bind (.quiet_bind (.report _)
          (say_bind hdownload.mapError_halt.bind_halt))))))
    rw [← List.append_assoc] at hreport hprogram
    refine ⟨_, _, _, _, _, _, .of_started hall hsubmission hwait' hreport hprogram exitCode_halt
      ?_ ?_⟩
    · simp [hfilter₃, hfilter₄]
    · cases halt <;> simp [hlines₃, hlines₄, hobserved₄, narration, Halt.outcome]

end

theorem exists_beside (c : Config.Client) (services : Services) (n : Nat) (files : FileSystem) :
    ∃ submission opening wait report actions program told after,
      Beside c services n files submission opening wait report actions program told after := by
  obtain ⟨built, building, files₁, hall₁, hbuild⟩ := Runner.steady_build c services n files
  rcases built.done_or_halt with ⟨r, rfl⟩ | ⟨halt, rfl⟩
  swap
  · exact ⟨_, _, _, _, _, _, _, _, .of_halt hall₁ hbuild.bind_halt hbuild.bind_halt
      hbuild.bind_halt hbuild.mapError_halt.bind_halt exitCode_halt⟩
  obtain ⟨submitted, submitting, files₂, hall₂, hsubmit⟩ :=
    r.steady_submit c.run.configPath services _ files₁
  have hall : ∀ action ∈ building ++ submitting, action.isSend := fun action hmem =>
    (List.mem_append.1 hmem).elim (hall₁ action) (hall₂ action)
  rcases submitted.done_or_halt with ⟨s, rfl⟩ | ⟨halt, rfl⟩
  · exact ⟨_, _, exists_beside_of_started hbuild hsubmit hall⟩
  · exact ⟨_, _, _, _, _, _, _, _, .of_halt hall (hbuild.bind hsubmit)
      (hbuild.bind hsubmit.bind_halt) (hbuild.bind hsubmit.bind_halt)
      (hbuild.mapError_done.bind hsubmit.mapError_halt.bind_halt) exitCode_halt⟩

/-! ## No crash -/

/-- Building a runner depends on the two URLs alone: the client's name can always be sent. -/
theorem build_ends (c : Config.Client) (services : Services) (world : World) :
    (Runner.build c).Ends services world
      (.ofExcept ((Run.Endpoints.ofConfig c.endpoints).map (Runner.ofEndpoints · c))) []
      world.files := by
  have hclient (world : World) :
      (Http.Client.build c.http Http.Client.defaultUserAgent).Ends services world
        (.done ⟨Http.Client.defaultUserAgent, !c.http.acceptInvalidCerts⟩) [] world.files := by
    have hname : Http.Client.isHeaderText Http.Client.defaultUserAgent = true := by decide
    unfold Http.Client.build
    rw [if_pos hname]
    split
    · exact .bind_quiet (.report rfl) fun _ _ hf => .pure hf
    · exact .pure rfl
  unfold Runner.build
  cases Run.Endpoints.ofConfig c.endpoints with
  | error error => exact Ends.bind_failed (.ofExcept rfl)
  | ok e =>
    refine Ends.bind_quiet (.ofExcept rfl) fun world₁ _ hf₁ => ?_
    rw [← hf₁]
    exact .bind_quiet (hclient world₁) fun _ _ hf => .pure hf

/-- Without endpoints, a run of the library ends before anything is done. -/
theorem report_fails {c : Config.Client} {services : Services} {world : World} {error : ClientError}
    (he : Run.Endpoints.ofConfig c.endpoints = .error error) :
    ((Run.Library.report c).run services world).1 = .failed error := by
  have hbuild := build_ends c services world
  rw [he] at hbuild
  have hends : (Run.Library.report c).Ends services world (.failed error) [] world.files :=
    hbuild.bind_failed
  exact hends.outcome_eq

/-- A run of the library takes one of the courses of its scene, in which building the runner has
been logged. -/
theorem report_course {c : Config.Client} {e : Run.Endpoints}
    (he : Run.Endpoints.ofConfig c.endpoints = .ok e) (services : Services) (world : World) :
    ∃ events actions outcome files,
      (⟨e, c, services, { world with log := world.log ++ events }, c.run.configPath⟩ :
        Run.Scene).Course actions outcome files ∧
      (Run.Library.report c).Ends services world outcome actions files := by
  have hbuild := build_ends c services world
  rw [he] at hbuild
  obtain ⟨events, hbuild⟩ := hbuild
  rw [List.append_nil] at hbuild
  let scene : Run.Scene :=
    ⟨e, c, services, { world with log := world.log ++ events }, c.run.configPath⟩
  obtain ⟨actions, outcome, files, hcourse, more, hrun⟩ :=
    scene.runAll_course (Run.Endpoints.base_of_ofTexts he).2
  refine ⟨events, actions, outcome, files, hcourse, events ++ more, ?_⟩
  rw [Run.Library.report, Effect.run_bind, hbuild, ← List.append_assoc]
  exact hrun

/-- With a copy buffer that can be had, a run of the library does not crash. -/
theorem report_ne_crashed {c : Config.Client} {services : Services} {world : World}
    {message : String} (hsize : c.download.chunkSize.toNat < 2 ^ 63) :
    ((Run.Library.report c).run services world).1 ≠ .crashed message := by
  have hbound : Run.Copy.bufferSize c.download.chunkSize.toNat < Run.Copy.bufferBound := by
    unfold Run.Copy.bufferSize Run.Copy.bufferBound
    omega
  intro hcrash
  cases he : Run.Endpoints.ofConfig c.endpoints with
  | error error => cases (report_fails he).symm.trans hcrash
  | ok e =>
    obtain ⟨_, _, _, _, hcourse, hends⟩ := report_course he services world
    rw [hends.outcome_eq.symm.trans hcrash] at hcourse
    cases hcourse with
    | crashed _ _ h => exact absurd h (Nat.not_le.2 hbound)

/-! ## The command line -/

section

variable {c : Config.Client} {filter : Option Log.Filter} {stamp : Log.Stamp}
variable {services : Services} {files : FileSystem}

/-- A log on the console changes no file. -/
theorem files_ofPlan (h : Log.Destination.ofSetting files c.log.dest = .console) :
    (Log.Logger.ofPlan (Log.Plan.ofConfig files versionText c.log) filter stamp files).files =
      files := by
  have hfile : Log.Logger.wantedFile? (Log.Plan.ofConfig files versionText c.log) stamp = none := by
    simp only [Log.Logger.wantedFile?, Log.Plan.ofConfig, h]
  rw [Log.Logger.ofPlan_console hfile]

/-- A run of the program leaves what its task leaves, in the files and with the log that opening the
logger has left. -/
theorem carryOutRun_eq_task {opened : Log.Logger.Opened} (h :
    Log.Logger.ofPlan (Log.Plan.ofConfig files versionText c.log) filter stamp files = opened) :
    let program := carryOutRun c filter stamp services files
    let task := (runTask c).run services { files := opened.files, log := opened.events }
    program.exitCode = task.1.exitCode ∧ program.output = output task.2.trace ∧
      program.world = task.2 := by
  unfold carryOutRun
  simp only [h]
  cases (runTask c).run services { files := opened.files, log := opened.events } with
  | mk outcome world => cases outcome <;> exact ⟨rfl, rfl, rfl⟩

/-- With a log on the console, opening the logger leaves nothing but what it has logged. -/
theorem exists_runTask (h : Log.Destination.ofSetting files c.log.dest = .console) :
    ∃ events,
      let program := carryOutRun c filter stamp services files
      let task := (runTask c).run services { files := files, log := events }
      program.exitCode = task.1.exitCode ∧ program.output = output task.2.trace ∧
        program.world = task.2 := by
  obtain ⟨opened, hopened⟩ : ∃ opened,
      Log.Logger.ofPlan (Log.Plan.ofConfig files versionText c.log) filter stamp files = opened :=
    ⟨_, rfl⟩
  have hfiles : opened.files = files := hopened ▸ files_ofPlan h
  have htask := @carryOutRun_eq_task c filter stamp services files opened hopened
  rw [hfiles] at htask
  exact ⟨opened.events, htask⟩

end

/-- **The program beside the library.** A run of the program whose log goes to the console does what
a run of the library does and leaves the same files, and its exit code says how that ends. Its
output is the narration of that run, of which no line comes before the run has been submitted and
started. -/
theorem carryOut_run_agrees {words : List Bytes} {env : Config.Environment} {files : FileSystem}
    {i : Invocation} (hi : Invocation.ofWords words = .ok i) (hrun : i.command = .run)
    (hsize : (i.effectiveConfig env).download.chunkSize.toNat < 2 ^ 63)
    (hdest : Log.Destination.ofSetting files (i.effectiveConfig env).log.dest = .console)
    (stamp : Log.Stamp) (services : Services) :
    let program := carryOut words env stamp services files
    let world : World := { files := files }
    let submission := (Run.Library.submission (i.effectiveConfig env)).run services world
    let wait := (Run.Library.wait (i.effectiveConfig env)).run services world
    let report := (Run.Library.report (i.effectiveConfig env)).run services world
    program.world.trace.filter (!·.isPrint) = report.2.trace ∧
    program.world.files = report.2.files ∧
    (program.exitCode = some 0 ↔ ∃ r, report.1 = .done r) ∧
    (program.exitCode = some 1 ↔ ∃ error, report.1 = .failed error) ∧
    (program.exitCode ≠ some 0 → program.exitCode ≠ some 1 →
      program.exitCode = none ∧ report.1 = .blocked) ∧
    program.output = String.join
      ((narration submission.1 wait.1 report.1 (report.2.trace.filterMap Action.observed?)).map
        (· ++ "\n")) ∧
    ∀ before action rest, program.world.trace = before ++ action :: rest → lineOf action ≠ none →
      (∃ s, submission.1 = .done s) ∧ submission.2.trace <+: before := by
  intro program world submission wait report
  have hprogram : program = carryOutRun (i.effectiveConfig env)
      (Log.Logger.userFilter? (env.value? filterVariable)) stamp services files := by
    simp only [program, carryOut, hi, hrun]
  obtain ⟨events, hcode, houtput, hworld⟩ := hprogram ▸ exists_runTask hdest
  obtain ⟨_, opening, _, _, actions, _, told, _, hbeside⟩ :=
    exists_beside (i.effectiveConfig env) services 0 files
  obtain ⟨_, hsubmission⟩ := hbeside.submission_ends
  obtain ⟨_, _, hwait⟩ := hbeside.wait_ends
  have hsubmission := hsubmission world rfl rfl
  have hwait := hwait world rfl rfl
  have hreport := hbeside.report_ends world rfl rfl
  have htask := hbeside.program_ends { files := files, log := events } rfl rfl
  have htold : program.world.trace = told := by rw [hworld, htask.trace_eq]; rfl
  have hactions : report.2.trace = actions := hreport.trace_eq
  have hopening : submission.2.trace = opening := hsubmission.trace_eq
  rw [htask.outcome_eq, hbeside.exitCode_eq, ← hreport.outcome_eq] at hcode
  refine ⟨?trace, ?files, ?success, ?failure, ?waiting, ?output, ?order⟩
  case trace => rw [htold, hbeside.filter_told, hactions]
  case files => rw [hworld, htask.files_eq, hreport.files_eq]
  case success => rw [hcode, Outcome.exitCode_eq_zero]
  case failure => rw [hcode, Outcome.exitCode_eq_one]
  case waiting =>
    intro hzero hone
    rw [hcode] at hzero hone ⊢
    cases houtcome : report.1 with
    | done r => simp [report, houtcome, Outcome.exitCode] at hzero
    | failed error => simp [report, houtcome, Outcome.exitCode] at hone
    | blocked => simp [Outcome.exitCode]
    | crashed message => exact absurd houtcome (report_ne_crashed hsize)
  case output =>
    rw [houtput, ← hworld, htold, output_eq, hbeside.lines_told, hsubmission.outcome_eq,
      hwait.outcome_eq, hreport.outcome_eq, hactions]
  case order =>
    intro before action rest heq hline
    rw [htold] at heq
    rw [hopening, hsubmission.outcome_eq]
    exact hbeside.opening_prefix heq hline

theorem finished_run_is_narrated :
    let words := ["run", "--base-url=http://[::1]/", "--notification-url", "ws://[::1]/"].map
      Utf8.encode
    let files : FileSystem := ⟨[([Utf8.encode "config.json"], .file (Utf8.encode "[]"))], []⟩
    let receipt : Http.Body := { chunks := [Utf8.encode "\x7b\"timestamp\":7\x7d"] }
    let archive : Http.Body := { chunks := [[1, 2], [3]] }
    let services : Services :=
      { answer := fun n q => .ok ⟨⟨200⟩, q.url, if n = 2 then archive else receipt⟩
        channel := fun _ => .ok ⟨[.text "hello"], .ended, .ok ()⟩ }
    let program := carryOut words .empty ⟨"", ""⟩ services files
    program.exitCode = some 0 ∧
      program.output = "\x7b\"timestamp\":7\x7d\nRun identifier: 7\n< hello\nDownloading\n" ++
        "Saved 3 bytes to ./result_7.zip (HTTP 200)\n" := by
  intro words files receipt archive services program
  let c : Config.Client := { endpoints := ⟨"http://[::1]/", "ws://[::1]/"⟩ }
  obtain ⟨i, hi, hread⟩ : ∃ i, Invocation.ofWords words = .ok i ∧
      (i.command, i.effectiveConfig .empty) = (.run, c) := exists_ok_of_map (by decide +kernel)
  obtain ⟨hrun, hc⟩ := Prod.mk.inj hread
  have hdest : Log.Destination.ofSetting files (i.effectiveConfig .empty).log.dest = .console := by
    rw [hc]
    rfl
  have hagrees := carryOut_run_agrees hi hrun (by rw [hc]; decide) hdest ⟨"", ""⟩ services
  rw [hc] at hagrees
  obtain ⟨-, -, hzero, -, -, houtput, -⟩ := hagrees
  refine ⟨hzero.2 (Outcome.exitCode_eq_zero.1 ?_), houtput.trans ?_⟩
  all_goals decide +kernel

end Cli

end MqttConformance
