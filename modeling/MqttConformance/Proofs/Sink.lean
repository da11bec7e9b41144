import MqttConformance.Proofs.Footprint
import MqttConformance.Proofs.WriterPath

/-! Where log records go. Opening a logger makes at most one file, and directories that lead to it
(`FileSystem.Grown`); from then on there is one sink, which gets every record that is serious enough
for it (`Logger.records_reach_one_sink`). -/

namespace MqttConformance

namespace FileSystem

variable {fs between after : FileSystem} {path : Path}

/-- `after` is `fs` with more directories. -/
structure Grown (fs after : FileSystem) : Prop where
  workDir : after.workDir = fs.workDir
  nodes (l : Location) :
    after.node? l = fs.node? l ∨ fs.node? l = none ∧ after.node? l = some .directory

namespace Grown

theorem refl (fs : FileSystem) : fs.Grown fs := ⟨rfl, fun _ => .inl rfl⟩

theorem trans (h : fs.Grown between) (h' : between.Grown after) : fs.Grown after := by
  refine ⟨h'.workDir.trans h.workDir, fun l => ?_⟩
  rcases h.nodes l with hl | ⟨hnone, hl⟩ <;> rcases h'.nodes l with hl' | ⟨hnone', hl'⟩
  · exact .inl (hl'.trans hl)
  · exact .inr ⟨hl.symm.trans hnone', hl'⟩
  · exact .inr ⟨hnone, hl'.trans hl⟩
  · cases hl.symm.trans hnone'

end Grown

theorem grown_createDirectory (h : fs.createDirectory path = .ok after) : fs.Grown after := by
  unfold createDirectory at h
  split at h
  · cases h
  · next place _ =>
    split at h
    · cases h
    · next hnone =>
      cases h
      refine ⟨rfl, fun l => ?_⟩
      rcases eq_or_ne l place with rfl | hl
      · have hroot : l ≠ [] := by
          rintro rfl
          cases hnone
        exact .inr ⟨hnone, node?_put_self hroot⟩
      · exact .inl (node?_put_of_ne hl)

theorem grown_ensureOne (h : fs.ensureOne path = .ok after) : fs.Grown after := by
  unfold ensureOne at h
  split at h
  · next hcreate =>
    cases h
    exact grown_createDirectory hcreate
  · split at h
    · cases h
      exact .refl fs
    · cases h

/-- Whether it comes to its end or not, making directories only adds directories. -/
theorem grown_ensureDirectory (fs : FileSystem) (path : Path) (fuel : Nat) :
    fs.Grown (fs.ensureDirectory path fuel).2 := by
  induction fuel generalizing fs path with
  | zero => exact .refl fs
  | succ fuel ih =>
    unfold ensureDirectory
    split
    · exact .refl fs
    · split
      · next hone => exact grown_ensureOne hone
      · split
        · exact .refl fs
        · next parent _ =>
          have hparent := ih fs parent
          split
          · next hmade => exact hmade ▸ hparent
          · next made hmade =>
            rw [hmade] at hparent
            split
            · next hone => exact hparent.trans (grown_ensureOne hone)
            · exact hparent
      · exact .refl fs

end FileSystem

namespace Log

variable {files made after : FileSystem} {path : Path} {at_ : Location} {fault : IoFault}

namespace Logger

/-! ## The log file -/

theorem grown_makeDirectory (files : FileSystem) (path : Path) :
    files.Grown (makeDirectory files path).2 := by
  unfold makeDirectory
  split
  · exact files.grown_ensureDirectory _ _
  · exact .refl files

theorem fileName?_namedPath (path : Path) : (namedPath path).fileName?.isSome := by
  have hname : Path.IsPart (Utf8.encode defaultFileName) :=
    ⟨by decide +kernel, by decide +kernel, by decide +kernel, by decide +kernel⟩
  unfold namedPath
  split
  · next h => exact h
  · have hparts : (path.join (Path.ofText defaultFileName)).parts.getLast? =
        some (Utf8.encode defaultFileName) := by
      rw [Path.ofText, Path.parts_join path hname, List.getLast?_concat]
    rw [Path.fileName?, hparts]
    simp [hname.ne_dot, hname.ne_dotDot]

/-- A log file can be made: first the directories that lead to it, and then the file. -/
structure CanMake (files : FileSystem) (path : Path) (made : FileSystem) (at_ : Location)
    (after : FileSystem) : Prop where
  directory : makeDirectory files (namedPath path) = (none, made)
  file : made.create (namedPath path) = .ok (at_, after)

namespace CanMake

variable (h : CanMake files path made at_ after)
include h

theorem grown : files.Grown made := by
  have hgrown := grown_makeDirectory files (namedPath path)
  rwa [h.directory] at hgrown

theorem changedAt : made.ChangedAt after at_ := FileSystem.changedAt_create h.file

theorem node?_eq : after.node? at_ = some (.file []) := FileSystem.node?_created h.file

/-- The path of the file and the path of its writer lead to the file. -/
theorem located : after.locate (namedPath path) = .ok at_ ∧
    after.locate (writerPath (namedPath path)) = .ok at_ := by
  obtain ⟨hends, hlocate, hnode, rfl⟩ := FileSystem.create_eq_ok h.file
  rw [Path.withoutSlashes_of_endsWithSlash_eq_false hends] at hlocate
  have hwriter := FileSystem.locate_writerPath (fileName?_namedPath path) hends hlocate hnode
  exact ⟨FileSystem.locate_put hnode hlocate, FileSystem.locate_put hnode hwriter⟩

theorem openEnd_writerPath : after.openEnd (writerPath (namedPath path)) = .ok (at_, after) := by
  obtain ⟨name, hname⟩ := Option.isSome_iff_exists.1 (fileName?_namedPath path)
  have hends : (writerPath (namedPath path)).endsWithSlash = false := by
    rw [writerPath, hname]
    exact Path.endsWithSlash_join _ (Path.isPart_of_fileName?_eq hname)
  rw [FileSystem.openEnd, FileSystem.create,
    Path.withoutSlashes_of_endsWithSlash_eq_false hends, h.located.2]
  simp [hends, h.node?_eq]

theorem createFile_eq : createFile files path = (.ok at_, after) := by
  simp only [createFile, h.directory, h.file, h.openEnd_writerPath]

end CanMake

/-- A log file that cannot be made leaves directories at most. -/
theorem exists_createFile_eq_error (h : ∀ made at_ after, ¬CanMake files path made at_ after) :
    ∃ fault left, createFile files path = (.error fault, left) ∧ files.Grown left := by
  have hgrown := grown_makeDirectory files (namedPath path)
  cases hmade : makeDirectory files (namedPath path) with
  | mk stopped made =>
    rw [hmade] at hgrown
    cases stopped with
    | some fault => exact ⟨fault, made, by simp only [createFile, hmade], hgrown⟩
    | none =>
      cases hfile : made.create (namedPath path) with
      | error fault => exact ⟨fault, made, by simp only [createFile, hmade, hfile], hgrown⟩
      | ok created => exact absurd ⟨hmade, hfile⟩ (h made created.1 created.2)

/-! ## Opening a logger -/

section

variable {plan : Plan} {filter : Option Filter} {stamp : Stamp}

theorem ofPlan_console (h : wantedFile? plan stamp = none) :
    ofPlan plan filter stamp files =
      ⟨⟨.console, plan.useJson, filter.getD (.atLeast .warn)⟩, files,
        [versionEvent plan.version]⟩ := by
  simp only [ofPlan, h]
  rfl

theorem ofPlan_file (h : wantedFile? plan stamp = some path)
    (hmake : CanMake files path made at_ after) :
    ofPlan plan filter stamp files =
      ⟨⟨.file at_, plan.useJson, filter.getD (.atLeast .info)⟩, after,
        [versionEvent plan.version]⟩ := by
  simp only [ofPlan, h, hmake.createFile_eq]
  rfl

/-- Without the file that is asked for, the console takes its place. -/
theorem exists_ofPlan_fallback (h : wantedFile? plan stamp = some path)
    (hnot : ∀ made at_ after, ¬CanMake files path made at_ after) :
    ∃ fault left, createFile files path = (.error fault, left) ∧ files.Grown left ∧
      ofPlan plan filter stamp files =
        ⟨⟨.console, plan.useJson, filter.getD (.atLeast .warn)⟩, left,
          [fallbackEvent path fault, versionEvent plan.version]⟩ := by
  obtain ⟨fault, left, hfail, hgrown⟩ := exists_createFile_eq_error hnot
  refine ⟨fault, left, hfail, hgrown, ?_⟩
  simp only [ofPlan, h, hfail]
  rfl

/-- The console gets the records of a file exactly if that cannot be made. -/
theorem sink_eq_console (h : wantedFile? plan stamp = some path) :
    (ofPlan plan filter stamp files).logger.sink = .console ↔
      ∀ made at_ after, ¬CanMake files path made at_ after := by
  constructor
  · intro hsink made at_ after hmake
    rw [ofPlan_file h hmake] at hsink
    cases hsink
  · intro hnot
    obtain ⟨fault, left, -, -, hopened⟩ := exists_ofPlan_fallback h hnot
    rw [hopened]

theorem exists_canMake (h : wantedFile? plan stamp = some path)
    (hsink : (ofPlan plan filter stamp files).logger.sink = .file at_) :
    ∃ made, CanMake files path made at_ (ofPlan plan filter stamp files).files := by
  by_contra hnot
  have hconsole : (ofPlan plan filter stamp files).logger.sink = .console := by
    refine (sink_eq_console h).2 fun made place after hmake => hnot ⟨made, ?_⟩
    have hopened := @ofPlan_file _ _ _ _ _ _ filter _ h hmake
    rw [hopened] at hsink ⊢
    cases hsink
    exact hmake
  cases hsink.symm.trans hconsole

end

/-! ## The records -/

theorem recordsAt_of_ne {l : Logger} {sink : Sink} {events : List Event} (h : sink ≠ l.sink) :
    l.recordsAt sink events = [] := if_neg (Ne.symm h)

theorem recordsAt_atLeast (sink : Sink) (useJson : Bool) (least : Level) (events : List Event) :
    let l : Logger := ⟨sink, useJson, .atLeast least⟩
    l.recordsAt sink events =
      (events.filter fun event => event.level.rank ≤ least.rank).map (Record.mk l.layout) := by
  intro l
  rw [recordsAt, if_pos rfl, Logger.records]
  exact congrArg _ (List.filter_congr fun event _ => Filter.passes_atLeast least event)

/-- What the console gets of an event, and what a file gets of it. -/
theorem rank_le_warn {level : Level} : level.rank ≤ Level.warn.rank ↔ level ∈ [.error, .warn] := by
  cases level <;> decide

theorem rank_le_info {level : Level} :
    level.rank ≤ Level.info.rank ↔ level ∈ [.error, .warn, .info] := by
  cases level <;> decide

variable {version : String} {config : Config.Logging} {stamp : Stamp}

/-- A text names a directory if it ends like one, or if there is one. -/
def NamesDirectory (files : FileSystem) (text : String) : Prop :=
  text.toList.getLast? = some '/' ∨ text.toList.getLast? = some '\\' ∨
    files.isDirectory (.ofText text) = true

/-- The files that a plan can ask for. -/
theorem wantedFile?_eq_some : wantedFile? (Plan.ofConfig files version config) stamp = some path ↔
    ∃ text, config.dest = some text ∧ Text.trim text ≠ "" ∧
      (NamesDirectory files (Text.trim text) ∧
          path = fileIn (.ofText (Text.trim text)) config.filePrefix stamp ∨
        ¬NamesDirectory files (Text.trim text) ∧ path = .ofText (Text.trim text)) := by
  unfold wantedFile? Plan.ofConfig
  cases config.dest with
  | none => simp [Destination.ofSetting]
  | some text =>
    have hdirectory : NamesDirectory files (Text.trim text) ↔
        ((Text.trim text).toList.getLast? == some '/' ||
          (Text.trim text).toList.getLast? == some '\\' ||
          files.isDirectory (.ofText (Text.trim text))) = true := by
      simp [NamesDirectory, or_assoc]
    simp only [Destination.ofSetting, Destination.ofText]
    by_cases hblank : Text.trim text = ""
    · simp [hblank]
    have hfull : (Text.trim text).isEmpty = false := by simpa using hblank
    by_cases hnames : NamesDirectory files (Text.trim text)
    · rw [hfull, if_neg Bool.false_ne_true, if_pos (hdirectory.1 hnames)]
      simp [hblank, hnames, @eq_comm _ path]
    · rw [hfull, if_neg Bool.false_ne_true, if_neg (mt hdirectory.2 hnames)]
      simp [hblank, hnames, @eq_comm _ path]

/-- **One sink.** With no filter in the environment, records go to one sink only, and it gets what
is serious enough for it, in order. Without a file that is asked for, that is the console, which
gets warnings and errors. A file that can be made is empty at first; it is the sink then, and gets the
version and everything from information up. Nothing else in the tree changes, except that there may
be more directories, and the writer finds the very file that was made. If the file cannot be made,
the console takes its place, and its first record is an error that names the file and says what was
wrong with it. -/
theorem records_reach_one_sink (files : FileSystem) (version : String) (config : Config.Logging)
    (stamp : Stamp) (events : List Event) :
    let plan := Plan.ofConfig files version config
    let opened := Logger.ofPlan plan (userFilter? none) stamp files
    let told (levels : List Level) := events.filter fun event => event.level ∈ levels
    let gets (sink : Sink) := opened.logger.recordsAt sink (opened.events ++ events)
    let records := List.map (Record.mk opened.logger.layout)
    let saying (level : Level) (message : String) : Event := ⟨level, .logging, message, []⟩
    (∀ sink, sink ≠ opened.logger.sink → gets sink = []) ∧
    (∀ path, wantedFile? plan stamp = some path ↔
      ∃ text, config.dest = some text ∧ Text.trim text ≠ "" ∧
        (NamesDirectory files (Text.trim text) ∧
            path = fileIn (.ofText (Text.trim text)) config.filePrefix stamp ∨
          ¬NamesDirectory files (Text.trim text) ∧ path = .ofText (Text.trim text))) ∧
    (wantedFile? plan stamp = none →
      opened.logger.sink = .console ∧ opened.files = files ∧
        gets .console = records (told [.error, .warn])) ∧
    ∀ path, wantedFile? plan stamp = some path →
      (∀ made at_ after, CanMake files path made at_ after →
        opened.logger.sink = .file at_ ∧ opened.files = after ∧
          after.node? at_ = some (.file []) ∧ files.Grown made ∧ made.ChangedAt after at_ ∧
          after.locate (namedPath path) = .ok at_ ∧
          after.locate (writerPath (namedPath path)) = .ok at_ ∧
          gets (.file at_) = records (saying .info version :: told [.error, .warn, .info])) ∧
      ((∀ made at_ after, ¬CanMake files path made at_ after) → ∃ fault,
        (createFile files path).1 = .error fault ∧ opened.logger.sink = .console ∧
          files.Grown opened.files ∧
          gets .console = records (saying .error ("Error logging to file " ++
            Text.quotePath path.bytes ++ " (" ++ fault.message ++
            "); falling back to console logging.") :: told [.error, .warn])) := by
  intro plan opened told gets records saying
  refine ⟨fun sink hsink => recordsAt_of_ne hsink, fun path => wantedFile?_eq_some,
    fun hwanted => ?console,
    fun path hwanted => ⟨fun made at_ after hmake => ?file, fun hnot => ?fallback⟩⟩
  case console =>
    have hopened : opened = _ := ofPlan_console hwanted
    refine ⟨congrArg (·.logger.sink) hopened, congrArg Opened.files hopened, ?_⟩
    simp only [gets, records, told, ← rank_le_warn, hopened]
    exact recordsAt_atLeast ..
  case file =>
    have hopened : opened = _ := ofPlan_file hwanted hmake
    refine ⟨congrArg (·.logger.sink) hopened, congrArg Opened.files hopened, hmake.node?_eq,
      hmake.grown, hmake.changedAt, hmake.located.1, hmake.located.2, ?_⟩
    simp only [gets, records, told, ← rank_le_info, hopened]
    exact recordsAt_atLeast ..
  case fallback =>
    obtain ⟨fault, left, hfail, hgrown, hopened⟩ :=
      @exists_ofPlan_fallback _ _ plan (userFilter? none) stamp hwanted hnot
    have hleft : opened.files = left := congrArg Opened.files hopened
    refine ⟨fault, congrArg (·.1) hfail, congrArg (·.logger.sink) hopened, hleft ▸ hgrown, ?_⟩
    simp only [gets, records, told, ← rank_le_warn, opened, hopened]
    exact recordsAt_atLeast ..

/-- A log file below a directory that is missing, and that another missing one leads to. Below a file
there can be none, and the console says so first. -/
theorem records_reach_file_below_dots :
    let here : Location := [Utf8.encode "here"]
    let files := (FileSystem.empty here).put (here ++ [Utf8.encode "f"]) (.file [])
    let opened (dest : String) := Logger.ofPlan
      (Plan.ofConfig files "v" { dest := some dest, format := some "text" }) (userFilter? none)
      ⟨"", ""⟩ files
    let event (level : Level) : Event := ⟨level, .program, "done", []⟩
    let told (dest : String) (sink : Sink) := ((opened dest).logger.recordsAt sink
      ((opened dest).events ++ [event .debug, event .info, event .warn])).map Record.event
    let at_ := here ++ [Utf8.encode "b", Utf8.encode "run.log"]
    (opened " a/../b//run.log ").logger.sink = .file at_ ∧
      (opened " a/../b//run.log ").files.node? at_ = some (.file []) ∧
      (opened " a/../b//run.log ").files.node? (here ++ [Utf8.encode "a"]) = some .directory ∧
      told " a/../b//run.log " (.file at_) =
        [⟨.info, .logging, "v", []⟩, event .info, event .warn] ∧
      (opened "f/run.log").logger.sink = .console ∧
      told "f/run.log" .console = [⟨.error, .logging, "Error logging to file \"f/run.log\" " ++
        "(File exists (os error 17)); falling back to console logging.", []⟩, event .warn] := by
  intro here files opened event told at_
  obtain ⟨-, -, -, hwants⟩ := records_reach_one_sink files "v"
    { dest := some " a/../b//run.log ", format := some "text" } ⟨"", ""⟩
    [event .debug, event .info, event .warn]
  obtain ⟨-, -, -, hwants'⟩ := records_reach_one_sink files "v"
    { dest := some "f/run.log", format := some "text" } ⟨"", ""⟩
    [event .debug, event .info, event .warn]
  let made := (files.put (here ++ [Utf8.encode "a"]) .directory).put (here ++ [Utf8.encode "b"])
    .directory
  have hmake : CanMake files (.ofText "a/../b//run.log") made at_ (made.put at_ (.file [])) :=
    ⟨by decide +kernel, by decide +kernel⟩
  have hnot : ∀ made at_ after, ¬CanMake files (.ofText "f/run.log") made at_ after := by
    intro made at_ after hmake
    have hdirectory : (makeDirectory files (namedPath (.ofText "f/run.log"))).1 =
      some .alreadyThere := by decide +kernel
    rw [hmake.directory] at hdirectory
    cases hdirectory
  obtain ⟨hsink, hfiles, hempty, -, -, -, -, hgets⟩ :=
    (hwants (.ofText "a/../b//run.log") (by decide +kernel)).1 _ _ _ hmake
  obtain ⟨fault, hfault, hconsole, -, hsays⟩ :=
    (hwants' (.ofText "f/run.log") (by decide +kernel)).2 hnot
  obtain rfl : fault = .alreadyThere := by
    have hfailed : (createFile files (.ofText "f/run.log")).1 = .error .alreadyThere := by
      decide +kernel
    exact Except.error.inj (hfault.symm.trans hfailed)
  refine ⟨hsink, hfiles ▸ hempty, ?_, (congrArg (List.map Record.event) hgets).trans ?_, hconsole,
    (congrArg (List.map Record.event) hsays).trans ?_⟩
  · rw [hfiles]
    decide +kernel
  · decide +kernel
  · decide +kernel

end Logger

end Log

end MqttConformance
