import MqttConformance.Proofs.Cutting
import MqttConformance.Proofs.Naming
import MqttConformance.Proofs.Sink

/-!
# Log files in a directory

The path of a log file in a directory. A prefix without slashes makes one name of the prefix, the
time and the process, so that the file lies directly in the directory; a prefix with a slash never
does (`Log.log_file_lies_in_directory_iff`). The name tells its three pieces, which its last two
underscores separate (`Log.Stamp.ofFileName?_eq_some`).
-/

namespace MqttConformance

namespace Path

variable {p q : Path} {name : Bytes}

/-! ## The directory of a file -/

/-- Two paths have the same parts, from the same start. -/
structure SameParts (p q : Path) : Prop where
  parts : p.parts = q.parts
  isAbsolute : p.isAbsolute = q.isAbsolute

theorem parts_of_splitSlash {first : Bytes} {rest : List Bytes}
    (h : splitSlash p.bytes = first :: rest) :
    p.parts = if first.isEmpty then rest.filter counts else first :: rest.filter counts := by
  rw [parts, h]

/-- Parts that lead nowhere do not count. -/
theorem Skips.parts_eq {before skipped : List Bytes} (h : q.Skips p before skipped name) :
    q.parts = p.parts := by
  obtain ⟨first, before, rfl⟩ := List.exists_cons_of_ne_nil h.before_ne_nil
  have hskipped : skipped.filter counts = [] :=
    List.filter_eq_nil_iff.2 fun part hmem => by simp [h.counts_eq_false part hmem]
  rw [parts_of_splitSlash h.rest, parts_of_splitSlash h.whole]
  simp only [List.append_eq, List.filter_append, hskipped, List.nil_append]

theorem fileName?_join (p : Path) (h : IsPart name) : (p.join ⟨name⟩).fileName? = some name := by
  rw [fileName?, parts_join p h, List.getLast?_concat]
  simp [h.ne_dot, h.ne_dotDot]

/-- The parent of a name joined to a path is that path, and the name can be joined to it again. -/
theorem exists_parent_join (p : Path) (h : IsPart name) : ∃ parent,
    (p.join ⟨name⟩).parent? = some parent ∧ parent.SameParts p ∧
      (p.bytes ≠ [] → parent.bytes ≠ []) ∧
      ∀ {fs : FileSystem} {place : Location}, fs.locate (p.join ⟨name⟩) = .ok place →
        fs.locate (parent.join ⟨name⟩) = .ok place := by
  by_cases hp : p.bytes = []
  · have hjoin : p.join ⟨name⟩ = ⟨name⟩ := by rw [join_eq h, if_pos (.inl hp), hp, List.nil_append]
    refine ⟨⟨[]⟩, ?_, ?_, fun hne => absurd hp hne, ?_⟩
    · simp [hjoin, parent?, h.splitSlash_eq, h.ne_nil]
    · obtain ⟨bytes⟩ := p
      obtain rfl : bytes = [] := hp
      exact ⟨rfl, rfl⟩
    · intro fs place hlocate
      rwa [join_eq h, if_pos (.inl rfl), List.nil_append, ← hjoin]
  · obtain ⟨a, hjoin⟩ : ∃ a, p.join ⟨name⟩ = ⟨a ++ slash :: name⟩ := by
      rcases join_cases p h with ⟨hnil, -⟩ | ⟨a, -, hjoin⟩ | ⟨-, -, hjoin⟩
      · exact absurd hnil hp
      · exact ⟨a, hjoin⟩
      · exact ⟨p.bytes, hjoin⟩
    obtain ⟨first, rest, hfirst⟩ := List.exists_cons_of_ne_nil (splitSlash_ne_nil a)
    have hsplit : splitSlash (p.join ⟨name⟩).bytes = first :: (rest ++ [name]) := by
      rw [hjoin, splitSlash_append, h.splitSlash_eq, hfirst, List.cons_append]
    obtain ⟨parent, before, skipped, hparent, hne, hskips⟩ := exists_skips h hsplit
    have hparts := hskips.parts_eq
    rw [parts_join parent h, parts_join p h, List.append_cancel_right_eq] at hparts
    have habsolute := hskips.isAbsolute_eq
    rw [isAbsolute_join parent h, isAbsolute_join p h] at habsolute
    exact ⟨parent, hparent, ⟨hparts, habsolute⟩, fun _ => hne,
      fun hlocate => FileSystem.locate_of_skips hskips hlocate⟩

end Path

namespace FileSystem

variable {fs : FileSystem} {p : Path} {parent : Location}

/-- A directory that is there need not be made. -/
theorem createDirectories_of_located (hne : p.bytes ≠ []) (hl : fs.locate p = .ok parent)
    (hnode : fs.node? parent = some .directory) : fs.createDirectories p = (none, fs) := by
  have hone : fs.ensureOne p = .ok fs := by
    simp [ensureOne, createDirectory, isDirectory, hl, hnode]
  simp [createDirectories, ensureDirectory, hne, hone]

end FileSystem

namespace Log

open Utf8 (encode)

/-! ## The name of a log file -/

/-- The time and the process are written with digits, with a letter between the date and the time
of the day, and with a sign before the offset. -/
structure Stamp.IsWritten (stamp : Stamp) : Prop where
  time : ∀ c ∈ stamp.time.toList, c.isDigit ∨ c = 'T' ∨ c = '+' ∨ c = '-'
  process : ∀ c ∈ stamp.process.toList, c.isDigit

/-- The prefix and the stamp that the name of a log file is made of. -/
def Stamp.ofFileName? (name : String) : Option (String × Stamp) := do
  let (stem, extension) ← Text.cutLast? '.' name.toList
  guard (extension = "log".toList)
  let (front, process) ← Text.cutLast? '_' stem
  let (filePrefix, time) ← Text.cutLast? '_' front
  return (String.ofList filePrefix, ⟨String.ofList time, String.ofList process⟩)

variable {filePrefix name : String} {stamp : Stamp}

theorem toList_fileName : (fileName filePrefix stamp).toList =
    (filePrefix.toList ++ '_' :: stamp.time.toList) ++ '_' :: stamp.process.toList ++
      '.' :: "log".toList := by
  have hlog : ".log".toList = '.' :: "log".toList := by decide
  have hscore : "_".toList = ['_'] := by decide
  simp only [fileName, String.toList_append, hlog, hscore, List.append_assoc, List.cons_append,
    List.nil_append]

/-- Whatever the prefix, a name tells the pieces that it is made of: no other pieces without
underscores behind the prefix make the same name. -/
theorem Stamp.ofFileName?_eq_some : Stamp.ofFileName? name = some (filePrefix, stamp) ↔
    name = fileName filePrefix stamp ∧ '_' ∉ stamp.time.toList ∧ '_' ∉ stamp.process.toList := by
  obtain ⟨time, process⟩ := stamp
  simp only [Stamp.ofFileName?, Option.bind_eq_bind, Option.bind_eq_some_iff, Prod.exists,
    Text.cutLast?_eq_some]
  constructor
  · rintro ⟨stem, extension, ⟨hname, -⟩, _, hlog, front, last, ⟨rfl, hlast⟩, first, middle,
      ⟨rfl, hmiddle⟩, hpieces⟩
    obtain rfl : extension = "log".toList := by
      by_contra hne
      rw [guard, if_neg hne] at hlog
      cases hlog
    cases hpieces
    rw [String.toList_ofList, String.toList_ofList]
    refine ⟨String.toList_inj.1 ?_, hmiddle, hlast⟩
    rw [toList_fileName, hname]
    simp only [String.toList_ofList]
  · rintro ⟨rfl, htime, hprocess⟩
    refine ⟨_, _, ⟨toList_fileName, by decide⟩, (), rfl, _, _, ⟨rfl, hprocess⟩, _, _,
      ⟨rfl, htime⟩, ?_⟩
    simp only [String.ofList_toList]
    rfl

theorem Stamp.IsWritten.not_mem (h : stamp.IsWritten) {c : Char} (hdigit : c.isDigit = false)
    (hT : c ≠ 'T') (hplus : c ≠ '+') (hminus : c ≠ '-') :
    c ∉ stamp.time.toList ∧ c ∉ stamp.process.toList := by
  refine ⟨fun hmem => ?_, fun hmem => ?_⟩
  · rcases h.time c hmem with hc | hc | hc | hc
    · exact Bool.false_ne_true (hdigit.symm.trans hc)
    · exact hT hc
    · exact hplus hc
    · exact hminus hc
  · exact Bool.false_ne_true (hdigit.symm.trans (h.process c hmem))

theorem two_lt_length_fileName : 2 < (encode (fileName filePrefix stamp)).length := by
  have hlog : ".log".toList = '.' :: "log".toList := by decide
  rw [encode, toList_fileName, ← hlog, Utf8.encodeChars_append, List.length_append]
  exact Nat.lt_of_lt_of_le (by decide : 2 < (encode ".log").length) (Nat.le_add_left _ _)

/-- A prefix without slashes makes one part of a path, and no other prefix does. -/
theorem isPart_fileName_iff (h : stamp.IsWritten) :
    Path.IsPart (encode (fileName filePrefix stamp)) ↔ '/' ∉ filePrefix.toList := by
  obtain ⟨htime, hprocess⟩ := h.not_mem (c := '/') (by decide) (by decide) (by decide) (by decide)
  have hslash : Path.slash ∈ encode (fileName filePrefix stamp) ↔ '/' ∈ filePrefix.toList := by
    rw [show Path.slash = '/'.toNat.toUInt8 from rfl, Utf8.mem_encode_iff (by decide),
      toList_fileName]
    simp [htime, hprocess]
  rw [← hslash]
  exact ⟨Path.IsPart.slash_not_mem, Path.IsPart.of_length two_lt_length_fileName⟩

/-! ## The path of a log file -/

variable {dir : Path}

/-- A path whose last part is the whole name is that of a prefix without slashes. -/
theorem fileIn_eq_iff (h : stamp.IsWritten) :
    (∃ parent, (fileIn dir filePrefix stamp).parent? = some parent ∧ parent.SameParts dir) ∧
      (fileIn dir filePrefix stamp).fileName? = some (encode (fileName filePrefix stamp)) ↔
    '/' ∉ filePrefix.toList := by
  rw [← isPart_fileName_iff h]
  constructor
  · exact fun hpath => Path.isPart_of_fileName?_eq hpath.2
  · intro hpart
    obtain ⟨parent, hparent, hsame, -⟩ := dir.exists_parent_join hpart
    exact ⟨⟨parent, hparent, hsame⟩, dir.fileName?_join hpart⟩

namespace Logger

variable {files : FileSystem} {parent at_ : Location} {plan : Plan} {filter : Option Filter}
variable {bytes : Bytes}

theorem namedPath_join (h : Path.IsPart bytes) :
    namedPath (dir.join ⟨bytes⟩) = dir.join ⟨bytes⟩ := by
  rw [namedPath, if_pos (by rw [dir.fileName?_join h]; rfl)]

/-- In a directory that is there, a file can be made under a name that fits. -/
theorem canMake_join (h : Path.IsPart bytes) (hfits : FileSystem.Fits (dir.join ⟨bytes⟩) bytes)
    (hdir : files.directory dir = .ok parent) (hnode : files.node? parent = some .directory)
    (hfree : files.node? (parent ++ [bytes]) ≠ some .directory) :
    CanMake files (dir.join ⟨bytes⟩) files (parent ++ [bytes])
      (files.put (parent ++ [bytes]) (.file [])) := by
  have hlocate := FileSystem.locate_join_of_fits h hdir hnode hfits
  refine ⟨?_, ?_⟩
  · obtain ⟨above, habove, -, -, hagain⟩ := dir.exists_parent_join h
    rw [namedPath_join h, makeDirectory, directory?, habove]
    by_cases hnil : above.bytes = []
    · rw [show (some above).filter (!·.bytes.isEmpty) = none by simp [hnil]]
    · obtain ⟨place, hplace, heq⟩ := FileSystem.locate_join h (hagain hlocate)
      obtain rfl : parent = place := (List.append_inj' heq rfl).1
      rw [FileSystem.directory, if_neg hnil] at hplace
      rw [show (some above).filter (!·.bytes.isEmpty) = some above by simp [hnil]]
      exact FileSystem.createDirectories_of_located hnil hplace hnode
  · rw [namedPath_join h]
    exact FileSystem.create_join_of_fits h hdir hnode hfits hfree

/-- Where the console takes the place of a file, no file is made. -/
theorem grown_of_console {path : Path} (hwanted : wantedFile? plan stamp = some path)
    (hsink : (ofPlan plan filter stamp files).logger.sink = .console) :
    files.Grown (ofPlan plan filter stamp files).files := by
  obtain ⟨fault, left, -, hgrown, hopened⟩ :=
    exists_ofPlan_fallback hwanted ((sink_eq_console hwanted).1 hsink)
  rwa [hopened]

variable (hpart : Path.IsPart bytes) (hwanted : wantedFile? plan stamp = some (dir.join ⟨bytes⟩))
include hpart hwanted

/-- A log file with one part for its name lies directly in the directory. -/
theorem exists_directory_of_file
    (hsink : (ofPlan plan filter stamp files).logger.sink = .file at_) :
    ∃ parent, (ofPlan plan filter stamp files).files.directory dir = .ok parent ∧
      at_ = parent ++ [bytes] ∧
      (ofPlan plan filter stamp files).files.node? at_ = some (.file []) := by
  obtain ⟨made, hmake⟩ := exists_canMake hwanted hsink
  have hlocated := hmake.located.1
  rw [namedPath_join hpart] at hlocated
  obtain ⟨parent, hparent, hat⟩ := (dir.liesIn_join hpart).located hlocated
  exact ⟨parent, hparent, hat, hmake.node?_eq⟩

theorem sink_eq_file (hfits : FileSystem.Fits (dir.join ⟨bytes⟩) bytes)
    (hdir : files.directory dir = .ok parent) (hnode : files.node? parent = some .directory)
    (hfree : files.node? (parent ++ [bytes]) ≠ some .directory) :
    (ofPlan plan filter stamp files).logger.sink = .file (parent ++ [bytes]) := by
  rw [ofPlan_file hwanted (canMake_join hpart hfits hdir hnode hfree)]

end Logger

/-- **The log file of a directory.** With a prefix that has no slash, and with no other, the path of
the file has the directory for its parent, and prefix, time and process with underscores between
them for its name. A file that is made is then directly in the directory; and it is made if the
directory is there and the name fits. From the name the three pieces can be told, whatever
underscores the prefix has. -/
theorem log_file_lies_in_directory_iff (dir : Path) (filePrefix : String) (stamp : Stamp)
    (h : stamp.IsWritten) :
    let path := fileIn dir filePrefix stamp
    let name := filePrefix ++ "_" ++ stamp.time ++ "_" ++ stamp.process ++ ".log"
    ((∃ parent, path.parent? = some parent ∧ parent.SameParts dir) ∧
      path.fileName? = some (encode name) ↔ '/' ∉ filePrefix.toList) ∧
    ('/' ∉ filePrefix.toList → ∀ (plan : Plan) (filter : Option Filter) (files : FileSystem),
      plan.destination = .directory dir → plan.filePrefix = filePrefix →
      let opened := Logger.ofPlan plan filter stamp files
      (∀ at_, opened.logger.sink = .file at_ → ∃ parent, opened.files.directory dir = .ok parent ∧
        at_ = parent ++ [encode name] ∧ opened.files.node? at_ = some (.file [])) ∧
      (opened.logger.sink = .console → files.Grown opened.files) ∧
      ∀ parent, files.directory dir = .ok parent → files.node? parent = some .directory →
        FileSystem.Fits path (encode name) →
        files.node? (parent ++ [encode name]) ≠ some .directory →
        opened.logger.sink = .file (parent ++ [encode name])) ∧
    ∀ filePrefix' stamp',
      Stamp.ofFileName? name = some (filePrefix', stamp') ↔
        filePrefix' = filePrefix ∧ stamp' = stamp := by
  intro path name
  refine ⟨fileIn_eq_iff h, fun hprefix plan filter files hdestination hplan => ?made,
    fun filePrefix' stamp' => ?told⟩
  case made =>
    have hpart : Path.IsPart (encode name) := (isPart_fileName_iff h).2 hprefix
    have hwanted : Logger.wantedFile? plan stamp = some (dir.join ⟨encode name⟩) := by
      rw [Logger.wantedFile?, hdestination, hplan]
      rfl
    exact ⟨fun at_ hsink => Logger.exists_directory_of_file hpart hwanted hsink,
      fun hsink => Logger.grown_of_console hwanted hsink,
      fun parent hdir hnode hfits hfree =>
        Logger.sink_eq_file hpart hwanted hfits hdir hnode hfree⟩
  case told =>
    have htold : Stamp.ofFileName? name = some (filePrefix, stamp) := by
      obtain ⟨htime, hprocess⟩ :=
        h.not_mem (c := '_') (by decide) (by decide) (by decide) (by decide)
      exact Stamp.ofFileName?_eq_some.2 ⟨rfl, htime, hprocess⟩
    rw [htold, Option.some.injEq, Prod.mk.injEq, eq_comm, @eq_comm _ stamp]

/-- Underscores and dots of the prefix stay with the prefix. -/
theorem underscored_prefix_lies_in_directory :
    let stamp : Stamp := ⟨"20240229T235959001-0930", "17"⟩
    let dir : Path := .ofText "logs/"
    let files := (FileSystem.empty [encode "here"]).withDirectory dir
    let plan : Plan := ⟨.directory dir, true, "_.log_20_", "v"⟩
    let name := "_.log_20__20240229T235959001-0930_17.log"
    (fileIn dir "_.log_20_" stamp).fileName? = some (encode name) ∧
      (Logger.ofPlan plan none stamp files).logger.sink =
        .file [encode "here", encode "logs", encode name] ∧
      Stamp.ofFileName? name = some ("_.log_20_", stamp) := by
  intro stamp dir files plan name
  obtain ⟨hpath, hmade, htold⟩ :=
    log_file_lies_in_directory_iff dir "_.log_20_" stamp
      ⟨by simp [stamp], by simp [stamp]⟩
  have hprefix : '/' ∉ "_.log_20_".toList := by decide
  obtain ⟨-, -, hthere⟩ := hmade hprefix plan none files rfl rfl
  refine ⟨(hpath.2 hprefix).2, ?_, (htold _ _).2 ⟨rfl, rfl⟩⟩
  exact hthere [encode "here", encode "logs"] (by decide +kernel) (by decide +kernel)
    ⟨by decide +kernel, by decide +kernel, by decide +kernel⟩ (by decide +kernel)

/-- A prefix that starts with a slash leaves the directory for the root. -/
theorem slash_leads_out_of_directory :
    let stamp : Stamp := ⟨"20240229T235959001-0930", "17"⟩
    let dir : Path := .ofText "logs/"
    let files := (FileSystem.empty [encode "here"]).withDirectory dir
    let plan : Plan := ⟨.directory dir, true, "/x", "v"⟩
    stamp.IsWritten ∧
      (¬∃ parent, (fileIn dir "/x" stamp).parent? = some parent ∧ parent.SameParts dir) ∧
      (Logger.ofPlan plan none stamp files).logger.sink =
        .file [encode "x_20240229T235959001-0930_17.log"] := by
  intro stamp dir files plan
  refine ⟨⟨by simp [stamp], by simp [stamp]⟩, ?_, by decide +kernel⟩
  rintro ⟨parent, hparent, hsame⟩
  have hroot : (fileIn dir "/x" stamp).parent? = some (.ofText "/") := by decide +kernel
  obtain rfl : Path.ofText "/" = parent := Option.some.inj (hroot.symm.trans hparent)
  cases hsame.isAbsolute

end Log

end MqttConformance
