import MqttConformance.Proofs.Footprint
import MqttConformance.Proofs.Naming

/-!
# The name of an archive

An identifier is checked for slashes but neither for its length nor for NUL, and both matter for the
name of its archive. The name is one that a file can be given exactly if the identifier has no NUL
and at most 244 bytes. The first to notice is the creation of the archive, when the run has been
executed and awaited and its results have been asked for
(`Run.Runner.archive_created_iff_fits`).
-/

namespace MqttConformance

namespace FileSystem

/-- A name that a file can be given. -/
structure IsFileName (name : Bytes) : Prop where
  one_le : 1 ≤ name.length
  le_maxName : name.length ≤ maxName
  slash_not_mem : Path.slash ∉ name
  zero_not_mem : 0 ∉ name

variable {fs : FileSystem} {p : Path} {name : Bytes} {parent : Location}

/-- In a directory, a name fits if a file can be given that name, and the path is short enough. -/
theorem fits_join_iff (h : Path.IsPart name) (hdir : fs.directory p = .ok parent) :
    Fits (p.join ⟨name⟩) name ↔ IsFileName name ∧ (p.join ⟨name⟩).bytes.length < maxPath := by
  have hzero := zero_mem_join h hdir
  constructor
  · rintro ⟨hbytes, hname, hpath⟩
    exact ⟨⟨List.length_pos_iff.2 h.ne_nil, hname, h.slash_not_mem, mt hzero.2 hbytes⟩, hpath⟩
  · rintro ⟨hname, hpath⟩
    exact ⟨mt hzero.1 hname.zero_not_mem, hname.le_maxName, hpath⟩

end FileSystem

namespace Run

open FileSystem (IsFileName)

namespace Identifier

variable {id : Identifier}

theorem length_archiveBytes (id : Identifier) :
    id.archiveBytes.length = (Utf8.encode id.text).length + 11 := by
  rw [archiveBytes, Utf8.encode_append, Utf8.encode_append, List.length_append, List.length_append]
  have hfixed : (Utf8.encode "result_").length = 7 ∧ (Utf8.encode ".zip").length = 4 := by decide
  omega

theorem zero_mem_archiveBytes : 0 ∈ id.archiveBytes ↔ '\x00' ∈ id.text.toList := by
  have hzero : (0 : UInt8) = '\x00'.toNat.toUInt8 := rfl
  rw [hzero, archiveBytes, Utf8.mem_encode_iff (by decide), toList_archiveName]
  simp

/-- The identifiers whose archive has a name that a file can be given. -/
theorem isFileName_archiveBytes_iff : IsFileName id.archiveBytes ↔
    '\x00' ∉ id.text.toList ∧ (Utf8.encode id.text).length ≤ 244 := by
  have hlength := id.length_archiveBytes
  rw [← zero_mem_archiveBytes]
  constructor
  · intro h
    have hle : id.archiveBytes.length ≤ 255 := h.le_maxName
    exact ⟨h.zero_not_mem, by omega⟩
  · rintro ⟨hzero, hle⟩
    have hlong : id.archiveBytes.length ≤ 255 := by omega
    exact ⟨by omega, hlong, id.isPart_archiveBytes.slash_not_mem, hzero⟩

end Identifier

/-! ## The end of a run -/

namespace Scene

variable {s : Scene} {config : Configuration} {id : Identifier} {channel : Channel}
variable {wait : WaitOutcome} {response : Http.Response} {actions : List Action}
variable {outcome : Outcome ClientError RunReport} {files created : FileSystem} {place : Location}

/-- Once the download has been answered with success, the run depends on whether its archive can be
created. -/
theorem Course.of_fetched (h : s.Course actions outcome files)
    (hf : s.Fetched config id channel wait response) :
    (∀ fault, s.world.files.create (s.archivePath id) = .error fault →
      outcome = .failed (.io fault) ∧ files = s.world.files) ∧
    ∀ place created, s.world.files.create (s.archivePath id) = .ok (place, created) →
      s.world.files.ChangedAt files place := by
  have hs : s.Submitted config id := hf.1.1.1
  have hchannel := hf.1.2.1
  -- every way for a run to go that ends before denies a fact that the answer rests on
  cases h with
  | unloaded h => cases (loaded_iff.1 hs.loaded).symm.trans h
  | unsubmitted hl h =>
    obtain ⟨_, hbody⟩ := hs.submitted_eq
    cases (loaded_iff.1 hs.loaded).symm.trans (loaded_iff.1 hl)
    cases hbody.symm.trans h
  | unstarted hs' h =>
    obtain ⟨-, _, hx⟩ := hf.1.1
    obtain rfl := hs.unique hs'
    cases hx.symm.trans h
  | unopened _ h => cases hchannel.symm.trans h
  | unfinished _ hc h | waiting _ hc h =>
    cases hchannel.symm.trans hc
    cases hf.1.2.2.symm.trans h
  | unfetched hw h =>
    obtain rfl := hs.unique hw.1.1
    cases (Http.Request.accepted_eq_ok.2 hf.2).symm.trans h
  | uncreated hf' hc =>
    obtain rfl := hs.unique hf'.1.1.1
    refine ⟨fun fault h => ?_, fun place created h => ?_⟩
    · cases hc.symm.trans h
      exact ⟨rfl, rfl⟩
    · cases hc.symm.trans h
  | crashed hf' hc =>
    obtain rfl := hs.unique hf'.1.1.1
    refine ⟨fun fault h => ?_, fun place created h => ?_⟩
    · cases hc.symm.trans h
    · cases hc.symm.trans h
      exact FileSystem.changedAt_create hc
  | unstored hf' hc | finished hf' hc =>
    obtain rfl := hs.unique hf'.1.1.1
    refine ⟨fun fault h => ?_, fun place created h => ?_⟩
    · cases hc.symm.trans h
    · cases hc.symm.trans h
      exact Downloader.changedAt_filled (FileSystem.changedAt_create hc)

end Scene

/-- **The name of an archive.** It is never empty and has no slash; and a file can be given the name
exactly if the identifier has no NUL and at most 244 bytes. When the run has been executed and
awaited and the download has been answered with success, the archive is created in a directory that
is there exactly if the name is such a name and the path is short enough. If not, the run fails for
the name alone, and nothing has changed. -/
theorem Runner.archive_created_iff_fits {config : Config.Client} {r : Runner}
    {services₀ : Services} {world₀ world₁ : World}
    (hr : (Runner.build config).run services₀ world₀ = (.done r, world₁)) (services : Services)
    (world : World) (path : Path) (id : Identifier) :
    let s : Scene := ⟨r.endpoints, config, services, world, path⟩
    let ended := (r.runAll path).run services world
    let name := Utf8.encode id.archiveName
    name ≠ [] ∧ Path.slash ∉ name ∧
    (IsFileName name ↔ '\x00' ∉ id.text.toList ∧ (Utf8.encode id.text).length ≤ 244) ∧
    ∀ submission channel wait response parent, s.Fetched submission id channel wait response →
      world.files.directory config.download.outputDir = .ok parent →
      world.files.node? parent = some .directory →
      world.files.node? (parent ++ [name]) ≠ some .directory →
      let fits := IsFileName name ∧ (s.archivePath id).bytes.length < FileSystem.maxPath
      (fits → world.files.ChangedAt ended.2.files (parent ++ [name])) ∧
      (¬fits → ended.2.files = world.files ∧ ended.1 =
        .failed (.io (if '\x00' ∈ id.text.toList then .nulInPath else .nameTooLong))) := by
  obtain ⟨e, _, he, rfl⟩ := endpoints_of_build hr
  intro s ended name
  have hpart : Path.IsPart name := id.isPart_archiveBytes
  refine ⟨hpart.ne_nil, hpart.slash_not_mem, Identifier.isFileName_archiveBytes_iff, ?_⟩
  intro submission channel wait response parent hf hdir hnode hfree fits
  obtain ⟨actions, outcome, files, hcourse, hends⟩ := s.runAll_course he
  obtain rfl : ended.1 = outcome := hends.outcome_eq
  obtain rfl : ended.2.files = files := hends.files_eq
  obtain ⟨huncreated, hcreated⟩ := hcourse.of_fetched hf
  have hiff : FileSystem.Fits (s.archivePath id) name ↔ fits :=
    FileSystem.fits_join_iff hpart hdir
  refine ⟨fun h => ?_, fun h => ?_⟩
  · exact hcreated _ _ (FileSystem.create_join_of_fits hpart hdir hnode (hiff.2 h) hfree)
  · have hcreate := FileSystem.create_join_of_not_fits hpart hdir hnode (mt hiff.1 h)
    obtain ⟨houtcome, hfiles⟩ := huncreated _ hcreate
    refine ⟨hfiles, ?_⟩
    simp only [houtcome, ← Identifier.zero_mem_archiveBytes]
    rfl

/-- A NUL in the time stamp: the run is started and awaited and its results arrive, and only then it
fails. -/
theorem Runner.nul_stamp_fails_at_the_end :
    let config : Config.Client :=
      { endpoints := ⟨"http://[::1]/", "ws://[::1]/"⟩, download := { outputDir := .ofText "out" } }
    let base : Url :=
      ⟨"http", none, some (.ipv6 [0, 0, 0, 0, 0, 0, 0, 1]), none, .segments ['/'], none, none⟩
    let r := Runner.ofEndpoints ⟨base, { base with scheme := "ws" }⟩ config
    let path : Path := .ofText "config.json"
    let tree : FileSystem :=
      ⟨[([path.bytes], .file (Utf8.encode "[]")), ([Utf8.encode "out"], .directory)], []⟩
    let body : Http.Body := { chunks := [Utf8.encode "\x7b\"timestamp\":\"a\\u0000b\"\x7d"] }
    let services : Services :=
      { answer := fun _ q => .ok ⟨⟨200⟩, q.url, body⟩
        channel := fun _ => .ok ⟨[], .ended, .ok ()⟩ }
    let ended := (r.runAll path).run services { files := tree }
    (Runner.build config).run services { files := tree } = (.done r, { files := tree }) ∧
      ended.2.sent = 3 ∧ ended.1 = .failed (.io .nulInPath) ∧ ended.2.files = tree := by
  intro config base r path tree body services ended
  have hr : (Runner.build config).run services { files := tree } = (.done r, { files := tree }) := by
    cbv
  let s : Scene := ⟨r.endpoints, config, services, { files := tree }, path⟩
  let id : Identifier := ⟨"a\x00b", by decide⟩
  have hread : tree.read path = .ok (Utf8.encode "[]") := by rfl
  have hjson : Json.ofBytes (Utf8.encode "[]") = .ok (.array []) := by rfl
  have hbody : Utf8.encode (body.decode body.bytes) =
      Utf8.encode "\x7b\"timestamp\":\"a\\u0000b\"\x7d" := by cbv
  have hreceipt : Receipt.ofBytes (Utf8.encode "\x7b\"timestamp\":\"a\\u0000b\"\x7d") =
      .ok ⟨some (.string "a\x00b")⟩ := by rfl
  have hreceipted : s.Receipted ⟨.array []⟩ ⟨some (.string "a\x00b")⟩ :=
    ⟨_, ⟨⟨_, hread, hjson⟩, rfl, rfl⟩, rfl, (congrArg Receipt.ofBytes hbody).trans hreceipt⟩
  have hstarted : s.Started ⟨.array []⟩ id := ⟨⟨_, hreceipted, rfl⟩, _, rfl⟩
  have hwaited : s.Waited ⟨.array []⟩ id ⟨[], .ended, .ok ()⟩ ⟨0, .channelClosed⟩ :=
    ⟨hstarted, rfl, by cbv⟩
  obtain ⟨-, -, hname, hfetched⟩ := archive_created_iff_fits hr services { files := tree } path id
  have hunfit : ¬(IsFileName (Utf8.encode id.archiveName) ∧
      (s.archivePath id).bytes.length < FileSystem.maxPath) :=
    fun hfits => (hname.1 hfits.1).1 (by decide)
  obtain ⟨hfiles, hend⟩ := (hfetched _ _ _ _ [Utf8.encode "out"] ⟨hwaited, rfl, rfl⟩ (by rfl)
    (by rfl) (by decide +kernel)).2 hunfit
  rw [if_pos (by decide)] at hend
  exact ⟨hr, by decide +kernel, hend, hfiles⟩

/-- An identifier of 245 bytes is accepted, and no file can be given the name of its archive. -/
theorem Identifier.long_archive_name_accepted :
    ¬∀ s : String, isIdentifier s = true → IsFileName (Utf8.encode ("result_" ++ s ++ ".zip")) := by
  intro h
  obtain ⟨s, htext⟩ : ∃ s : String, s.toList = List.replicate 245 'x' := ⟨_, String.toList_ofList⟩
  have hmem {c : Char} (hc : c ∈ s.toList) : c = 'x' := List.eq_of_mem_replicate (htext ▸ hc)
  have hne {t : String} (ht : t.toList.length < 245) : s ≠ t := by
    rintro rfl
    rw [htext, List.length_replicate] at ht
    exact Nat.lt_irrefl _ ht
  have hname : isIdentifier s = true := isIdentifier_iff.2
    ⟨hne (by decide), hne (by decide), hne (by decide), fun hc => absurd (hmem hc) (by decide),
      fun hc => absurd (hmem hc) (by decide)⟩
  have hlength : (Utf8.encode s).length = 245 := by
    rw [Utf8.encode, htext, Utf8.encodeChars, List.length_flatMap, List.map_replicate,
      List.sum_replicate_nat]
    rfl
  have hfits : IsFileName (⟨s, hname⟩ : Identifier).archiveBytes := h s hname
  have hle := (isFileName_archiveBytes_iff.1 hfits).2
  exact absurd (hlength.symm.trans_le hle) (by decide)

end Run

end MqttConformance
