import MqttConformance.Proofs.ArchivePath
import MqttConformance.Proofs.FirstFailure

/-! What a run leaves behind. However it ends, a run changes one file at most: the archive of the
run that the service has named; and it changes nothing at all until the download is answered with
success. `FileSystem.ChangedAt` says that one tree comes from another by writing one file. -/

namespace MqttConformance

namespace FileSystem

variable {fs created after : FileSystem} {place : Location} {path : Path}

/-- `after` has a file at one place and is otherwise as `fs` was. -/
structure ChangedAt (fs after : FileSystem) (place : Location) : Prop where
  workDir : after.workDir = fs.workDir
  file : ∃ content, after.node? place = some (.file content)
  others {l : Location} : l ≠ place → after.node? l = fs.node? l

/-- A file is created where its path leads. -/
theorem create_eq_ok (h : fs.create path = .ok (place, created)) :
    path.endsWithSlash = false ∧ fs.locate path.withoutSlashes = .ok place ∧
      fs.node? place ≠ some .directory ∧ created = fs.put place (.file []) := by
  unfold create at h
  split at h
  · cases h
  · next hl =>
    split at h
    · cases h
    · next hends =>
      split at h
      · cases h
      · next hnode =>
        cases h
        exact ⟨Bool.eq_false_iff.2 hends, hl, fun hd => hnode hd, rfl⟩

/-- What is created is a file without content, whatever was there before. -/
theorem node?_created (h : fs.create path = .ok (place, created)) :
    created.node? place = some (.file []) := by
  obtain ⟨_, _, hnode, rfl⟩ := create_eq_ok h
  exact node?_put_self fun hroot => hnode (hroot ▸ rfl)

theorem changedAt_create (h : fs.create path = .ok (place, created)) :
    fs.ChangedAt created place := by
  have hfile := node?_created h
  obtain ⟨_, _, _, rfl⟩ := create_eq_ok h
  exact ⟨rfl, ⟨[], hfile⟩, node?_put_of_ne⟩

/-- What is written to the end of the file changes nothing else. -/
theorem ChangedAt.append (h : fs.ChangedAt after place) (bytes : Bytes) :
    fs.ChangedAt (after.append place bytes) place := by
  obtain ⟨content, hfile⟩ := h.file
  have hroot : place ≠ [] := by
    rintro rfl
    cases hfile
  have happend : after.append place bytes = after.put place (.file (content ++ bytes)) := by
    rw [FileSystem.append, hfile]
  rw [happend]
  exact ⟨h.workDir, ⟨_, node?_put_self hroot⟩, fun hl => (node?_put_of_ne hl).trans (h.others hl)⟩

end FileSystem

namespace Run

variable {files after : FileSystem} {place : Location}

/-- Copying a body adds piece after piece to the file. -/
theorem Downloader.changedAt_filled {d : Downloader} {disk : Copy.Writer} {body : Http.Body}
    (h : files.ChangedAt after place) : files.ChangedAt (d.filled disk place body after) place := by
  unfold filled
  induction (Copy.inChunks disk.fresh body.stream d.chunkSize).writes generalizing after with
  | nil => exact h
  | cons piece pieces ih => exact ih (h.append piece)

namespace Scene

variable {s : Scene} {config config' : Configuration} {id other : Identifier}
variable {actions : List Action} {outcome : Outcome ClientError RunReport}

/-- A run has one identifier. -/
theorem Submitted.unique (h : s.Submitted config id) (h' : s.Submitted config' other) :
    id = other := by
  have hconfig := (loaded_iff.1 h.loaded).symm.trans (loaded_iff.1 h'.loaded)
  cases hconfig
  obtain ⟨_, hbody⟩ := h.submitted_eq
  obtain ⟨_, hbody'⟩ := h'.submitted_eq
  cases hbody.symm.trans hbody'
  rfl

/-- A run that has changed anything has been answered with success by the download. -/
theorem Course.files_eq (h : s.Course actions outcome files) :
    files = s.world.files ∨ ∃ config id channel wait response place,
      s.Fetched config id channel wait response ∧
        s.world.files.locate (s.archivePath id) = .ok place ∧
        s.world.files.ChangedAt files place := by
  have hplace {id place created}
      (hc : s.world.files.create (s.archivePath id) = .ok (place, created)) :
      s.world.files.locate (s.archivePath id) = .ok place := by
    obtain ⟨hends, hlocate, _⟩ := FileSystem.create_eq_ok hc
    rwa [Path.withoutSlashes_of_endsWithSlash_eq_false hends] at hlocate
  cases h with
  | unloaded | unsubmitted | unstarted | unopened | unfinished | waiting | unfetched | uncreated =>
    exact .inl rfl
  | crashed hf hc h =>
    exact .inr ⟨_, _, _, _, _, _, hf, hplace hc, FileSystem.changedAt_create hc⟩
  | unstored hf hc hb h | finished hf hc hb h =>
    exact .inr ⟨_, _, _, _, _, _, hf, hplace hc,
      Downloader.changedAt_filled (FileSystem.changedAt_create hc)⟩

end Scene

/-- Whatever the services answer and however a run ends, the files are as they were unless the
download has been answered with success; and then they differ at most in the archive that is named
for the answer to the submission, which is a file directly in the output directory. -/
theorem Runner.runAll_changes_archive_only {config : Config.Client} {r : Runner}
    {services₀ : Services} {world₀ world₁ : World}
    (hr : (Runner.build config).run services₀ world₀ = (.done r, world₁)) (services : Services)
    (world : World) (path : Path) :
    let s : Scene := ⟨r.endpoints, config, services, world, path⟩
    let after := ((r.runAll path).run services world).2.files
    ((¬∃ submission id channel wait response, s.Fetched submission id channel wait response) →
      after = world.files) ∧
    ∀ submission id, s.Submitted submission id → after = world.files ∨
      ∃ parent, world.files.directory config.download.outputDir = .ok parent ∧
        world.files.ChangedAt after
          (parent ++ [Utf8.encode ("result_" ++ id.text ++ ".zip")]) := by
  obtain ⟨e, _, he, rfl⟩ := endpoints_of_build hr
  intro s after
  obtain ⟨actions, outcome, files, hcourse, hends⟩ := s.runAll_course he
  obtain rfl : after = files := hends.files_eq
  rcases hcourse.files_eq with hsame | ⟨_, named, _, _, _, place, hf, hplace, hchanged⟩
  · exact ⟨fun _ => hsame, fun _ _ _ => .inl hsame⟩
  · refine ⟨fun hnot => absurd ⟨_, _, _, _, _, hf⟩ hnot, fun submission id hs => .inr ?_⟩
    obtain rfl : id = named := hs.unique hf.1.1.1
    have hlies := config.download.outputDir.liesIn_join id.isPart_archiveBytes
    obtain ⟨parent, hparent, rfl⟩ := hlies.located hplace
    exact ⟨parent, hparent, hchanged⟩

/-- A run whose archive breaks off: what has arrived of it is left in the file. -/
theorem Runner.cut_run_changes_archive_only :
    let config : Config.Client :=
      { endpoints := ⟨"http://[::1]/", "ws://[::1]/"⟩, download := { outputDir := .ofText "out" } }
    let base : Url :=
      ⟨"http", none, some (.ipv6 [0, 0, 0, 0, 0, 0, 0, 1]), none, .segments ['/'], none, none⟩
    let r := Runner.ofEndpoints ⟨base, { base with scheme := "ws" }⟩ config
    let path : Path := .ofText "config.json"
    let tree : FileSystem :=
      ⟨[([path.bytes], .file (Utf8.encode "[]")), ([Utf8.encode "out"], .directory)], []⟩
    let receipt : Http.Body := { chunks := [Utf8.encode "\x7b\"timestamp\":7\x7d"] }
    let archive : Http.Body := { chunks := [[1, 2], [3]], failure := some (.reading ⟨[], ""⟩) }
    let services : Services :=
      { answer := fun n q => .ok ⟨⟨200⟩, q.url, if n = 2 then archive else receipt⟩
        channel := fun _ => .ok ⟨[], .ended, .ok ()⟩ }
    let s : Scene := ⟨r.endpoints, config, services, { files := tree }, path⟩
    let id : Identifier := ⟨"7", by decide⟩
    let after := ((r.runAll path).run services { files := tree }).2.files
    (Runner.build config).run services { files := tree } = (.done r, { files := tree }) ∧
      s.Submitted ⟨.array []⟩ id ∧ after.read (.ofText "out/result_7.zip") = .ok [1, 2, 3] ∧
      tree.ChangedAt after [Utf8.encode "out", Utf8.encode "result_7.zip"] := by
  intro config base r path tree receipt archive services s id after
  have hr : (Runner.build config).run services { files := tree } = (.done r, { files := tree }) := by
    cbv
  have hread : tree.read path = .ok (Utf8.encode "[]") := by rfl
  have hjson : Json.ofBytes (Utf8.encode "[]") = .ok (.array []) := by rfl
  have hbody : Utf8.encode (receipt.decode receipt.bytes) =
      Utf8.encode "\x7b\"timestamp\":7\x7d" := by cbv
  have hreceipt : Receipt.ofBytes (Utf8.encode "\x7b\"timestamp\":7\x7d") =
      .ok ⟨some (.number (.natural 7))⟩ := by rfl
  have hreceipted : s.Receipted ⟨.array []⟩ ⟨some (.number (.natural 7))⟩ :=
    ⟨_, ⟨⟨_, hread, hjson⟩, rfl, rfl⟩, rfl, (congrArg Receipt.ofBytes hbody).trans hreceipt⟩
  have hs : s.Submitted ⟨.array []⟩ id := ⟨_, hreceipted, rfl⟩
  have hafter : after.read (.ofText "out/result_7.zip") = .ok [1, 2, 3] := by
    decide +kernel
  refine ⟨hr, hs, hafter, ?_⟩
  rcases (runAll_changes_archive_only hr services _ path).2 _ id hs with h | ⟨parent, hparent, h⟩
  · have hnone : tree.read (.ofText "out/result_7.zip") = .error .notFound := by rfl
    cases hafter.symm.trans ((congrArg (FileSystem.read · _) h).trans hnone)
  · have hout : tree.directory config.download.outputDir = .ok [Utf8.encode "out"] := by rfl
    cases hparent.symm.trans hout
    exact h

end Run

end MqttConformance
