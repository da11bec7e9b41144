import MqttConformance.Proofs.Footprint
import MqttConformance.Proofs.Writing
import MqttConformance.Proofs.WriterPath

/-!
# The archive of a run

`FileSystem.Holds` says that a path leads to a file with a content. A new file holds nothing,
whatever was there before, and each write of a copy adds to what it holds. If the body arrives
completely, a download leaves the body in the archive; otherwise it fails, and leaves a beginning of
what has arrived (`Downloader.download_stores_body`).
-/

namespace MqttConformance

namespace FileSystem

variable {fs created : FileSystem} {path : Path} {place : Location} {content : Bytes}

/-- The path leads to a place with a file of that content. -/
structure Holds (fs : FileSystem) (path : Path) (place : Location) (content : Bytes) : Prop where
  located : fs.locate path = .ok place
  node?_eq : fs.node? place = some (.file content)

theorem Holds.read_eq (h : fs.Holds path place content) : fs.read path = .ok content := by
  rw [read, h.located]
  dsimp only
  rw [h.node?_eq]

/-- What is created holds nothing, whatever was there before. -/
theorem holds_create (h : fs.create path = .ok (place, created)) :
    created.Holds path place [] := by
  refine ⟨?_, node?_created h⟩
  obtain ⟨hends, hlocate, hnode, rfl⟩ := create_eq_ok h
  rw [Path.withoutSlashes_of_endsWithSlash_eq_false hends] at hlocate
  exact locate_put hnode hlocate

theorem Holds.append (h : fs.Holds path place content) (bytes : Bytes) :
    (fs.append place bytes).Holds path place (content ++ bytes) := by
  have hdirectory : fs.node? place ≠ some .directory := by
    rw [h.node?_eq]
    exact nofun
  have hroot : place ≠ [] := by
    rintro rfl
    exact hdirectory rfl
  rw [FileSystem.append, h.node?_eq]
  exact ⟨locate_put hdirectory h.located, node?_put_self hroot⟩

theorem Holds.appendAll (h : fs.Holds path place content) (writes : List Bytes) :
    (writes.foldl (·.append place ·) fs).Holds path place (content ++ writes.flatten) := by
  induction writes generalizing fs content with
  | nil => simpa using h
  | cons bytes writes ih =>
    have hrest := ih (h.append bytes)
    rwa [List.append_assoc, ← List.flatten_cons] at hrest

end FileSystem

namespace Run

namespace Copy.Writer

variable {w : Writer} {most chunkSize : Nat} {stream : List (Except IoFault Bytes)}

theorem length_le_of_mem_offered {piece : Bytes} (h : piece ∈ offered stream chunkSize) :
    piece.length ≤ bufferSize chunkSize := by
  obtain ⟨chunk, -, hpiece⟩ := List.mem_flatMap.1 h
  exact (isCut_cut (bufferSize_pos chunkSize) chunk).length_le piece hpiece

/-- A writer that accepts what it is offered takes every piece. -/
theorem Accepts.takes_offered (h : w.Accepts most) (hsize : chunkSize < 2 ^ 63) :
    (w.fresh.writePieces (offered stream chunkSize)).2 = none := by
  obtain ⟨parts, hparts, -⟩ := (h.withWrites []).writePieces_eq fun piece hpiece =>
    (length_le_of_mem_offered hpiece).trans_lt (bufferSize_lt_bufferBound hsize)
  exact congrArg (·.2) hparts

end Copy.Writer

namespace Downloader

variable {d : Downloader} {disk : Copy.Writer} {body : Http.Body}

/-- What a copy writes of a body. -/
theorem written_prefix (d : Downloader) (disk : Copy.Writer) (body : Http.Body) :
    (Copy.inChunks disk.fresh body.stream d.chunkSize).writes.flatten <+: body.bytes := by
  have hprefix := Copy.flatten_writes_prefix disk body.stream d.chunkSize
  rwa [arrived_stream] at hprefix

theorem written_of_stored {count : Nat} (hb : Copy.bufferSize d.chunkSize < Copy.bufferBound)
    (h : d.stored disk body = .ok count) : body.failure = none ∧ count = body.bytes.length ∧
      (Copy.inChunks disk.fresh body.stream d.chunkSize).writes.flatten = body.bytes := by
  unfold stored at h
  split at h
  · cases h
  · cases h
  · next hrefused hfailure =>
    cases h
    refine ⟨hfailure, rfl, ?_⟩
    cases hrun : disk.fresh.writePieces (Copy.offered body.stream d.chunkSize) with
    | mk w' refused =>
      rw [refused?, hrun] at hrefused
      obtain rfl : refused = none := hrefused
      have hwritten := Copy.Writer.written_of_writePieces hrun
      rw [Copy.flatten_offered, arrived_stream, Copy.Writer.written_fresh] at hwritten
      rw [Copy.writes_inChunks hb, hrun]
      exact hwritten

/-- An answer with success leaves its body in the archive, whatever was there before, and the
download says so. If the body breaks off, the download fails, and only what has arrived can be in
the archive. -/
theorem download_stores_body (d : Downloader) (id : Identifier) (services : Services)
    (world : World) {base notification : String} {response : Http.Response}
    {place : Location} {created : FileSystem} (he : Endpoints.ofTexts base notification = .ok d.endpoints)
    (hsize : d.chunkSize < 2 ^ 63)
    (hanswer : (d.endpoints.downloadRequest id).exchange services world.sent = .ok response)
    (hstatus : 200 ≤ response.status.code ∧ response.status.code < 300)
    (hcreate : world.files.create (d.archivePath id) = .ok (place, created)) :
    let outcome := ((d.download id).run services world).1
    let after := ((d.download id).run services world).2.files
    world.files.ChangedAt after place ∧
    (response.body.failure = none → (∃ most, services.disk.Accepts most) →
      outcome = .done ⟨d.archivePath id, response.body.bytes.length, response.status⟩ ∧
      after.read (d.archivePath id) = .ok response.body.bytes) ∧
    (∀ failure, response.body.failure = some failure → (∃ error, outcome = .failed error) ∧
      ∃ content, after.read (d.archivePath id) = .ok content ∧ content <+: response.body.bytes) ∧
    ∀ summary, outcome = .done summary → response.body.failure = none ∧
      summary = ⟨d.archivePath id, response.body.bytes.length, response.status⟩ ∧
      after.read (d.archivePath id) = .ok response.body.bytes := by
  intro outcome after
  have haccepted : (d.endpoints.downloadRequest id).accepted services world.sent = .ok response :=
    Http.Request.accepted_eq_ok.2 ⟨hanswer, by simpa [Http.Status.isSuccess] using hstatus⟩
  have hb := Copy.bufferSize_lt_bufferBound hsize
  have hends := download_ends (Endpoints.base_of_ofTexts he).2 haccepted
    (fun {_} hf => store_ends hcreate (fun {_} hf => copyTo_ends hb hf) hf) rfl rfl
  have hafter : after = d.filled services.disk place response.body created := hends.files_eq
  have houtcome : outcome = (Outcome.ofExcept (d.stored services.disk response.body)).map
      fun count => ⟨d.archivePath id, count, response.status⟩ := hends.outcome_eq
  have hholds : after.Holds (d.archivePath id) place
      (Copy.inChunks services.disk.fresh response.body.stream d.chunkSize).writes.flatten := by
    rw [hafter]
    exact (FileSystem.holds_create hcreate).appendAll _
  refine ⟨?_, fun hfailure ⟨most, hdisk⟩ => ?_, fun failure hfailure => ⟨?_, ?_⟩,
    fun summary hsummary => ?_⟩
  · rw [hafter]
    exact changedAt_filled (FileSystem.changedAt_create hcreate)
  · have hstored : d.stored services.disk response.body = .ok response.body.bytes.length := by
      rw [stored, refused?, hdisk.takes_offered hsize, hfailure]
    rw [houtcome, hstored, hholds.read_eq, (written_of_stored hb hstored).2.2]
    exact ⟨rfl, rfl⟩
  · rw [houtcome, stored, hfailure]
    cases d.refused? services.disk response.body with
    | none => exact ⟨_, rfl⟩
    | some fault => exact ⟨_, rfl⟩
  · exact ⟨_, hholds.read_eq, d.written_prefix services.disk response.body⟩
  · rw [houtcome] at hsummary
    cases hstored : d.stored services.disk response.body with
    | error error =>
      rw [hstored] at hsummary
      cases hsummary
    | ok count =>
      obtain ⟨hfailure, rfl, hwritten⟩ := written_of_stored hb hstored
      rw [hstored] at hsummary
      cases hsummary
      rw [hholds.read_eq, hwritten]
      exact ⟨hfailure, rfl, rfl⟩

/-- A longer archive of the same name is replaced, one byte at a time since no chunk size is set. -/
theorem download_replaces_longer_archive :
    let base : Url :=
      ⟨"http", none, some (.ipv6 [0, 0, 0, 0, 0, 0, 0, 1]), none, .segments ['/'], none, none⟩
    let d : Downloader := .new ⟨base, { base with scheme := "ws" }⟩ (.ofText "out") 0
    let id : Identifier := ⟨"7", by decide⟩
    let place : Location := [Utf8.encode "out", Utf8.encode "result_7.zip"]
    let tree : FileSystem :=
      ⟨[(place, .file [9, 9, 9, 9, 9]), ([Utf8.encode "out"], .directory)], []⟩
    let services : Services :=
      { answer := fun _ q => .ok ⟨⟨206⟩, q.url, { chunks := [[1, 2], [], [3]] }⟩
        channel := fun _ => .ok ⟨[], .ended, .ok ()⟩ }
    let path := Path.ofText "out/result_7.zip"
    let outcome := ((d.download id).run services { files := tree }).1
    let after := ((d.download id).run services { files := tree }).2.files
    tree.read path = .ok [9, 9, 9, 9, 9] ∧ outcome = .done ⟨path, 3, ⟨206⟩⟩ ∧
      after.read path = .ok [1, 2, 3] := by
  intro base d id place tree services path outcome after
  have he : Endpoints.ofTexts "http://[::1]/" "ws://[::1]/" = .ok d.endpoints := by cbv
  have hanswer : (d.endpoints.downloadRequest id).exchange services 0 =
      .ok ⟨⟨206⟩, d.endpoints.downloadTarget id, { chunks := [[1, 2], [], [3]] }⟩ :=
    if_pos (Endpoints.leaves_of_target.trans rfl)
  have hcreate : tree.create (d.archivePath id) = .ok (place, tree.put place (.file [])) := by
    decide +kernel
  have hdisk : services.disk.Accepts Copy.bufferBound := by
    refine ⟨rfl, fun writes offer hoffer hfits => ?_⟩
    have htaken : { services.disk with writes := writes }.taken offer = offer := List.take_length
    rw [htaken]
    exact ⟨List.length_pos_iff.2 hoffer, hfits.le⟩
  obtain ⟨-, hcomplete, -⟩ :=
    d.download_stores_body id services { files := tree } he (by decide) hanswer (by decide) hcreate
  have hold : tree.read path = .ok [9, 9, 9, 9, 9] := by decide +kernel
  have hpath : d.archivePath id = path := by decide +kernel
  rw [hpath] at hcomplete
  exact ⟨hold, hcomplete rfl ⟨_, hdisk⟩⟩

end Downloader

end Run

end MqttConformance
