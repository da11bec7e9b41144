import MqttConformance.Proofs.Archive

/-!
# Several downloads

A download reads the tree in one way only: it looks up where the archive can be created
(`FileSystem.site`). It changes one file at most, and what it writes there does not depend on the
tree. The archives of two runs are different names in one directory, and neither is on the way to
the other, so downloads of two runs can change places; and since a file is emptied when it is
created, a second download of a run leaves nothing of the first (`Downloader.downloads_commute`).
A tree has no links, so different places hold different files.
-/

namespace MqttConformance

namespace Path

/-- Names that are joined to the same path differ in their last part only. -/
theorem exists_front (p : Path) :
    ∃ front, ∀ name, IsPart name → splitSlash (p.join ⟨name⟩).bytes = front ++ [name] := by
  by_cases hnil : p.bytes = []
  · refine ⟨[], fun name h => ?_⟩
    rw [join_eq h, if_pos (.inl hnil), hnil, List.nil_append, h.splitSlash_eq, List.nil_append]
  · cases hends : p.endsWithSlash with
    | true =>
      obtain ⟨a, ha⟩ := exists_of_endsWithSlash hends
      refine ⟨splitSlash a, fun name h => ?_⟩
      rw [join_eq h, if_pos (.inr hends), ha, List.append_assoc, List.singleton_append,
        splitSlash_append, h.splitSlash_eq]
    | false =>
      refine ⟨splitSlash p.bytes, fun name h => ?_⟩
      rw [join_eq h, if_neg (by simp [hnil, hends]), splitSlash_append, h.splitSlash_eq]

end Path

namespace FileSystem

variable {fs fs' : FileSystem} {p path : Path} {a b : Bytes} {l l' place place' : Location}
variable {n n' : Node}

/-! ## Trees with the same nodes -/

/-- Two trees have the same node at every location, in whatever order they list them. -/
structure Alike (fs fs' : FileSystem) : Prop where
  workDir : fs.workDir = fs'.workDir
  node?_eq (l : Location) : fs.node? l = fs'.node? l

namespace Alike

theorem refl (fs : FileSystem) : fs.Alike fs := ⟨rfl, fun _ => rfl⟩

variable (h : fs.Alike fs')
include h

theorem walk_eq (start : Location) (parts : List Bytes) :
    fs.walk start parts = fs'.walk start parts := by
  induction parts generalizing start with
  | nil => rfl
  | cons part parts ih =>
    have hstep : fs.step start part = fs'.step start part := by rw [step, step, h.node?_eq]
    rw [walk, walk, hstep]
    cases fs'.step start part with
    | ok next => exact ih next
    | error fault => rfl

/-- No path tells such trees apart. -/
theorem read_eq (path : Path) : fs.read path = fs'.read path := by
  have hlocate : fs.locate path = fs'.locate path := by
    rw [locate, locate, h.walk_eq, h.workDir]
  rw [read, read, hlocate]
  cases fs'.locate path with
  | ok place => simp only [h.node?_eq]
  | error fault => rfl

end Alike

theorem put_put : (fs.put l n).put l n' = fs.put l n' := by
  simp [put, List.filter_filter]

theorem put_comm (h : l ≠ l') : ((fs.put l n).put l' n').Alike ((fs.put l' n').put l n) := by
  refine ⟨rfl, fun m => ?_⟩
  by_cases hroot : m = []
  · rw [hroot]
    rfl
  by_cases hl : m = l
  · subst hl
    rw [node?_put_of_ne h, node?_put_self hroot, node?_put_self hroot]
  · rw [node?_put_of_ne hl]
    by_cases hl' : m = l'
    · subst hl'
      rw [node?_put_self hroot, node?_put_self hroot]
    · rw [node?_put_of_ne hl', node?_put_of_ne hl', node?_put_of_ne hl]

/-- Bytes that are added to a file one after another are in it as if they had been there at once. -/
theorem appendAll_put (hl : l ≠ []) (content : Bytes) (writes : List Bytes) :
    writes.foldl (·.append l ·) (fs.put l (.file content)) =
      fs.put l (.file (content ++ writes.flatten)) := by
  induction writes generalizing content with
  | nil => simp
  | cons bytes writes ih =>
    have happend : (fs.put l (.file content)).append l bytes =
        fs.put l (.file (content ++ bytes)) := by
      rw [append, node?_put_self hl]
      exact put_put
    rw [List.foldl_cons, happend, ih, List.flatten_cons, List.append_assoc]

/-! ## Where a file is created -/

/-- The place at which a file is created, or why none can be. -/
def site (fs : FileSystem) (path : Path) : Except IoFault Location := (fs.create path).map (·.1)

theorem create_of_site (h : fs.site path = .ok place) :
    fs.create path = .ok (place, fs.put place (.file [])) := by
  unfold site at h
  cases hc : fs.create path with
  | error fault => simp [hc, Except.map] at h
  | ok made =>
    obtain ⟨at_, created⟩ := made
    obtain ⟨-, -, -, rfl⟩ := create_eq_ok hc
    rw [hc] at h
    cases h
    rfl

theorem create_of_no_site {fault : IoFault} (h : fs.site path = .error fault) :
    fs.create path = .error fault := by
  unfold site at h
  cases hc : fs.create path with
  | error fault => simpa [hc, Except.map] using h
  | ok made => simp [hc, Except.map] at h

theorem site_join (ha : Path.IsPart a) : fs.site (p.join ⟨a⟩) =
    (fs.locate (p.join ⟨a⟩)).bind fun place =>
      if fs.node? place = some .directory then .error .isDirectory else .ok place := by
  have hends := p.endsWithSlash_join ha
  rw [site, create, Path.withoutSlashes_of_endsWithSlash_eq_false hends, hends]
  cases fs.locate (p.join ⟨a⟩) with
  | error fault => rfl
  | ok place =>
    simp only [Bool.false_eq_true, if_false, Except.bind]
    split
    · next hnode => rw [if_pos hnode]; rfl
    · next hnode => rw [if_neg fun h => hnode h]; rfl

theorem site_join_eq_ok (ha : Path.IsPart a) : fs.site (p.join ⟨a⟩) = .ok place ↔
    fs.locate (p.join ⟨a⟩) = .ok place ∧ fs.node? place ≠ some .directory := by
  rw [site_join ha]
  cases fs.locate (p.join ⟨a⟩) with
  | error fault => simp [Except.bind]
  | ok at_ =>
    simp only [Except.bind, Except.ok.injEq]
    split
    · next hnode =>
      refine ⟨nofun, ?_⟩
      rintro ⟨rfl, h⟩
      exact absurd hnode h
    · next hnode =>
      rw [Except.ok.injEq]
      exact ⟨fun h => ⟨h, h ▸ hnode⟩, And.left⟩

/-- A file can be created again where it has been created. -/
theorem site_put_self (ha : Path.IsPart a) (h : fs.site (p.join ⟨a⟩) = .ok place)
    (content : Bytes) : (fs.put place (.file content)).site (p.join ⟨a⟩) = .ok place := by
  obtain ⟨hlocate, hnode⟩ := (site_join_eq_ok ha).1 h
  have hroot : place ≠ [] := fun hroot => hnode (hroot ▸ rfl)
  refine (site_join_eq_ok ha).2 ⟨locate_put hnode hlocate, ?_⟩
  rw [node?_put_self hroot]
  exact nofun

/-- Different names in one directory lead to different places. -/
theorem locate_join_ne (ha : Path.IsPart a) (hb : Path.IsPart b) (hne : a ≠ b)
    (h : fs.locate (p.join ⟨a⟩) = .ok place) (h' : fs.locate (p.join ⟨b⟩) = .ok place') :
    place ≠ place' := by
  obtain ⟨parent, -, rfl⟩ := locate_join ha h
  obtain ⟨parent', -, rfl⟩ := locate_join hb h'
  intro heq
  exact hne (List.singleton_inj.1 (List.append_inj_right' heq rfl))

/-- A file in a directory is not on the way to the other names in it. -/
theorem locate_put_sibling (ha : Path.IsPart a) (hb : Path.IsPart b)
    (h : fs.locate (p.join ⟨a⟩) = .ok place) (hnode : fs.node? place ≠ some .directory) :
    (fs.put place n).locate (p.join ⟨b⟩) = fs.locate (p.join ⟨b⟩) := by
  obtain ⟨front, hfront⟩ := p.exists_front
  obtain ⟨-, -, -, hwalk⟩ := locate_eq_ok.1 h
  rw [p.isAbsolute_join ha, hfront a ha] at hwalk
  obtain ⟨parent, hparent, hdirectory, rfl⟩ := walk_concat ha hwalk
  have hstep : (fs.put (parent ++ [a]) n).step parent b = fs.step parent b := by
    rw [step, step, node?_put_of_ne (by simp)]
  unfold locate
  rw [p.isAbsolute_join hb, hfront b hb, walk_append, walk_append, workDir_put, hparent,
    walk_put hnode hparent]
  simp only [walk, hstep]

theorem site_put_sibling (ha : Path.IsPart a) (hb : Path.IsPart b) (hne : a ≠ b)
    (h : fs.site (p.join ⟨a⟩) = .ok place) (n : Node) :
    (fs.put place n).site (p.join ⟨b⟩) = fs.site (p.join ⟨b⟩) := by
  obtain ⟨hlocate, hnode⟩ := (site_join_eq_ok ha).1 h
  rw [site_join hb, site_join hb, locate_put_sibling ha hb hlocate hnode]
  cases hl : fs.locate (p.join ⟨b⟩) with
  | error fault => rfl
  | ok place' =>
    have hplace := (locate_join_ne ha hb hne hlocate hl).symm
    simp only [Except.bind, node?_put_of_ne hplace]

end FileSystem

namespace Run.Downloader

open Effect (Ends)

variable {d : Downloader} {id other : Identifier} {disk : Copy.Writer} {files : FileSystem}
variable {services : Services} {world : World}

section

variable (d : Downloader) (id : Identifier) (disk : Copy.Writer)

/-! ## A download as a change of one file -/

/-- The answer that a download acts on, or why it has none. -/
def answer (services : Services) (n : Nat) : Except ClientError Http.Response :=
  (d.endpoints.downloadUrl id).bind fun _ => (d.endpoints.downloadRequest id).accepted services n

/-- What is written of a body. -/
def written (body : Http.Body) : Bytes :=
  if Copy.bufferBound ≤ Copy.bufferSize d.chunkSize then []
  else (Copy.inChunks disk.fresh body.stream d.chunkSize).writes.flatten

/-- How the copying of a body ends. -/
def copied (body : Http.Body) : Outcome ClientError Nat :=
  if Copy.bufferBound ≤ Copy.bufferSize d.chunkSize then .crashed Copy.overflowMessage
  else .ofExcept (d.stored disk body)

/-- How a download ends with an answer and with the place of the archive. -/
def outcome : Except ClientError Http.Response → Except IoFault Location →
    Outcome ClientError DownloadSummary
  | .error error, _ => .failed error
  | .ok _, .error fault => .failed (.io fault)
  | .ok response, .ok _ =>
    (d.copied disk response.body).map fun count => ⟨d.archivePath id, count, response.status⟩

/-- What a download leaves with an answer and with the place of the archive. -/
def left (files : FileSystem) : Except ClientError Http.Response → Except IoFault Location →
    FileSystem
  | .ok response, .ok place => files.put place (.file (d.written disk response.body))
  | _, _ => files

end

/-- An archive that can be created holds what is written of the body. -/
theorem store_leaves {body : Http.Body} {place : Location}
    (hsite : files.site (d.archivePath id) = .ok place) (hf : world.files = files) :
    (d.store (d.archivePath id) body).Ends services world (d.copied services.disk body) []
      (files.put place (.file (d.written services.disk body))) := by
  have hcreate := FileSystem.create_of_site hsite
  have hroot : place ≠ [] := by
    rintro rfl
    exact (FileSystem.create_eq_ok hcreate).2.2.1 rfl
  unfold copied written
  split
  · next hb => exact store_ends hcreate (copyTo_crashes hb) hf
  · next hb =>
    rw [← List.nil_append (List.flatten _), ← FileSystem.appendAll_put hroot]
    exact store_ends hcreate (copyTo_ends (Nat.not_le.1 hb)) hf

/-- A download depends on the tree through the place of the archive alone. -/
theorem download_leaves (d : Downloader) (id : Identifier) (services : Services) (world : World) :
    let answer := d.answer id services world.sent
    let site := world.files.site (d.archivePath id)
    ∃ actions, (d.download id).Ends services world (d.outcome id services.disk answer site) actions
      (d.left services.disk world.files answer site) := by
  intro answer site
  cases hurl : d.endpoints.downloadUrl id with
  | error error =>
    have hanswer : answer = .error error := by
      simp only [answer, Downloader.answer, hurl, Except.bind]
    rw [hanswer, download, hurl]
    exact ⟨[], Ends.bind_failed (.fail rfl)⟩
  | ok url =>
    have hbase := Endpoints.takesSegments_of_route hurl
    have hanswer : answer = (d.endpoints.downloadRequest id).accepted services world.sent := by
      simp only [answer, Downloader.answer, hurl, Except.bind]
    rw [hanswer]
    cases hr : (d.endpoints.downloadRequest id).accepted services world.sent with
    | error error => exact ⟨_, download_unaccepted hbase hr rfl rfl⟩
    | ok response =>
      cases hsite : site with
      | error fault =>
        have hcreate := FileSystem.create_of_no_site hsite
        exact ⟨_, download_ends hbase hr (store_uncreated hcreate) rfl rfl⟩
      | ok place => exact ⟨_, download_ends hbase hr (store_leaves hsite) rfl rfl⟩

theorem outcome_download (d : Downloader) (id : Identifier) (services : Services) (world : World) :
    ((d.download id).run services world).1 = d.outcome id services.disk
      (d.answer id services world.sent) (world.files.site (d.archivePath id)) := by
  obtain ⟨_, hends⟩ := d.download_leaves id services world
  exact hends.outcome_eq

theorem files_download (d : Downloader) (id : Identifier) (services : Services) (world : World) :
    ((d.download id).run services world).2.files = d.left services.disk world.files
      (d.answer id services world.sent) (world.files.site (d.archivePath id)) := by
  obtain ⟨_, hends⟩ := d.download_leaves id services world
  exact hends.files_eq

/-- The number of requests before a download matters to the services alone. -/
theorem answer_eq_of_settled {answer : Except Http.Failure Http.Response}
    (h : ∀ n, services.answer n (d.endpoints.downloadRequest id) = answer) (m n : Nat) :
    d.answer id services m = d.answer id services n := by
  rw [Downloader.answer, Downloader.answer, Http.Request.accepted, Http.Request.accepted,
    Http.Request.exchange, Http.Request.exchange, h m, h n]

/-- An answer with success is acted on, unless no request for the archive ever leaves. -/
theorem answer_of_success {response : Http.Response} {n : Nat}
    (h : services.answer n (d.endpoints.downloadRequest id) = .ok response)
    (hs : response.status.isSuccess = true) : d.answer id services n = .ok response ∨
      ∀ (services' : Services) (m : Nat), ∃ error, d.answer id services' m = .error error := by
  unfold Downloader.answer
  cases d.endpoints.downloadUrl id with
  | error error => exact .inr fun _ _ => ⟨error, rfl⟩
  | ok url =>
    simp only [Except.bind, Http.Request.accepted, Http.Request.exchange]
    cases (d.endpoints.downloadRequest id).leaves with
    | true => exact .inl (by simp [h, hs])
    | false => exact .inr fun _ _ => ⟨_, rfl⟩

/-! ## Two downloads -/

variable {answer answer' : Except ClientError Http.Response} {disk' : Copy.Writer}

/-- What a download leaves has the same place for the archive of another run. -/
theorem site_left (h : id ≠ other) (answer : Except ClientError Http.Response) :
    (d.left disk files answer (files.site (d.archivePath id))).site (d.archivePath other) =
      files.site (d.archivePath other) := by
  have hne : id.archiveBytes ≠ other.archiveBytes := mt Identifier.archiveBytes_injective h
  unfold left
  split
  · next place hsite =>
    exact FileSystem.site_put_sibling id.isPart_archiveBytes other.isPart_archiveBytes hne hsite _
  · rfl

/-- What a download leaves has the same place for the archive of the run itself. -/
theorem site_left_self (answer : Except ClientError Http.Response) :
    (d.left disk files answer (files.site (d.archivePath id))).site (d.archivePath id) =
      files.site (d.archivePath id) := by
  unfold left
  split
  · next place hsite =>
    rw [hsite]
    exact FileSystem.site_put_self id.isPart_archiveBytes hsite _
  · rfl

theorem left_comm (h : id ≠ other) :
    let site := files.site (d.archivePath id)
    let site' := files.site (d.archivePath other)
    (d.left disk' (d.left disk files answer site) answer' site').Alike
      (d.left disk (d.left disk' files answer' site') answer site) := by
  intro site site'
  cases answer with
  | error error => exact .refl _
  | ok response =>
    cases hsite : site with
    | error fault => exact .refl _
    | ok place =>
      cases answer' with
      | error error => exact .refl _
      | ok response' =>
        cases hsite' : site' with
        | error fault => exact .refl _
        | ok place' =>
          have hne : id.archiveBytes ≠ other.archiveBytes := mt Identifier.archiveBytes_injective h
          have hpart := id.isPart_archiveBytes
          have hpart' := other.isPart_archiveBytes
          exact FileSystem.put_comm (FileSystem.locate_join_ne hpart hpart' hne
            ((FileSystem.site_join_eq_ok hpart).1 hsite).1
            ((FileSystem.site_join_eq_ok hpart').1 hsite').1)

/-- Nothing is left of an earlier download once a later one is answered with success. -/
theorem left_left {response : Http.Response} :
    let site := files.site (d.archivePath id)
    d.left disk' (d.left disk files answer site) (.ok response) site =
      d.left disk' files (.ok response) site := by
  intro site
  cases hsite : site with
  | error fault => cases answer <;> rfl
  | ok place =>
    cases answer with
    | error error => rfl
    | ok response => exact FileSystem.put_put

/-- **Two downloads.** Downloads of two runs come to the same in either order, each with its own
answer and its own disk, and they leave the same tree: whether an answer is refused, breaks off or
never comes, and whatever is in the output directory. Of two downloads of one run the second leaves
what it would have left alone, if it is answered with success. -/
theorem downloads_commute (d : Downloader) (id : Identifier) (services : Services) (world : World)
    {answer : Except Http.Failure Http.Response}
    (ha : ∀ n, services.answer n (d.endpoints.downloadRequest id) = answer) :
    (∀ (other : Identifier) (services' : Services) (answer' : Except Http.Failure Http.Response),
      id ≠ other → (∀ n, services'.answer n (d.endpoints.downloadRequest other) = answer') →
      let first := (d.download id).run services world
      let second := (d.download other).run services' first.2
      let first' := (d.download other).run services' world
      let second' := (d.download id).run services first'.2
      first.1 = second'.1 ∧ second.1 = first'.1 ∧ second.2.files.Alike second'.2.files ∧
        ∀ path, second.2.files.read path = second'.2.files.read path) ∧
    ∀ (earlier : Services) (response : Http.Response), answer = .ok response →
      200 ≤ response.status.code ∧ response.status.code < 300 →
      let alone := (d.download id).run services world
      let twice := (d.download id).run services ((d.download id).run earlier world).2
      twice.1 = alone.1 ∧ twice.2.files = alone.2.files := by
  constructor
  case left =>
    intro other services' answer' hne ha' first second first' second'
    have hfirst : first.2.files = _ := d.files_download id services world
    have hfirst' : first'.2.files = _ := d.files_download other services' world
    have hsite : first'.2.files.site (d.archivePath id) = world.files.site (d.archivePath id) := by
      rw [hfirst', site_left hne.symm]
    have hsite' : first.2.files.site (d.archivePath other) =
        world.files.site (d.archivePath other) := by
      rw [hfirst, site_left hne]
    have halike : second.2.files.Alike second'.2.files := by
      rw [d.files_download other services' first.2, d.files_download id services first'.2, hsite,
        hsite', hfirst, hfirst', answer_eq_of_settled ha first'.2.sent world.sent,
        answer_eq_of_settled ha' first.2.sent world.sent]
      exact left_comm hne
    refine ⟨?_, ?_, halike, halike.read_eq⟩
    · rw [d.outcome_download id services world, d.outcome_download id services first'.2, hsite,
        answer_eq_of_settled ha first'.2.sent world.sent]
    · rw [d.outcome_download other services' world, d.outcome_download other services' first.2,
        hsite', answer_eq_of_settled ha' first.2.sent world.sent]
  case right =>
    intro earlier response hok hstatus alone twice
    have hearlier := d.files_download id earlier world
    have hsite : ((d.download id).run earlier world).2.files.site (d.archivePath id) =
        world.files.site (d.archivePath id) := by
      rw [hearlier, site_left_self]
    have hsuccess : response.status.isSuccess = true := by
      simpa [Http.Status.isSuccess] using hstatus
    refine ⟨?_, ?_⟩
    · rw [d.outcome_download id services _, d.outcome_download id services world, hsite,
        answer_eq_of_settled ha _ world.sent]
    · rw [d.files_download id services _, d.files_download id services world, hsite, hearlier,
        answer_eq_of_settled ha _ world.sent]
      rcases answer_of_success ((ha world.sent).trans hok) hsuccess with hanswer | hnone
      · rw [hanswer]
        exact left_left
      · obtain ⟨error, herror⟩ := hnone services world.sent
        obtain ⟨error', herror'⟩ := hnone earlier world.sent
        rw [herror, herror']
        rfl

/-- Two runs, the name of one being the beginning of the name of the other: one archive arrives and
the other breaks off. A longer archive of the first is replaced. -/
theorem downloads_of_similar_names_commute :
    let base : Url :=
      ⟨"http", none, some (.ipv6 [0, 0, 0, 0, 0, 0, 0, 1]), none, .segments ['/'], none, none⟩
    let d : Downloader := ⟨⟨base, { base with scheme := "ws" }⟩, .ofText "out", 1⟩
    let id : Identifier := ⟨"7", by decide⟩
    let other : Identifier := ⟨"7.zip", by decide⟩
    let answering (body : Http.Body) : Services :=
      { answer := fun _ _ => .ok ⟨⟨200⟩, base, body⟩, channel := Services.unreachable.channel }
    let services := answering { chunks := [[1, 2]] }
    let services' := answering { chunks := [[3]], failure := some (.reading ⟨[], ""⟩) }
    let earlier := answering { chunks := [[4, 5], [6]] }
    let world : World := { files := ⟨[([Utf8.encode "out"], .directory)], []⟩ }
    let second := (d.download other).run services' ((d.download id).run services world).2
    let second' := (d.download id).run services ((d.download other).run services' world).2
    let twice := (d.download id).run services ((d.download id).run earlier world).2
    second.2.files.read (.ofText "out/result_7.zip") = .ok [1, 2] ∧
      second'.2.files.read (.ofText "out/result_7.zip.zip") = .ok [3] ∧
      second.2.files.Alike second'.2.files ∧
      twice.2.files.read (.ofText "out/result_7.zip") = .ok [1, 2] := by
  intro base d id other answering services services' earlier world
  dsimp only
  have hne : id ≠ other := by decide
  have ha (n : Nat) : services.answer n (d.endpoints.downloadRequest id) =
      .ok ⟨⟨200⟩, base, { chunks := [[1, 2]] }⟩ := rfl
  have ha' (n : Nat) : services'.answer n (d.endpoints.downloadRequest other) =
      .ok ⟨⟨200⟩, base, { chunks := [[3]], failure := some (.reading ⟨[], ""⟩) }⟩ := rfl
  obtain ⟨hcommute, htwice⟩ := d.downloads_commute id services world ha
  obtain ⟨-, -, halike, hread⟩ := hcommute other services' _ hne ha'
  obtain ⟨-, hfiles⟩ := htwice earlier _ rfl (by decide)
  rw [← hread, hfiles]
  refine ⟨?_, ?_, halike, ?_⟩
  all_goals decide +kernel

end Run.Downloader

end MqttConformance
