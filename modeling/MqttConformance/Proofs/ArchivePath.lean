import MqttConformance.Proofs.Course
import MqttConformance.Proofs.Utf8

/-! Where the archive of a run goes. Whatever time stamp the service sends, the name of the archive
is one part of a path: joined to the output directory it leads to a place directly in it, and
different identifiers lead to different places. -/

namespace MqttConformance

namespace Path

variable {p q : Path} {a b name : Bytes}

theorem splitSlash_ne_nil (a : Bytes) : splitSlash a ≠ [] := by
  cases a with
  | nil => exact List.cons_ne_nil _ _
  | cons b rest =>
    rw [splitSlash]
    split
    · exact List.cons_ne_nil _ _
    · split <;> exact List.cons_ne_nil _ _

theorem splitSlash_of_not_mem (h : slash ∉ a) : splitSlash a = [a] := by
  induction a with
  | nil => rfl
  | cons b rest ih =>
    obtain ⟨hb, hrest⟩ := not_or.1 (mt List.mem_cons.2 h)
    rw [splitSlash, if_neg (Ne.symm hb), ih hrest]

theorem splitSlash_append (a b : Bytes) :
    splitSlash (a ++ slash :: b) = splitSlash a ++ splitSlash b := by
  induction a with
  | nil => rfl
  | cons c rest ih =>
    rw [List.cons_append, splitSlash, splitSlash, ih]
    split
    · rfl
    · cases h : splitSlash rest with
      | nil => exact absurd h (splitSlash_ne_nil rest)
      | cons part parts => rfl

/-- A name that is one part of a path. -/
structure IsPart (name : Bytes) : Prop where
  ne_nil : name ≠ []
  ne_dot : name ≠ dot
  ne_dotDot : name ≠ dotDot
  slash_not_mem : slash ∉ name

namespace IsPart

theorem splitSlash_eq (h : IsPart name) : splitSlash name = [name] :=
  splitSlash_of_not_mem h.slash_not_mem

theorem isAbsolute_eq (h : IsPart name) : (⟨name⟩ : Path).isAbsolute = false := by
  have hslash := h.slash_not_mem
  unfold isAbsolute
  cases name with
  | nil => rfl
  | cons b rest =>
    have hb : b ≠ slash := fun heq => hslash (heq ▸ List.mem_cons_self)
    simpa using hb

theorem counts_eq (h : IsPart name) : counts name = true := by
  simp [counts, h.ne_nil, h.ne_dot]

/-- Three bytes without a slash are a part. -/
theorem of_length (hlength : 2 < name.length) (hslash : slash ∉ name) : IsPart name := by
  refine ⟨?_, ?_, ?_, hslash⟩
  all_goals
    rintro rfl
    revert hlength
    decide

end IsPart

/-- A part joined to a path comes after it, with one slash in between. -/
theorem join_eq (h : IsPart name) : p.join ⟨name⟩ =
    if p.bytes = [] ∨ p.endsWithSlash then ⟨p.bytes ++ name⟩ else ⟨p.bytes ++ slash :: name⟩ := by
  unfold join
  rw [h.isAbsolute_eq]
  simp

theorem exists_of_endsWithSlash (h : p.endsWithSlash = true) : ∃ a, p.bytes = a ++ [slash] := by
  unfold endsWithSlash at h
  obtain ⟨a, ha⟩ := List.getLast?_eq_some_iff.1 (beq_iff_eq.1 h)
  exact ⟨a, ha⟩

/-- The ways in which a part is joined to a path, by how the path ends. -/
theorem join_cases (p : Path) (h : IsPart name) :
    (p.bytes = [] ∧ p.join ⟨name⟩ = ⟨name⟩) ∨
      (∃ a, p.bytes = a ++ [slash] ∧ p.join ⟨name⟩ = ⟨a ++ slash :: name⟩) ∨
      (p.bytes ≠ [] ∧ p.endsWithSlash = false ∧ p.join ⟨name⟩ = ⟨p.bytes ++ slash :: name⟩) := by
  by_cases hnil : p.bytes = []
  · exact .inl ⟨hnil, by rw [join_eq h, if_pos (.inl hnil), hnil, List.nil_append]⟩
  · cases hends : p.endsWithSlash with
    | true =>
      obtain ⟨a, ha⟩ := exists_of_endsWithSlash hends
      refine .inr (.inl ⟨a, ha, ?_⟩)
      rw [join_eq h, if_pos (.inr hends), ha, List.append_assoc]
      rfl
    | false =>
      exact .inr (.inr ⟨hnil, rfl, by rw [join_eq h, if_neg (by simp [hnil, hends])]⟩)

theorem isAbsolute_join (p : Path) (h : IsPart name) :
    (p.join ⟨name⟩).isAbsolute = p.isAbsolute := by
  rcases join_cases p h with ⟨hp, hjoin⟩ | ⟨a, hp, hjoin⟩ | ⟨hp, _, hjoin⟩
  · rw [hjoin, h.isAbsolute_eq, isAbsolute, hp]
    rfl
  · rw [hjoin, isAbsolute, isAbsolute, hp]
    cases a <;> rfl
  · rw [hjoin, isAbsolute, isAbsolute, List.head?_append_of_ne_nil _ hp]

/-- The parts of a path with another slash and something behind it that leads somewhere. -/
theorem parts_append_of_counts (a : Bytes) (hs : slash ∉ name) (hc : counts name = true) :
    (⟨a ++ slash :: name⟩ : Path).parts = (⟨a⟩ : Path).parts ++ [name] := by
  unfold parts
  simp only [splitSlash_append, splitSlash_of_not_mem hs]
  cases hsplit : splitSlash a with
  | nil => exact absurd hsplit (splitSlash_ne_nil a)
  | cons first rest =>
    simp only [List.cons_append, List.filter_append]
    rw [show [name].filter counts = [name] from
      List.filter_eq_self.2 fun part hmem => List.mem_singleton.1 hmem ▸ hc]
    split <;> rfl

theorem parts_append (a : Bytes) (h : IsPart name) :
    (⟨a ++ slash :: name⟩ : Path).parts = (⟨a⟩ : Path).parts ++ [name] :=
  parts_append_of_counts a h.slash_not_mem h.counts_eq

theorem parts_closed (a : Bytes) : (⟨a ++ [slash]⟩ : Path).parts = (⟨a⟩ : Path).parts := by
  unfold parts
  simp only [splitSlash_append]
  cases hs : splitSlash a with
  | nil => exact absurd hs (splitSlash_ne_nil a)
  | cons first rest => simp [splitSlash, counts]

/-- A part joined to a path is its last part, and the others are those of the path. -/
theorem parts_join (p : Path) (h : IsPart name) : (p.join ⟨name⟩).parts = p.parts ++ [name] := by
  obtain ⟨bytes⟩ := p
  rcases join_cases ⟨bytes⟩ h with ⟨rfl, hjoin⟩ | ⟨a, rfl, hjoin⟩ | ⟨_, _, hjoin⟩
  · rw [hjoin]
    simp [parts, h.splitSlash_eq, h.ne_nil, splitSlash]
  · rw [hjoin, parts_append a h, parts_closed]
  · rw [hjoin, parts_append bytes h]

theorem withoutSlashes_of_endsWithSlash_eq_false (h : p.endsWithSlash = false) :
    p.withoutSlashes = p := by
  obtain ⟨bytes⟩ := p
  unfold withoutSlashes
  rcases List.eq_nil_or_concat bytes with rfl | ⟨front, last, rfl⟩
  · rfl
  · have hlast : (last == slash) = false := by simpa [endsWithSlash] using h
    simp [List.concat_eq_append, hlast]

end Path

namespace FileSystem

variable {fs created : FileSystem} {p : Path} {name : Bytes} {start place : Location}

/-- Where the names in a directory are looked up. Without a path that is the working directory. -/
def directory (fs : FileSystem) (p : Path) : Except IoFault Location :=
  if p.bytes = [] then .ok fs.workDir else fs.locate p

theorem locate_eq_ok : fs.locate p = .ok place ↔
    0 ∉ p.bytes ∧ p.bytes ≠ [] ∧ p.bytes.length < maxPath ∧
      fs.walk (if p.isAbsolute then [] else fs.workDir) (Path.splitSlash p.bytes) = .ok place := by
  unfold locate
  split
  · next h => simp [List.contains_iff_mem.1 h]
  · next h =>
    have hzero : 0 ∉ p.bytes := mt List.contains_iff_mem.2 h
    split
    · next hnil => simp [List.isEmpty_iff.1 hnil]
    · next hnil =>
      split
      · next hlong => simp [Nat.not_lt.2 hlong]
      · next hlong => simp [hzero, mt List.isEmpty_iff.2 hnil, Nat.not_le.1 hlong]

theorem walk_append (parts more : List Bytes) : fs.walk start (parts ++ more) =
    match fs.walk start parts with
    | .ok next => fs.walk next more
    | .error fault => .error fault := by
  induction parts generalizing start with
  | nil => rfl
  | cons part parts ih =>
    rw [List.cons_append, walk, walk]
    cases fs.step start part with
    | ok next => exact ih
    | error fault => rfl

/-- A part that is a name leads one level down, from a directory. -/
theorem step_eq_ok (h : Path.IsPart name) (hs : fs.step start name = .ok place) :
    fs.node? start = some .directory ∧ place = start ++ [name] := by
  unfold step at hs
  split at hs
  · cases hs
  · cases hs
  · next hd =>
    rw [if_neg (by simp [h.ne_nil, h.ne_dot]), if_neg h.ne_dotDot] at hs
    split at hs
    · cases hs
    · cases hs
      exact ⟨hd, rfl⟩

/-- A walk to a name goes through the directory that the name is in. -/
theorem walk_concat {parts : List Bytes} (h : Path.IsPart name)
    (hw : fs.walk start (parts ++ [name]) = .ok place) :
    ∃ parent, fs.walk start parts = .ok parent ∧ fs.node? parent = some .directory ∧
      place = parent ++ [name] := by
  rw [walk_append] at hw
  split at hw
  · next parent hparent =>
    rw [walk] at hw
    split at hw
    · next next hs =>
      cases hw
      exact ⟨parent, hparent, step_eq_ok h hs⟩
    · cases hw
  · cases hw

/-- A name joined to a path is a name in the directory of that path. -/
theorem locate_join (h : Path.IsPart name) (hl : fs.locate (p.join ⟨name⟩) = .ok place) :
    ∃ parent, fs.directory p = .ok parent ∧ place = parent ++ [name] := by
  obtain ⟨hzero, _, hlength, hwalk⟩ := locate_eq_ok.1 hl
  rw [p.isAbsolute_join h] at hwalk
  unfold directory
  rcases p.join_cases h with ⟨hp, hjoin⟩ | ⟨a, hp, hjoin⟩ | ⟨hp, _, hjoin⟩
  · rw [hjoin, h.splitSlash_eq, ← List.nil_append [name]] at hwalk
    obtain ⟨parent, hparent, _, hplace⟩ := walk_concat h hwalk
    rw [show p.isAbsolute = false by rw [Path.isAbsolute, hp]; rfl] at hparent
    cases hparent
    exact ⟨fs.workDir, if_pos hp, hplace⟩
  · rw [hjoin, Path.splitSlash_append, h.splitSlash_eq] at hwalk
    obtain ⟨parent, hparent, hdirectory, hplace⟩ := walk_concat h hwalk
    rw [hjoin] at hzero hlength
    refine ⟨parent, ?_, hplace⟩
    rw [if_neg (by simp [hp]), locate_eq_ok]
    refine ⟨?_, by simp [hp], ?_, ?_⟩
    · rw [hp]
      simp only [List.mem_append, List.mem_cons, not_or] at hzero ⊢
      exact ⟨hzero.1, hzero.2.1, List.not_mem_nil⟩
    · rw [hp]
      simp only [List.length_append, List.length_cons, List.length_nil] at hlength ⊢
      omega
    · rw [hp, Path.splitSlash_append, walk_append, hparent]
      simp [Path.splitSlash, walk, step, hdirectory]
  · rw [hjoin, Path.splitSlash_append, h.splitSlash_eq] at hwalk
    obtain ⟨parent, hparent, _, hplace⟩ := walk_concat h hwalk
    rw [hjoin] at hzero hlength
    refine ⟨parent, ?_, hplace⟩
    rw [if_neg hp, locate_eq_ok]
    refine ⟨?_, hp, ?_, hparent⟩
    · simp only [List.mem_append, not_or] at hzero
      exact hzero.1
    · simp only [List.length_append] at hlength
      omega

end FileSystem

namespace Path

/-- `q` leads directly into the directory `p`, to one name: it is written so, and from every file
system in which it leads anywhere it leads there. -/
structure LiesIn (q p : Path) (name : Bytes) : Prop where
  isPart : IsPart name
  written : q.bytes = p.bytes ++ name ∨ q.bytes = p.bytes ++ slash :: name
  parts : q.parts = p.parts ++ [name]
  isAbsolute : q.isAbsolute = p.isAbsolute
  located {fs : FileSystem} {place : Location} : fs.locate q = .ok place →
    ∃ parent, fs.directory p = .ok parent ∧ place = parent ++ [name]

theorem liesIn_join (p : Path) {name : Bytes} (h : IsPart name) :
    (p.join ⟨name⟩).LiesIn p name := by
  refine ⟨h, ?_, parts_join p h, isAbsolute_join p h, FileSystem.locate_join h⟩
  rw [join_eq h]
  split
  · exact .inl rfl
  · exact .inr rfl

end Path

namespace Run

/-! ## Names of runs -/

namespace Identifier

/-- A text that can name a run. -/
structure IsName (s : String) : Prop where
  ne_empty : s ≠ ""
  ne_dot : s ≠ "."
  ne_dotDot : s ≠ ".."
  slash_not_mem : '/' ∉ s.toList
  backslash_not_mem : '\\' ∉ s.toList

variable {id other : Identifier} {s : String}

theorem isIdentifier_iff : isIdentifier s = true ↔ IsName s := by
  have hempty : s.toList.isEmpty = false ↔ s ≠ "" := by
    rw [List.isEmpty_eq_false_iff, ne_eq, String.toList_eq_nil_iff]
  unfold isIdentifier
  simp only [Bool.and_eq_true, Bool.not_eq_true', hempty, bne_iff_ne, List.any_eq_false,
    Bool.or_eq_true, beq_iff_eq, not_or]
  constructor
  · rintro ⟨⟨⟨h₁, h₂⟩, h₃⟩, h₄⟩
    exact ⟨h₁, h₂, h₃, fun h => (h₄ _ h).1 rfl, fun h => (h₄ _ h).2 rfl⟩
  · rintro ⟨h₁, h₂, h₃, h₄, h₅⟩
    exact ⟨⟨⟨h₁, h₂⟩, h₃⟩, fun c hc => ⟨fun h => h₄ (h ▸ hc), fun h => h₅ (h ▸ hc)⟩⟩

theorem isName (id : Identifier) : IsName id.text := isIdentifier_iff.1 id.valid

/-- Exactly the names make identifiers. -/
theorem ofText?_eq_none : ofText? s = none ↔
    s = "" ∨ s = "." ∨ s = ".." ∨ '/' ∈ s.toList ∨ '\\' ∈ s.toList := by
  have hnone : ofText? s = none ↔ ¬IsName s := by
    rw [← isIdentifier_iff, ofText?]
    split <;> simp_all
  rw [hnone]
  constructor
  · intro h
    by_contra hnot
    simp only [not_or] at hnot
    obtain ⟨h₁, h₂, h₃, h₄, h₅⟩ := hnot
    exact h ⟨h₁, h₂, h₃, h₄, h₅⟩
  · rintro h ⟨h₁, h₂, h₃, h₄, h₅⟩
    rcases h with h | h | h | h | h
    · exact h₁ h
    · exact h₂ h
    · exact h₃ h
    · exact h₄ h
    · exact h₅ h

/-- The bytes of the name of the archive. -/
def archiveBytes (id : Identifier) : Bytes := Utf8.encode ("result_" ++ id.text ++ ".zip")

theorem toList_archiveName (id : Identifier) : ("result_" ++ id.text ++ ".zip").toList =
    "result_".toList ++ id.text.toList ++ ".zip".toList := by
  simp only [String.toList_append]

/-- What an identifier may not hold, the name of the archive does not hold either. -/
theorem not_mem_archiveBytes {c : Char} (hc : c.toNat < 0x80) (hid : c ∉ id.text.toList)
    (hfixed : c ∉ "result_".toList ++ ".zip".toList) : c.toNat.toUInt8 ∉ id.archiveBytes := by
  intro hmem
  have h := Utf8.mem_of_mem_encode hc hmem
  rw [toList_archiveName, List.mem_append, List.mem_append] at h
  rw [List.mem_append, not_or] at hfixed
  rcases h with (h | h) | h
  · exact hfixed.1 h
  · exact hid h
  · exact hfixed.2 h

theorem isPart_archiveBytes (id : Identifier) : Path.IsPart id.archiveBytes := by
  have hlength : 2 < id.archiveBytes.length := by
    have hbytes : id.archiveBytes =
        Utf8.encode "result_" ++ Utf8.encodeChars (id.text.toList ++ ".zip".toList) := by
      rw [archiveBytes, Utf8.encode, toList_archiveName, List.append_assoc, Utf8.encodeChars,
        List.flatMap_append]
      rfl
    rw [hbytes, List.length_append]
    exact Nat.lt_of_lt_of_le (by decide : 2 < (Utf8.encode "result_").length) (Nat.le_add_right _ _)
  have hslash : '/'.toNat.toUInt8 ∉ id.archiveBytes :=
    not_mem_archiveBytes (by decide) id.isName.slash_not_mem (by decide)
  exact .of_length hlength hslash

theorem archiveBytes_injective (h : id.archiveBytes = other.archiveBytes) : id = other := by
  have htext := congrArg String.toList (Utf8.encode_injective h)
  rw [toList_archiveName, toList_archiveName, List.append_cancel_right_eq,
    List.append_cancel_left_eq] at htext
  exact Identifier.ext (String.toList_inj.1 htext)

end Identifier

/-! ## What the service answers -/

namespace Receipt

/-- A receipt gives a text for the run, as a string or as a number. -/
inductive Gives (receipt : Receipt) : String → Prop where
  | string {s : String} (h : receipt.timestamp = some (.string s)) : Gives receipt s
  | number {n : Json.Number} (h : receipt.timestamp = some (.number n)) : Gives receipt n.render

variable {receipt : Receipt} {id : Identifier} {s : String}

theorem named_eq_ok : identifier.named s = .ok id ↔ Identifier.ofText? s = some id := by
  unfold identifier.named
  cases Identifier.ofText? s <;> simp

/-- A receipt names a run by the very text it gives. -/
theorem identifier_eq_ok : receipt.identifier = .ok id ↔ receipt.Gives id.text := by
  unfold identifier
  constructor
  · intro h
    split at h
    · cases h
    · cases h
    · next s hs =>
      rw [Identifier.text_of_ofText? (named_eq_ok.1 h)]
      exact .string hs
    · next n hn =>
      rw [Identifier.text_of_ofText? (named_eq_ok.1 h)]
      exact .number hn
    · cases h
  · intro h
    generalize htext : id.text = text at h
    cases h with
    | string h => rw [h]; exact named_eq_ok.2 (htext ▸ id.ofText?_text)
    | number h => rw [h]; exact named_eq_ok.2 (htext ▸ id.ofText?_text)

end Receipt

/-- Whatever the service answers, the archive of the run that it names lies directly in the output
directory, under a name made of the text that the service has given. No two runs share an archive,
and a text names no run only if it is empty, made of dots that mean directories, or holds a
separator. -/
theorem Downloader.archive_lies_in_outputDir {body : Bytes} {id : Identifier}
    (h : Submission.identifierIn body = .ok id) (d : Downloader) :
    (∃ receipt, Receipt.ofBytes body = .ok receipt ∧ receipt.Gives id.text) ∧
      d.archivePath id = d.outputDir.join (.ofText ("result_" ++ id.text ++ ".zip")) ∧
      (d.archivePath id).LiesIn d.outputDir (Utf8.encode ("result_" ++ id.text ++ ".zip")) ∧
      '\\'.toNat.toUInt8 ∉ Utf8.encode ("result_" ++ id.text ++ ".zip") ∧
      (Path.ofText ("result_" ++ id.text ++ ".zip")).isAbsolute = false ∧
      (∀ answer other, Submission.identifierIn answer = .ok other →
        (d.archivePath id).parts = (d.archivePath other).parts → id = other) ∧
      ∀ s, Identifier.ofText? s = none ↔
        s = "" ∨ s = "." ∨ s = ".." ∨ '/' ∈ s.toList ∨ '\\' ∈ s.toList := by
  have hlies (id : Identifier) : (d.archivePath id).LiesIn d.outputDir id.archiveBytes :=
    d.outputDir.liesIn_join id.isPart_archiveBytes
  refine ⟨?_, rfl, hlies id, ?_, id.isPart_archiveBytes.isAbsolute_eq, ?_,
    fun _ => Identifier.ofText?_eq_none⟩
  · obtain ⟨receipt, hreceipt, hid⟩ := Scene.identifierIn_eq_ok.1 h
    exact ⟨receipt, hreceipt, Receipt.identifier_eq_ok.1 hid⟩
  · exact Identifier.not_mem_archiveBytes (by decide) id.isName.backslash_not_mem (by decide)
  · intro _ other _ hparts
    rw [(hlies id).parts, (hlies other).parts, List.append_cancel_left_eq] at hparts
    exact Identifier.archiveBytes_injective (List.singleton_inj.1 hparts)

/-- A time stamp made of dots, a blank and an escaped slash stays in the directory. -/
theorem Downloader.dotted_archive_lies_in_outputDir :
    let body := Utf8.encode "\x7b\"timestamp\": \".. %2f..\"\x7d"
    let id : Identifier := ⟨".. %2f..", by decide⟩
    let base : Url := ⟨"http", none, some (.ipv4 0x7f000001), none, .segments ['/'], none, none⟩
    let d : Downloader := ⟨⟨base, { base with scheme := "ws" }⟩, .ofText "out/", 1024⟩
    Submission.identifierIn body = .ok id ∧
      (d.archivePath id).LiesIn (.ofText "out/") (Utf8.encode "result_.. %2f...zip") := by
  intro body id base d
  have h : Submission.identifierIn body = .ok id := by rfl
  exact ⟨h, (archive_lies_in_outputDir h d).2.2.1⟩

end Run

end MqttConformance
