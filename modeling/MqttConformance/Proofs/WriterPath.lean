import MqttConformance.Log.Logger
import MqttConformance.Proofs.ArchivePath

/-! The two paths of a log file. It is made at the path that was asked for, and written through a
path that is put together from the directory of that path and the name in it. The second path lacks
parts of the first that lead nowhere (`Path.Skips`), so that it leads to the file just made
(`FileSystem.locate_writerPath`). -/

namespace MqttConformance

namespace Path

variable {p q : Path} {a name : Bytes} {parts more : List Bytes}

/-! ## Joining with slashes -/

theorem joinSlash_cons (a : Bytes) (h : parts ≠ []) :
    joinSlash (a :: parts) = a ++ slash :: joinSlash parts := by
  cases parts with
  | nil => exact absurd rfl h
  | cons b parts => rfl

theorem joinSlash_singleton (a : Bytes) : joinSlash [a] = a := List.append_nil a

theorem joinSlash_append (h : parts ≠ []) (hm : more ≠ []) :
    joinSlash (parts ++ more) = joinSlash parts ++ slash :: joinSlash more := by
  induction parts with
  | nil => exact absurd rfl h
  | cons a parts ih =>
    rw [List.cons_append, joinSlash_cons a (by simp [hm])]
    rcases eq_or_ne parts [] with rfl | hparts
    · rw [List.nil_append, joinSlash_singleton]
    · rw [ih hparts, joinSlash_cons a hparts, List.append_assoc, List.cons_append]

theorem joinSlash_concat (h : parts ≠ []) :
    joinSlash (parts ++ [name]) = joinSlash parts ++ slash :: name := by
  rw [joinSlash_append h (List.cons_ne_nil _ _), joinSlash_singleton]

theorem joinSlash_splitSlash (a : Bytes) : joinSlash (splitSlash a) = a := by
  induction a with
  | nil => rfl
  | cons b rest ih =>
    rw [splitSlash]
    split
    · next hb =>
      rw [joinSlash_cons _ (splitSlash_ne_nil rest), ih, hb, List.nil_append]
    · cases hs : splitSlash rest with
      | nil => exact absurd hs (splitSlash_ne_nil rest)
      | cons part parts =>
        rw [hs] at ih
        rcases eq_or_ne parts [] with rfl | hparts
        · rw [joinSlash_singleton] at ih ⊢
          rw [ih]
        · rw [joinSlash_cons _ hparts] at ih ⊢
          rw [List.cons_append, ih]

theorem bytes_of_splitSlash_concat (h : splitSlash a = parts ++ [name]) :
    parts = [] ∧ a = name ∨ parts ≠ [] ∧ a = joinSlash parts ++ slash :: name := by
  rcases eq_or_ne parts [] with rfl | hparts
  · exact .inl ⟨rfl, by rw [← joinSlash_splitSlash a, h, List.nil_append, joinSlash_singleton]⟩
  · exact .inr ⟨hparts, by rw [← joinSlash_splitSlash a, h, joinSlash_concat hparts]⟩

theorem slash_not_mem_of_mem_splitSlash (h : name ∈ splitSlash a) : slash ∉ name := by
  induction a generalizing name with
  | nil =>
    rw [List.mem_singleton.1 h]
    exact List.not_mem_nil
  | cons b rest ih =>
    rw [splitSlash] at h
    split at h
    · rcases List.mem_cons.1 h with rfl | h
      · exact List.not_mem_nil
      · exact ih h
    · next hb =>
      cases hs : splitSlash rest with
      | nil => exact absurd hs (splitSlash_ne_nil rest)
      | cons part parts =>
        rw [hs] at h ih
        rcases List.mem_cons.1 h with rfl | h
        · exact List.not_mem_cons_of_ne_of_not_mem (Ne.symm hb) (ih List.mem_cons_self)
        · exact ih (List.mem_cons_of_mem _ h)

theorem splitSlash_joinSlash (h : parts ≠ []) (hs : ∀ part ∈ parts, slash ∉ part) :
    splitSlash (joinSlash parts) = parts := by
  induction parts with
  | nil => exact absurd rfl h
  | cons a parts ih =>
    have ha := splitSlash_of_not_mem (hs a List.mem_cons_self)
    rcases eq_or_ne parts [] with rfl | hparts
    · rw [joinSlash_singleton, ha]
    · rw [joinSlash_cons a hparts, splitSlash_append, ha,
        ih hparts fun part hmem => hs part (List.mem_cons_of_mem a hmem)]
      rfl

/-- Whether a path with a slash is absolute depends on its first part. -/
theorem isAbsolute_of_splitSlash {first : Bytes} (h : splitSlash p.bytes = first :: more)
    (hm : more ≠ []) : p.isAbsolute = first.isEmpty := by
  have hbytes : p.bytes = first ++ slash :: joinSlash more := by
    rw [← joinSlash_cons first hm, ← h, joinSlash_splitSlash]
  have hfirst : slash ∉ first := slash_not_mem_of_mem_splitSlash (h ▸ List.mem_cons_self)
  rw [isAbsolute, hbytes]
  cases first with
  | nil => rfl
  | cons b first =>
    have hb : b ≠ slash := fun heq => hfirst (heq ▸ List.mem_cons_self)
    simpa using hb

/-! ## Parts that lead nowhere -/

/-- `q` is `p` without some of the parts before the last one, which lead nowhere. -/
structure Skips (q p : Path) (before skipped : List Bytes) (name : Bytes) : Prop where
  before_ne_nil : before ≠ []
  counts_eq_false : ∀ part ∈ skipped, counts part = false
  whole : splitSlash p.bytes = before ++ (skipped ++ [name])
  rest : splitSlash q.bytes = before ++ [name]

namespace Skips

variable {before skipped : List Bytes} (h : q.Skips p before skipped name)
include h

theorem isAbsolute_eq : q.isAbsolute = p.isAbsolute := by
  obtain ⟨first, before, rfl⟩ := List.exists_cons_of_ne_nil h.before_ne_nil
  rw [isAbsolute_of_splitSlash h.whole (by simp), isAbsolute_of_splitSlash h.rest (by simp)]

/-- What is left out is left out before the name. -/
theorem exists_bytes_eq : ∃ dropped, p.bytes = joinSlash before ++ slash :: (dropped ++ name) ∧
    q.bytes = joinSlash before ++ slash :: name := by
  have hp : p.bytes = joinSlash before ++ slash :: joinSlash (skipped ++ [name]) := by
    rw [← joinSlash_append h.before_ne_nil (by simp), ← h.whole, joinSlash_splitSlash]
  have hq : q.bytes = joinSlash before ++ slash :: name := by
    rw [← joinSlash_concat h.before_ne_nil, ← h.rest, joinSlash_splitSlash]
  rcases eq_or_ne skipped [] with rfl | hskipped
  · rw [List.nil_append, joinSlash_singleton] at hp
    exact ⟨[], hp, hq⟩
  · refine ⟨joinSlash skipped ++ [slash], ?_, hq⟩
    rw [hp, joinSlash_concat hskipped, List.append_assoc]
    rfl

end Skips

/-! ## The directory of a path -/

theorem endsWithSlash_append (a : Bytes) (hs : slash ∉ name) (hn : name ≠ []) :
    (⟨a ++ name⟩ : Path).endsWithSlash = false := by
  obtain ⟨front, last, rfl⟩ := (List.eq_nil_or_concat name).resolve_left hn
  have hlast : last ≠ slash := fun heq => hs (by simp [heq])
  simpa [endsWithSlash, List.concat_eq_append] using hlast

theorem fileName?_eq_some (h : IsPart name) (hsplit : splitSlash p.bytes = parts ++ [name]) :
    p.fileName? = some name := by
  obtain ⟨bytes⟩ := p
  have hlast : (⟨bytes⟩ : Path).parts.getLast? = some name := by
    rcases bytes_of_splitSlash_concat hsplit with ⟨-, rfl⟩ | ⟨-, rfl⟩
    · simp [Path.parts, h.splitSlash_eq, h.ne_nil]
    · rw [parts_append _ h, List.getLast?_concat]
  rw [fileName?, hlast]
  simp [h.ne_dot, h.ne_dotDot]

theorem mem_splitSlash_of_mem_parts (h : name ∈ p.parts) :
    name ∈ splitSlash p.bytes ∧ name ≠ [] := by
  unfold parts at h
  split at h
  · cases h
  · next first rest hsplit =>
    rw [hsplit]
    have hrest (h : name ∈ rest.filter counts) : name ∈ first :: rest ∧ name ≠ [] := by
      obtain ⟨hmem, hcounts⟩ := List.mem_filter.1 h
      refine ⟨List.mem_cons_of_mem _ hmem, ?_⟩
      rintro rfl
      cases hcounts
    dsimp only at h
    split at h
    · exact hrest h
    · next hfirst =>
      rcases List.mem_cons.1 h with rfl | h
      · exact ⟨List.mem_cons_self, by simpa using hfirst⟩
      · exact hrest h

theorem isPart_of_fileName?_eq (h : p.fileName? = some name) : IsPart name := by
  unfold fileName? at h
  split at h
  · next last hlast =>
    split at h
    · cases h
    · next hdots =>
      cases h
      obtain ⟨hmem, hne⟩ := mem_splitSlash_of_mem_parts (List.mem_of_getLast? hlast)
      rw [not_or] at hdots
      exact ⟨hne, hdots.1, hdots.2, slash_not_mem_of_mem_splitSlash hmem⟩
  · cases h

theorem endsWithSlash_join (p : Path) (h : IsPart name) :
    (p.join ⟨name⟩).endsWithSlash = false := by
  rw [join_eq h]
  split
  · exact endsWithSlash_append _ h.slash_not_mem h.ne_nil
  · rw [List.append_cons]
    exact endsWithSlash_append _ h.slash_not_mem h.ne_nil

/-- Parts without those at their end that lead nowhere. -/
theorem exists_kept (rest : List Bytes) : ∃ kept skipped,
    (rest.reverse.dropWhile (!counts ·)).reverse = kept ∧ rest = kept ++ skipped ∧
      (∀ part ∈ skipped, counts part = false) ∧
      (kept = [] ∨ ∃ front last, kept = front ++ [last] ∧ counts last = true) := by
  refine ⟨_, (rest.reverse.takeWhile (!counts ·)).reverse, rfl, ?whole, ?skipped, ?kept⟩
  case whole => rw [← List.reverse_append, List.takeWhile_append_dropWhile, List.reverse_reverse]
  case skipped =>
    intro part hmem
    simpa using List.mem_takeWhile_imp (List.mem_reverse.1 hmem)
  case kept =>
    have hhead := List.head?_dropWhile_not (!counts ·) rest.reverse
    cases hdrop : rest.reverse.dropWhile (!counts ·) with
    | nil => exact .inl rfl
    | cons last above =>
      rw [hdrop] at hhead
      exact .inr ⟨above.reverse, last, List.reverse_cons, by simpa using hhead⟩

/-- The directory of a name in a path, to which the name can be joined again. -/
theorem exists_parent {first : Bytes} {rest : List Bytes} (h : IsPart name)
    (hsplit : splitSlash p.bytes = first :: (rest ++ [name])) :
    ∃ kept skipped, rest = kept ++ skipped ∧ (∀ part ∈ skipped, counts part = false) ∧
      ∃ parent, p.parent? = some parent ∧ parent.bytes ≠ [] ∧
        (parent.join ⟨name⟩).bytes = joinSlash (first :: kept) ++ slash :: name := by
  obtain ⟨kept, skipped, hkept, hrest, hskipped, hends⟩ := exists_kept rest
  have hslash {part : Bytes} (hmem : part ∈ first :: (rest ++ [name])) : slash ∉ part :=
    slash_not_mem_of_mem_splitSlash (hsplit ▸ hmem)
  have hname : (rest ++ [name]).reverse.dropWhile (!counts ·) = name :: rest.reverse := by
    simp [h.counts_eq]
  refine ⟨kept, skipped, hrest, hskipped, ?_⟩
  rcases hends with rfl | ⟨front, last, rfl, hlast⟩
  · -- the directory is the first part, which is empty for the root
    have hparent : p.parent? = some ⟨if first.isEmpty then [slash] else first⟩ := by
      rw [parent?, hsplit]
      simp only [hname, hkept]
    refine ⟨_, hparent, ?_, ?_⟩
    · cases first <;> simp
    · rw [join_eq h, joinSlash_singleton]
      cases first with
      | nil => rfl
      | cons b first =>
        have hopen := endsWithSlash_append [] (hslash List.mem_cons_self) (List.cons_ne_nil b first)
        rw [if_neg (by simpa using hopen)]
        rfl
  · -- the directory ends with a part that leads somewhere
    have hparent : p.parent? = some ⟨joinSlash (first :: (front ++ [last]))⟩ := by
      rw [parent?, hsplit]
      simp only [hname, hkept]
      cases front <;> rfl
    have hbytes : joinSlash (first :: (front ++ [last])) =
        joinSlash (first :: front) ++ [slash] ++ last := by
      rw [← List.cons_append, joinSlash_concat (List.cons_ne_nil _ _), List.append_cons]
    have hopen : (⟨joinSlash (first :: (front ++ [last]))⟩ : Path).endsWithSlash = false := by
      rw [hbytes]
      refine endsWithSlash_append _ (hslash (by simp [hrest])) ?_
      rintro rfl
      cases hlast
    have hne : joinSlash (first :: (front ++ [last])) ≠ [] := by simp [hbytes]
    exact ⟨_, hparent, hne, by rw [join_eq h, if_neg (by simp [hne, hopen])]⟩

/-- The directory of a name in a path and the name lead where the path leads: what lies between them
in the path leads nowhere. -/
theorem exists_skips {first : Bytes} {rest : List Bytes} (h : IsPart name)
    (hsplit : splitSlash p.bytes = first :: (rest ++ [name])) :
    ∃ parent before skipped, p.parent? = some parent ∧ parent.bytes ≠ [] ∧
      (parent.join ⟨name⟩).Skips p before skipped name := by
  obtain ⟨kept, skipped, rfl, hskipped, parent, hparent, hne, hjoin⟩ := exists_parent h hsplit
  have hkept : ∀ part ∈ first :: kept, slash ∉ part := by
    intro part hmem
    refine slash_not_mem_of_mem_splitSlash (a := p.bytes) ?_
    rw [hsplit]
    exact List.mem_append_left [name] (List.mem_append_left skipped hmem)
  refine ⟨parent, first :: kept, skipped, hparent, hne, List.cons_ne_nil _ _, hskipped, ?_, ?_⟩
  · simpa using hsplit
  · rw [hjoin, splitSlash_append, h.splitSlash_eq,
      splitSlash_joinSlash (List.cons_ne_nil _ _) hkept]

end Path

namespace FileSystem

variable {fs : FileSystem} {p q : Path} {part name : Bytes} {parts before skipped : List Bytes}
variable {start place l : Location} {node : Node}

/-- A part that leads nowhere stays where it is, in a directory. -/
theorem step_of_not_counts (h : Path.counts part = false) (hs : fs.step start part = .ok place) :
    fs.node? start = some .directory ∧ place = start := by
  have hpart : (part.isEmpty || part = Path.dot) = true := by
    simpa [Path.counts, Decidable.or_iff_not_imp_left] using h
  unfold step at hs
  split at hs
  · cases hs
  · cases hs
  · next hd =>
    rw [if_pos hpart] at hs
    cases hs
    exact ⟨hd, rfl⟩

theorem walk_cons_eq_ok : fs.walk start (part :: parts) = .ok place ↔
    ∃ next, fs.step start part = .ok next ∧ fs.walk next parts = .ok place := by
  rw [walk]
  cases fs.step start part <;> simp

theorem walk_append_eq_ok {more : List Bytes} : fs.walk start (parts ++ more) = .ok place ↔
    ∃ next, fs.walk start parts = .ok next ∧ fs.walk next more = .ok place := by
  rw [walk_append]
  cases fs.walk start parts <;> simp

theorem walk_of_not_counts (h : ∀ part ∈ skipped, Path.counts part = false)
    (hw : fs.walk start skipped = .ok place) : place = start := by
  induction skipped generalizing start with
  | nil => exact (Except.ok.inj hw).symm
  | cons part skipped ih =>
    obtain ⟨next, hs, hnext⟩ := walk_cons_eq_ok.1 hw
    obtain ⟨-, rfl⟩ := step_of_not_counts (h part List.mem_cons_self) hs
    exact ih (fun part hmem => h part (List.mem_cons_of_mem _ hmem)) hnext

/-- A path leads where it leads without the parts that lead nowhere. -/
theorem locate_of_skips (h : q.Skips p before skipped name) (hl : fs.locate p = .ok place) :
    fs.locate q = .ok place := by
  obtain ⟨hzero, -, hlength, hwalk⟩ := locate_eq_ok.1 hl
  obtain ⟨dropped, hp, hq⟩ := h.exists_bytes_eq
  rw [hp] at hzero hlength
  refine locate_eq_ok.2 ⟨?_, by simp [hq], ?_, ?_⟩
  · rw [hq]
    simp only [List.mem_append, List.mem_cons, not_or] at hzero ⊢
    exact ⟨hzero.1, hzero.2.1, hzero.2.2.2⟩
  · rw [hq]
    simp only [List.length_append, List.length_cons] at hlength ⊢
    omega
  · rw [h.whole, walk_append_eq_ok] at hwalk
    obtain ⟨directory, hbefore, hwalk⟩ := hwalk
    obtain ⟨next, hskipped, hname⟩ := walk_append_eq_ok.1 hwalk
    obtain rfl := walk_of_not_counts h.counts_eq_false hskipped
    rw [h.isAbsolute_eq, h.rest, walk_append_eq_ok]
    exact ⟨next, hbefore, hname⟩

/-- A walk goes through directories only, so that no other node on its way matters. -/
theorem walk_put (h : fs.node? l ≠ some .directory) (hw : fs.walk start parts = .ok place) :
    (fs.put l node).walk start parts = .ok place := by
  induction parts generalizing start with
  | nil => exact hw
  | cons part parts ih =>
    obtain ⟨next, hs, hw⟩ := walk_cons_eq_ok.1 hw
    refine walk_cons_eq_ok.2 ⟨next, ?_, ih hw⟩
    have hstart : start ≠ l := by
      rintro rfl
      unfold step at hs
      split at hs
      · cases hs
      · cases hs
      · next hd => exact h hd
    rw [← hs, step, step, node?_put_of_ne hstart]

theorem locate_put (h : fs.node? l ≠ some .directory) (hl : fs.locate p = .ok place) :
    (fs.put l node).locate p = .ok place := by
  rw [locate_eq_ok] at hl ⊢
  exact ⟨hl.1, hl.2.1, hl.2.2.1, walk_put h hl.2.2.2⟩

theorem length_le_of_step (h : Path.IsPart name) (hs : fs.step start name = .ok place) :
    name.length ≤ maxName := by
  unfold step at hs
  rw [(step_eq_ok h hs).1, if_neg (by simp [h.ne_nil, h.ne_dot]), if_neg h.ne_dotDot] at hs
  by_contra hlong
  simp [Nat.not_le.1 hlong] at hs

/-- The path of a file ends with a name. -/
theorem isPart_of_locate (hsplit : Path.splitSlash p.bytes = before ++ [name])
    (hname : p.fileName?.isSome) (hends : p.endsWithSlash = false) (hl : fs.locate p = .ok place)
    (hnode : fs.node? place ≠ some .directory) : Path.IsPart name := by
  obtain ⟨-, hne, -, hwalk⟩ := locate_eq_ok.1 hl
  have hslash : Path.slash ∉ name :=
    Path.slash_not_mem_of_mem_splitSlash (a := p.bytes) (by simp [hsplit])
  have hbytes := Path.bytes_of_splitSlash_concat hsplit
  refine ⟨?ne_nil, ?ne_dot, ?ne_dotDot, hslash⟩
  case ne_nil =>
    rintro rfl
    rcases hbytes with ⟨-, hp⟩ | ⟨-, hp⟩
    · exact hne hp
    · simp [Path.endsWithSlash, hp] at hends
  case ne_dot =>
    -- a dot leads to a directory
    rintro rfl
    rw [hsplit, walk_append_eq_ok] at hwalk
    obtain ⟨directory, -, hlast⟩ := hwalk
    obtain ⟨_, hs, hend⟩ := walk_cons_eq_ok.1 hlast
    obtain ⟨hd, rfl⟩ := step_of_not_counts rfl hs
    cases hend
    exact hnode hd
  case ne_dotDot =>
    rintro rfl
    obtain ⟨bytes⟩ := p
    rcases hbytes with ⟨-, rfl⟩ | ⟨-, rfl⟩
    · cases hname
    · rw [Path.fileName?, Path.parts_append_of_counts _ hslash rfl] at hname
      simp at hname

/-- A name in the working directory can be written with a dot in front. -/
theorem locate_dot (h : Path.IsPart name) (hl : fs.locate ⟨name⟩ = .ok place) :
    fs.locate ((⟨Path.dot⟩ : Path).join ⟨name⟩) = .ok place := by
  have hjoin : (⟨Path.dot⟩ : Path).join ⟨name⟩ = ⟨Path.dot ++ Path.slash :: name⟩ := by
    rw [Path.join_eq h]
    rfl
  obtain ⟨hzero, -, -, hwalk⟩ := locate_eq_ok.1 hl
  rw [h.isAbsolute_eq, h.splitSlash_eq, walk_cons_eq_ok] at hwalk
  obtain ⟨_, hs, hend⟩ := hwalk
  obtain ⟨hd, -⟩ := step_eq_ok h hs
  have hlength : name.length ≤ maxName := length_le_of_step h hs
  rw [hjoin, locate_eq_ok]
  refine ⟨by simpa [Path.dot, Path.slash] using hzero, by simp, ?_, ?_⟩
  · simp only [List.length_append, List.length_cons, List.length_nil, Path.dot, maxPath,
      maxName] at *
    omega
  · rw [Path.splitSlash_append, h.splitSlash_eq]
    refine walk_cons_eq_ok.2 ⟨fs.workDir, ?_, walk_cons_eq_ok.2 ⟨_, hs, hend⟩⟩
    change fs.step fs.workDir Path.dot = .ok fs.workDir
    simp [step, show fs.node? fs.workDir = some .directory from hd]

/-- The writer of a log file finds the file that is made at its path. -/
theorem locate_writerPath (hname : p.fileName?.isSome) (hends : p.endsWithSlash = false)
    (hl : fs.locate p = .ok place) (hnode : fs.node? place ≠ some .directory) :
    fs.locate (Log.Logger.writerPath p) = .ok place := by
  obtain ⟨before, name, hsplit⟩ : ∃ before name, Path.splitSlash p.bytes = before ++ [name] := by
    simpa [List.concat_eq_append] using
      (List.eq_nil_or_concat _).resolve_left (Path.splitSlash_ne_nil p.bytes)
  have h : Path.IsPart name := isPart_of_locate hsplit hname hends hl hnode
  rw [Log.Logger.writerPath, Log.Logger.directory?, Path.fileName?_eq_some h hsplit]
  cases before with
  | nil =>
    obtain ⟨bytes⟩ := p
    obtain ⟨-, rfl⟩ | ⟨hbefore, -⟩ := Path.bytes_of_splitSlash_concat hsplit
    · have hparent : (⟨bytes⟩ : Path).parent? = some ⟨[]⟩ := by
        simp [Path.parent?, h.splitSlash_eq, h.ne_nil]
      rw [hparent]
      exact locate_dot h hl
    · exact absurd rfl hbefore
  | cons first rest =>
    obtain ⟨parent, before, skipped, hparent, hne, hskips⟩ := Path.exists_skips h hsplit
    rw [hparent, show (some parent).filter (!·.bytes.isEmpty) = some parent by simp [hne]]
    exact locate_of_skips hskips hl

end FileSystem

end MqttConformance
