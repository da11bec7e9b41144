import MqttConformance.Proofs.WriterPath

/-!
# A name in a directory

What becomes of a name that is joined to the path of a directory. It leads one level down from the
directory if it fits, which is to say that the system takes a name and a path of that length and
that no NUL is in the name (`FileSystem.Fits`); otherwise no file can be created there, whatever the
tree holds (`FileSystem.create_join_of_not_fits`).
-/

namespace MqttConformance

namespace FileSystem

variable {fs : FileSystem} {p : Path} {part name : Bytes} {start parent : Location} {fault : IoFault}

/-- The path and the name at its end are short enough, and the byte that ends paths is not in it. -/
structure Fits (p : Path) (name : Bytes) : Prop where
  zero_not_mem : 0 ∉ p.bytes
  name : name.length ≤ maxName
  path : p.bytes.length < maxPath

/-! ## Where the name leads -/

theorem walk_singleton : fs.walk start [part] = fs.step start part := by
  rw [walk]
  cases fs.step start part <;> rfl

theorem zero_not_mem_of_directory (hdir : fs.directory p = .ok parent) : 0 ∉ p.bytes := by
  unfold directory at hdir
  split at hdir
  · next hp => simp [hp]
  · exact (locate_eq_ok.1 hdir).1

theorem zero_mem_join (h : Path.IsPart name) (hdir : fs.directory p = .ok parent) :
    0 ∈ (p.join ⟨name⟩).bytes ↔ 0 ∈ name := by
  have hzero := zero_not_mem_of_directory hdir
  rcases (p.liesIn_join h).written with hbytes | hbytes <;> simp [hbytes, hzero, Path.slash]

/-- The walk along the path of the name comes to the directory first. -/
theorem walk_join (h : Path.IsPart name) (hdir : fs.directory p = .ok parent) :
    fs.walk (if p.isAbsolute then [] else fs.workDir) (Path.splitSlash (p.join ⟨name⟩).bytes) =
      fs.step parent name := by
  rw [← walk_singleton]
  rcases p.join_cases h with ⟨hp, hjoin⟩ | ⟨a, hp, hjoin⟩ | ⟨hp, -, hjoin⟩
  · rw [directory, if_pos hp] at hdir
    cases hdir
    rw [hjoin, h.splitSlash_eq, Path.isAbsolute, hp]
    rfl
  · rw [directory, if_neg (by simp [hp])] at hdir
    obtain ⟨-, -, -, hwalk⟩ := locate_eq_ok.1 hdir
    rw [hp, Path.splitSlash_append, walk_append_eq_ok] at hwalk
    obtain ⟨between, hwalk, hlast⟩ := hwalk
    have hempty : ∀ part ∈ Path.splitSlash [], Path.counts part = false :=
      List.forall_mem_singleton.2 rfl
    obtain rfl : parent = between := walk_of_not_counts hempty hlast
    rw [hjoin, Path.splitSlash_append, h.splitSlash_eq, walk_append, hwalk]
  · rw [directory, if_neg hp] at hdir
    obtain ⟨-, -, -, hwalk⟩ := locate_eq_ok.1 hdir
    rw [hjoin, Path.splitSlash_append, h.splitSlash_eq, walk_append, hwalk]

theorem locate_join_eq (h : Path.IsPart name) (hdir : fs.directory p = .ok parent) :
    fs.locate (p.join ⟨name⟩) =
      if 0 ∈ name then .error .nulInPath
      else if maxPath ≤ (p.join ⟨name⟩).bytes.length then .error .nameTooLong
      else fs.step parent name := by
  have hne : (p.join ⟨name⟩).bytes.isEmpty = false := by
    rcases (p.liesIn_join h).written with hbytes | hbytes <;> simp [hbytes, h.ne_nil]
  rw [locate, p.isAbsolute_join h, walk_join h hdir, hne]
  simp only [List.contains_iff_mem, zero_mem_join h hdir, Bool.false_eq_true, if_false]

theorem step_of_isPart (h : Path.IsPart name) (hnode : fs.node? parent = some .directory) :
    fs.step parent name =
      if maxName < name.length then .error .nameTooLong else .ok (parent ++ [name]) := by
  simp [step, hnode, h.ne_nil, h.ne_dot, h.ne_dotDot]

section

variable (h : Path.IsPart name) (hdir : fs.directory p = .ok parent)
  (hnode : fs.node? parent = some .directory)
include h hdir hnode

/-- A name that fits leads one level down from its directory. -/
theorem locate_join_of_fits (hfits : Fits (p.join ⟨name⟩) name) :
    fs.locate (p.join ⟨name⟩) = .ok (parent ++ [name]) := by
  rw [locate_join_eq h hdir, step_of_isPart h hnode,
    if_neg (mt (zero_mem_join h hdir).2 hfits.zero_not_mem), if_neg (Nat.not_le.2 hfits.path),
    if_neg (Nat.not_lt.2 hfits.name)]

theorem locate_join_of_not_fits (hfits : ¬Fits (p.join ⟨name⟩) name) :
    fs.locate (p.join ⟨name⟩) = .error (if 0 ∈ name then .nulInPath else .nameTooLong) := by
  rw [locate_join_eq h hdir, step_of_isPart h hnode]
  by_cases hzero : 0 ∈ name
  · rw [if_pos hzero, if_pos hzero]
  · rw [if_neg hzero, if_neg hzero]
    split
    · rfl
    · next hpath =>
      rw [if_pos]
      by_contra hname
      exact hfits ⟨mt (zero_mem_join h hdir).1 hzero, Nat.not_lt.1 hname, Nat.not_le.1 hpath⟩

end

/-! ## Files under the name -/

/-- What a path leads to becomes a file without content, unless it is a directory. -/
theorem create_of_located (hends : p.endsWithSlash = false) (hl : fs.locate p = .ok parent)
    (hnode : fs.node? parent ≠ some .directory) :
    fs.create p = .ok (parent, fs.put parent (.file [])) := by
  rw [create, Path.withoutSlashes_of_endsWithSlash_eq_false hends, hl, hends]
  simp only [Bool.false_eq_true, if_false]

theorem create_of_unlocated (hends : p.endsWithSlash = false) (hl : fs.locate p = .error fault) :
    fs.create p = .error fault := by
  rw [create, Path.withoutSlashes_of_endsWithSlash_eq_false hends, hl]

section

variable (h : Path.IsPart name) (hdir : fs.directory p = .ok parent)
  (hnode : fs.node? parent = some .directory)
include h hdir hnode

theorem create_join_of_fits (hfits : Fits (p.join ⟨name⟩) name)
    (hfree : fs.node? (parent ++ [name]) ≠ some .directory) :
    fs.create (p.join ⟨name⟩) = .ok (parent ++ [name], fs.put (parent ++ [name]) (.file [])) :=
  create_of_located (p.endsWithSlash_join h) (locate_join_of_fits h hdir hnode hfits) hfree

theorem create_join_of_not_fits (hfits : ¬Fits (p.join ⟨name⟩) name) :
    fs.create (p.join ⟨name⟩) = .error (if 0 ∈ name then .nulInPath else .nameTooLong) :=
  create_of_unlocated (p.endsWithSlash_join h) (locate_join_of_not_fits h hdir hnode hfits)

end

end FileSystem

end MqttConformance
