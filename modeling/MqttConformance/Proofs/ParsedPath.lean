import Mathlib
import MqttConformance.Url.Parse

/-! The path of a URL that has been read. It is empty or starts with a slash, whatever dots the text
holds, and in a file URL no second slash follows the first. -/

namespace MqttConformance.Url

/-- The form that reading gives to a path of segments. -/
structure IsRooted (kind : SchemeKind) (path : List Char) : Prop where
  slash : path = [] ∨ path.head? = some '/'
  single : kind = .file → path.head? = some '/' ∧ (path.drop 1).head? ≠ some '/'

variable {kind : SchemeKind} {path segment cs : List Char}

/-! ## Building a path -/

theorem head?_of_prefix {first : List Char} (h : first <+: path) (hf : first ≠ [])
    (hp : path.head? = some '/') : first.head? = some '/' := by
  obtain ⟨rest, rfl⟩ := h
  cases first with
  | nil => exact absurd rfl hf
  | cons c first => exact hp

theorem upToLastSlash_prefix : upToLastSlash path <+: path := by
  unfold upToLastSlash
  have h := List.dropWhile_suffix (l := path.reverse) (· != '/')
  simpa using List.reverse_prefix.2 h

theorem upToLastSlash_ne_nil (h : '/' ∈ path) : upToLastSlash path ≠ [] := by
  intro hnil
  have htake := List.takeWhile_append_dropWhile (p := (· != '/')) (l := path.reverse)
  have hall := List.all_takeWhile (p := (· != '/')) (l := path.reverse)
  rw [List.reverse_eq_nil_iff.1 hnil, List.append_nil] at htake
  rw [htake, List.all_eq_true] at hall
  cases hall '/' (List.mem_reverse.2 h)

theorem head?_append (h : path.head? = some '/') (rest : List Char) :
    (path ++ rest).head? = some '/' := by
  rw [List.head?_append, h]
  rfl

theorem head?_popSegment (h : path.head? = some '/') : (popSegment kind path).head? = some '/' := by
  unfold popSegment
  split
  · exact h
  · have hmem : '/' ∈ path := List.mem_of_mem_head? h
    exact head?_of_prefix upToLastSlash_prefix (upToLastSlash_ne_nil hmem) h

theorem head?_dropLast (h : path.head? = some '/') (hl : lastSlashRemovable path = true) :
    path.dropLast.head? = some '/' := by
  refine head?_of_prefix (List.dropLast_prefix path) ?_ h
  intro hnil
  simp [lastSlashRemovable, hnil] at hl

theorem head?_closed (h : path.head? = some '/') (slash : Bool) :
    (if slash && !endsWithSlash path then path ++ ['/'] else path).head? = some '/' := by
  split
  · exact head?_append h _
  · exact h

theorem head?_addSegment (h : path.head? = some '/') (slash : Bool) :
    (addSegment kind path segment slash).head? = some '/' := by
  unfold addSegment
  dsimp only
  split
  · refine head?_closed (head?_popSegment ?_) slash
    split
    · next hl => exact head?_dropLast h (Bool.and_eq_true_iff.1 hl).2
    · exact h
  · split
    · split
      · exact h
      · exact head?_append h _
    · split
      · exact head?_append (head?_append (head?_append h _) _) _
      · exact head?_append (head?_append h _) _

theorem head?_readSegments (h : path.head? = some '/') :
    (readSegments kind path cs).1.head? = some '/' := by
  fun_induction readSegments kind path cs with
  | case1 path cs next path' hs ih => exact ih (head?_addSegment h _)
  | case2 path cs next path' hs => exact head?_addSegment h _

theorem isRooted_normalizeFile (h : path.head? = some '/') :
    IsRooted kind (normalizeFile kind path) := by
  unfold normalizeFile
  split
  · refine ⟨.inr rfl, fun _ => ⟨rfl, ?_⟩⟩
    intro hslash
    rw [List.drop_one, List.tail_cons] at hslash
    have hnot := List.head?_dropWhile_not (· == '/') path
    rw [hslash] at hnot
    cases hnot
  · next hk => exact ⟨.inr h, fun hfile => absurd (by rw [hfile]; rfl) hk⟩

theorem isRooted_readPath : IsRooted kind (readPath kind ['/'] cs).1 :=
  isRooted_normalizeFile (head?_readSegments rfl)

theorem isRooted_readPathStart : IsRooted kind (readPathStart kind cs).1 := by
  unfold readPathStart
  split
  · split
    · exact isRooted_readPath
    · next hk => exact ⟨.inl rfl, fun hfile => absurd (by rw [hfile]; rfl) hk⟩
  · split
    · exact isRooted_readPath
    · split
      · split
        · exact isRooted_readPath
        · next hk => exact ⟨.inl rfl, fun hfile => absurd (by rw [hfile]; rfl) hk⟩
      · exact isRooted_readPath

/-! ## Reading a URL -/

/-- A path of segments has the form that reading gives. -/
def HasRootedPath (u : Url) : Prop :=
  ∀ path, u.path = .segments path → IsRooted u.kind path

variable {scheme : String} {userinfo : Option (List Char)} {host : Option Host}
variable {port : Option Nat} {rest : List Char} {u : Url}

theorem hasRootedPath_finish (h : IsRooted (.ofScheme scheme) path) :
    (finish scheme userinfo host port (.segments path) rest).HasRootedPath := by
  intro path' hpath
  cases hpath
  exact h

theorem hasRootedPath_finish_opaque :
    (finish scheme userinfo host port (.opaquePath path) rest).HasRootedPath := nofun

theorem hasRootedPath_of_readAuthority (h : readAuthority scheme cs = .ok u) :
    u.HasRootedPath := by
  unfold readAuthority at h
  dsimp only at h
  split at h
  · cases h
  · split at h
    · cases h
    · split at h
      · cases h
      · split at h
        · cases h
        · cases h
          exact hasRootedPath_finish isRooted_readPathStart

theorem hasRootedPath_of_readOther (h : readOther scheme cs = .ok u)
    (hk : SchemeKind.ofScheme scheme = .other) : u.HasRootedPath := by
  unfold readOther at h
  split at h
  · exact hasRootedPath_of_readAuthority h
  · cases h
    exact hasRootedPath_finish (hk ▸ isRooted_readPath)
  · cases h
    exact hasRootedPath_finish_opaque

theorem hasRootedPath_readPlainFile : (readPlainFile cs).HasRootedPath :=
  hasRootedPath_finish isRooted_readPath

theorem hasRootedPath_of_readFile (h : readFile cs = .ok u) : u.HasRootedPath := by
  unfold readFile at h
  split at h
  · split at h
    · split at h
      · cases h
      · cases h
        exact hasRootedPath_readPlainFile
      · cases h
        exact hasRootedPath_finish isRooted_readPathStart
    · cases h
      exact hasRootedPath_readPlainFile
  · cases h
    exact hasRootedPath_readPlainFile

/-- Reading gives every path of segments its form. -/
theorem hasRootedPath_of_ofText {s : String} (h : ofText s = .ok u) : u.HasRootedPath := by
  unfold ofText at h
  split at h
  · cases h
  · next scheme rest _ =>
    split at h
    · exact hasRootedPath_of_readFile h
    · exact hasRootedPath_of_readAuthority h
    · next hk => exact hasRootedPath_of_readOther h hk

end MqttConformance.Url
