import MqttConformance.Proofs.ParsedPath
import MqttConformance.Proofs.Percent
import MqttConformance.Proofs.Phases

/-! Where the routes of a run lead. A segment of text goes to the end of a path in its encoded form,
so the identifier of a run is one segment behind the fixed ones. Tabs and line breaks are the
exception: they are dropped before the segment is looked at, and what is left of it may be dots. -/

namespace MqttConformance

namespace Url

variable {kind : SchemeKind} {path : List Char} {s : String}

/-! ## One segment -/

def segmentComponent (kind : SchemeKind) : Component :=
  if kind.isSpecial then .specialSegment else .segment

/-- The text of a segment without tabs and line breaks. -/
def stripped (s : String) : List Char := s.toList.filter (!isTabOrNewline ·)

/-- A segment as it stands in a path. -/
def segmentChars (kind : SchemeKind) (s : String) : List Char :=
  percentEncode (segmentComponent kind) (stripped s)

/-- The path with a slash at its end, ready for a segment. -/
def opened (path : List Char) : List Char := if path.length = 1 then path else path ++ ['/']

theorem encodes_percent : (segmentComponent kind).encodes '%' = true := by cases kind <;> rfl

theorem encodes_slash : (segmentComponent kind).encodes '/' = true := by cases kind <;> rfl

theorem encodes_dot : (segmentComponent kind).encodes '.' = false := by cases kind <;> rfl

theorem slash_not_mem_segmentChars : '/' ∉ segmentChars kind s :=
  slash_not_mem_percentEncode encodes_slash

theorem pushSegment_eq (h₁ : s ≠ ".") (h₂ : s ≠ "..") : pushSegment kind path s =
    normalizeFile kind (addSegment kind (opened path) (segmentChars kind s) false) :=
  if_neg (not_or.2 ⟨h₁, h₂⟩)

/-- A segment that is neither dots nor a drive letter goes to the end of the path. -/
theorem addSegment_eq_append (h₁ : stripped s ≠ ['.']) (h₂ : stripped s ≠ ['.', '.'])
    (hd : path.length = 1 → isDrive (segmentChars kind s) = false) :
    addSegment kind path (segmentChars kind s) false = path ++ segmentChars kind s := by
  have hsingle : isSingleDot (segmentChars kind s) = false :=
    Bool.eq_false_iff.2 fun h => h₁ ((isSingleDot_percentEncode encodes_percent encodes_dot).1 h)
  have hdouble : isDoubleDot (segmentChars kind s) = false :=
    Bool.eq_false_iff.2 fun h => h₂ ((isDoubleDot_percentEncode encodes_percent encodes_dot).1 h)
  have hdrive : (kind == .file && path.length == 1 && isDrive (segmentChars kind s)) = false := by
    cases hl : path.length == 1 with
    | false => simp
    | true => simp [hd (by simpa using hl)]
  simp [addSegment, hsingle, hdouble, hdrive]

theorem normalizeFile_of_isRooted (h : IsRooted kind path) : normalizeFile kind path = path := by
  unfold normalizeFile
  split
  · next hk =>
    obtain ⟨hhead, hnext⟩ := h.single (by simpa using hk)
    cases path with
    | nil => cases hhead
    | cons c rest =>
      cases hhead
      cases rest with
      | nil => rfl
      | cons d rest =>
        have hd : d ≠ '/' := by simpa using hnext
        simp [hd]
  · rfl

theorem isRooted_append (h : IsRooted kind path) (hp : path ≠ []) {chars : List Char}
    (hc : chars.head? ≠ some '/') : IsRooted kind (path ++ chars) := by
  cases path with
  | nil => exact absurd rfl hp
  | cons c rest =>
    refine ⟨.inr (h.slash.resolve_left hp), fun hk => ⟨(h.single hk).1, ?_⟩⟩
    cases rest with
    | nil => exact hc
    | cons d rest => exact (h.single hk).2

theorem isRooted_opened (h : IsRooted kind path) :
    IsRooted kind (opened path) ∧ opened path ≠ [] := by
  unfold opened
  split
  · next hl => exact ⟨h, fun hnil => by simp [hnil] at hl⟩
  · refine ⟨?_, List.append_ne_nil_of_right_ne_nil _ (List.cons_ne_nil _ _)⟩
    cases path with
    | nil => exact ⟨.inr rfl, fun hk => nomatch (h.single hk).1⟩
    | cons c rest =>
      refine ⟨.inr (h.slash.resolve_left (List.cons_ne_nil _ _)), fun hk => ⟨(h.single hk).1, ?_⟩⟩
      cases rest with
      | nil => simp at *
      | cons d rest => exact (h.single hk).2

theorem head?_segmentChars : (segmentChars kind s).head? ≠ some '/' :=
  fun h => slash_not_mem_segmentChars (List.mem_of_mem_head? h)

/-- Adding a segment that is neither dots nor a drive letter. -/
theorem pushSegment_eq_append (h : IsRooted kind path) (h₁ : s ≠ ".") (h₂ : s ≠ "..")
    (h₃ : stripped s ≠ ['.']) (h₄ : stripped s ≠ ['.', '.'])
    (hd : (opened path).length = 1 → isDrive (segmentChars kind s) = false) :
    pushSegment kind path s = opened path ++ segmentChars kind s ∧
      IsRooted kind (opened path ++ segmentChars kind s) := by
  obtain ⟨hopened, hne⟩ := isRooted_opened h
  have hrooted : IsRooted kind (opened path ++ segmentChars kind s) :=
    isRooted_append hopened hne head?_segmentChars
  rw [pushSegment_eq h₁ h₂, addSegment_eq_append h₃ h₄ hd, normalizeFile_of_isRooted hrooted]
  exact ⟨rfl, hrooted⟩

/-! ## Fixed segments -/

/-- A text that a path takes as it is: no dots, no drive letter, and nothing to encode. -/
structure IsWord (s : String) : Prop where
  length : 2 < s.toList.length
  plain (kind : SchemeKind) : segmentChars kind s = s.toList
  undriven : startsWithDrive (s.toList ++ ['/']) = false

namespace IsWord

variable {a b c : String}

theorem stripped_ne (h : IsWord s) {cs : List Char} (hc : cs = ['.'] ∨ cs = ['.', '.']) :
    stripped s ≠ cs := by
  intro hs
  have hlength := h.length
  rw [← h.plain .other, segmentChars, hs] at hlength
  rcases hc with rfl | rfl <;> simp [percentEncode, percentEncodeChar, encodes_dot] at hlength

theorem isDrive_eq_false (h : IsWord s) : isDrive s.toList = false := by
  have hlength := h.length
  have hne : s.toList.length ≠ 2 := by omega
  simp [isDrive, hne]

theorem pushSegment_eq (h : IsWord s) (hp : IsRooted kind path) :
    pushSegment kind path s = opened path ++ s.toList ∧
      IsRooted kind (opened path ++ s.toList) := by
  have hlength := h.length
  have hdrive := h.isDrive_eq_false
  rw [← h.plain kind] at hdrive ⊢
  refine pushSegment_eq_append hp ?_ ?_ (h.stripped_ne (.inl rfl)) (h.stripped_ne (.inr rfl))
    fun _ => hdrive
  · rintro rfl
    exact absurd hlength (by decide)
  · rintro rfl
    exact absurd hlength (by decide)

theorem opened_append (h : IsWord s) : opened (path ++ s.toList) = path ++ s.toList ++ ['/'] := by
  have hlength := h.length
  refine if_neg fun hl => ?_
  rw [List.length_append] at hl
  omega

/-- Three fixed segments at the end of a path. -/
theorem foldl_pushSegment (ha : IsWord a) (hb : IsWord b) (hc : IsWord c)
    (hp : IsRooted kind path) :
    let front := opened path ++ a.toList ++ ['/'] ++ b.toList ++ ['/']
    [a, b, c].foldl (pushSegment kind) path = front ++ c.toList ∧ IsRooted kind front ∧
      IsRooted kind (front ++ c.toList) := by
  obtain ⟨h₁, hr₁⟩ := ha.pushSegment_eq hp
  obtain ⟨h₂, hr₂⟩ := hb.pushSegment_eq hr₁
  obtain ⟨h₃, hr₃⟩ := hc.pushSegment_eq hr₂
  obtain ⟨hfront, _⟩ := isRooted_opened hr₂
  rw [ha.opened_append] at h₂ hr₂ h₃ hr₃ hfront
  rw [hb.opened_append] at h₃ hr₃ hfront
  simp only [List.foldl_cons, List.foldl_nil, h₁, h₂, h₃]
  exact ⟨trivial, hfront, hr₃⟩

end IsWord

/-! ## Dots -/

theorem endsWithSlash_concat {x : List Char} : endsWithSlash (x ++ ['/']) = true := by
  simp [endsWithSlash]

theorem ne_slash_of_mem_reverse {c : List Char} (hc : '/' ∉ c) :
    ∀ d ∈ c.reverse, (d != '/') = true := by
  intro d hd
  have hne : d ≠ '/' := by
    rintro rfl
    exact hc (List.mem_reverse.1 hd)
  simp [hne]

theorem lastSegment_append {x c : List Char} (hc : '/' ∉ c) :
    lastSegment (x ++ ['/'] ++ c) = c := by
  unfold lastSegment
  rw [List.reverse_append, List.reverse_append,
    List.takeWhile_append_of_pos (ne_slash_of_mem_reverse hc)]
  simp

theorem upToLastSlash_append {x c : List Char} (hc : '/' ∉ c) :
    upToLastSlash (x ++ ['/'] ++ c) = x ++ ['/'] := by
  unfold upToLastSlash
  rw [List.reverse_append, List.reverse_append,
    List.dropWhile_append_of_pos (ne_slash_of_mem_reverse hc)]
  simp

variable {c : String} {x : List Char}

theorem IsWord.slash_not_mem (h : IsWord s) : '/' ∉ s.toList :=
  h.plain .other ▸ slash_not_mem_segmentChars

/-- What is left of a text may be one dot: the path then only ends with a slash. -/
theorem pushSegment_of_dot (hc : IsWord c) (hr : IsRooted kind (path ++ c.toList)) (h₁ : s ≠ ".")
    (h₂ : s ≠ "..") (hs : stripped s = ['.']) :
    pushSegment kind (path ++ c.toList) s = path ++ c.toList ++ ['/'] := by
  obtain ⟨hopened, _⟩ := isRooted_opened hr
  rw [hc.opened_append] at hopened
  have hsingle : isSingleDot (segmentChars kind s) = true :=
    (isSingleDot_percentEncode encodes_percent encodes_dot).2 hs
  have hdouble : isDoubleDot (segmentChars kind s) = false := by
    refine Bool.eq_false_iff.2 fun h => ?_
    cases hs.symm.trans ((isDoubleDot_percentEncode encodes_percent encodes_dot).1 h)
  rw [pushSegment_eq h₁ h₂, hc.opened_append, addSegment]
  simp only [hdouble, hsingle, endsWithSlash_concat, if_true, if_false, Bool.false_eq_true]
  exact normalizeFile_of_isRooted hopened

/-- Two dots take the last segment away. -/
theorem pushSegment_of_dots (hc : IsWord c) (hr : IsRooted kind (x ++ ['/'])) (h₁ : s ≠ ".")
    (h₂ : s ≠ "..") (hs : stripped s = ['.', '.']) :
    pushSegment kind (x ++ ['/'] ++ c.toList) s = x ++ ['/'] := by
  have hdouble : isDoubleDot (segmentChars kind s) = true :=
    (isDoubleDot_percentEncode encodes_percent encodes_dot).2 hs
  have hlast := lastSegment_append (x := x) hc.slash_not_mem
  have hremovable : lastSlashRemovable (x ++ ['/'] ++ c.toList ++ ['/']) = true := by
    simp only [lastSlashRemovable, List.dropLast_concat, hlast, hc.undriven]
    simp
  have hpop : popSegment kind (x ++ ['/'] ++ c.toList) = x ++ ['/'] := by
    simp only [popSegment, hlast, hc.isDrive_eq_false, Bool.and_false, if_false,
      Bool.false_eq_true]
    exact upToLastSlash_append hc.slash_not_mem
  rw [pushSegment_eq h₁ h₂, hc.opened_append, addSegment]
  simp only [hdouble, endsWithSlash_concat, hremovable, Bool.and_true, if_true,
    List.dropLast_concat, hpop, Bool.false_and, if_false, Bool.false_eq_true]
  exact normalizeFile_of_isRooted hr

/-! ## The end of the base path -/

/-- A path without a slash at its end. -/
def stem (path : List Char) : List Char := if endsWithSlash path then path.dropLast else path

theorem isRooted_dropEmptySegment (h : IsRooted kind path) :
    IsRooted kind (dropEmptySegment path) := by
  unfold dropEmptySegment
  split
  · cases path with
    | nil => exact h
    | cons c rest =>
      cases rest with
      | nil => exact ⟨.inl rfl, fun hk => by simp [endsWithSlash] at *⟩
      | cons d rest =>
        refine ⟨.inr (h.slash.resolve_left (List.cons_ne_nil _ _)), fun hk => ⟨(h.single hk).1, ?_⟩⟩
        cases rest with
        | nil => nofun
        | cons => exact (h.single hk).2
  · exact h

theorem length_dropEmptySegment_ne_one {c d : Char} {rest : List Char} (hc : c = '/')
    (hp : c :: d :: rest ≠ ['/', '/']) : (dropEmptySegment (c :: d :: rest)).length ≠ 1 := by
  unfold dropEmptySegment
  split
  · next hends =>
    cases rest with
    | nil =>
      have hd : d = '/' := by simpa [endsWithSlash] using hends
      exact absurd (by rw [hc, hd]) hp
    | cons => simp
  · simp

/-- A slash at the end of a path does not matter, unless the path is two slashes. -/
theorem opened_dropEmptySegment (h : path = [] ∨ path.head? = some '/') (hp : path ≠ ['/', '/']) :
    opened (dropEmptySegment path) = stem path ++ ['/'] := by
  cases path with
  | nil => rfl
  | cons c rest =>
    have hc : c = '/' := by simpa using h
    cases rest with
    | nil => subst hc; rfl
    | cons d rest =>
      have hlast : endsWithSlash (c :: d :: rest) = endsWithSlash (d :: rest) := by
        simp [endsWithSlash, List.getLast?_cons_cons]
      rw [opened, if_neg (length_dropEmptySegment_ne_one hc hp), dropEmptySegment, stem, hlast,
        List.drop_one, List.tail_cons]

/-! ## Three fixed segments and one of text -/

section

variable {a b c : String}

/-- Where a path leads with three fixed segments and a text at its end. -/
def routed (path : List Char) (a b c : String) (kind : SchemeKind) (s : String) : List Char :=
  let front := opened (dropEmptySegment path) ++ a.toList ++ ['/'] ++ b.toList ++ ['/']
  if stripped s = ['.', '.'] then front
  else if stripped s = ['.'] then front ++ c.toList ++ ['/']
  else front ++ c.toList ++ ['/'] ++ segmentChars kind s

theorem foldl_eq_routed (ha : IsWord a) (hb : IsWord b) (hc : IsWord c) (hp : IsRooted kind path)
    (h₁ : s ≠ ".") (h₂ : s ≠ "..") :
    [a, b, c, s].foldl (pushSegment kind) (dropEmptySegment path) = routed path a b c kind s := by
  obtain ⟨hfixed, hfront, hrooted⟩ :=
    IsWord.foldl_pushSegment ha hb hc (isRooted_dropEmptySegment hp)
  have hfold : [a, b, c, s].foldl (pushSegment kind) (dropEmptySegment path) =
      pushSegment kind ([a, b, c].foldl (pushSegment kind) (dropEmptySegment path)) s := rfl
  rw [hfold, hfixed, routed]
  split
  · next hs => exact pushSegment_of_dots hc hfront h₁ h₂ hs
  · next hs₂ =>
    split
    · next hs => exact pushSegment_of_dot hc hrooted h₁ h₂ hs
    · next hs₁ =>
      have hlong {x : List Char} : (opened (x ++ c.toList)).length ≠ 1 := by
        have hlength := hc.length
        rw [hc.opened_append, List.length_append, List.length_append]
        omega
      obtain ⟨hpush, _⟩ := pushSegment_eq_append hrooted h₁ h₂ hs₁ hs₂ fun hl => absurd hl hlong
      rw [hpush, hc.opened_append]

theorem decode_segmentChars :
    Utf8.decode? (percentDecode (Utf8.encodeChars (segmentChars kind s))) =
      some (String.ofList (stripped s)) := by
  rw [Utf8.decode?, segmentChars, percentDecode_percentEncode encodes_percent,
    Utf8.decodeChars?_encodeChars, Option.map_some]

/-- Behind a path of two slashes, the fixed segments come one slash too early. -/
theorem routed_slashes_ne (ha : IsWord a) (rest : List Char) :
    routed ['/', '/'] a b c kind s ≠ ['/', '/'] ++ rest := by
  have hopened : opened (dropEmptySegment ['/', '/']) = ['/'] := rfl
  have hstarts : ∃ more, routed ['/', '/'] a b c kind s = ['/'] ++ (a.toList ++ more) := by
    rw [routed, hopened]
    split
    · exact ⟨_, by simp only [List.append_assoc]; rfl⟩
    · split
      · exact ⟨_, by simp only [List.append_assoc]; rfl⟩
      · exact ⟨_, by simp only [List.append_assoc]; rfl⟩
  intro h
  obtain ⟨more, hmore⟩ := hstarts
  have hsecond : a.toList ++ more = '/' :: rest := List.append_cancel_left (hmore.symm.trans h)
  have hlength := ha.length
  have hmem := ha.slash_not_mem
  cases hchars : a.toList with
  | nil => simp [hchars] at hlength
  | cons d chars =>
    rw [hchars] at hsecond hmem
    obtain ⟨rfl, _⟩ := List.cons.inj hsecond
    exact hmem List.mem_cons_self

/-- Nothing is dropped from the text, and it is no dots: it goes behind the fixed segments. -/
theorem routed_eq_append (hs : stripped s = s.toList) (h₁ : s ≠ ".") (h₂ : s ≠ "..") :
    routed path a b c kind s = opened (dropEmptySegment path) ++ a.toList ++ ['/'] ++ b.toList ++
      ['/'] ++ c.toList ++ ['/'] ++ segmentChars kind s := by
  have hne (t : String) (ht : s ≠ t) : stripped s ≠ t.toList := by
    rw [hs]
    exact fun h => ht (String.toList_inj.1 h)
  have hdots : stripped s ≠ ['.', '.'] := hne ".." h₂
  have hdot : stripped s ≠ ['.'] := hne "." h₁
  rw [routed, if_neg hdots, if_neg hdot]

/-- A text reaches its place behind the fixed segments if nothing is dropped from it. -/
theorem routed_eq_iff (ha : IsWord a) (hp : path = [] ∨ path.head? = some '/') (h₀ : s ≠ "")
    (h₁ : s ≠ ".") (h₂ : s ≠ "..") :
    (∃ last, '/' ∉ last ∧ Utf8.decode? (percentDecode (Utf8.encodeChars last)) = some s ∧
      routed path a b c kind s =
        stem path ++ [a, b, c].flatMap (fun word => '/' :: word.toList) ++ '/' :: last) ↔
      stripped s = s.toList ∧ path ≠ ['/', '/'] := by
  have hfixed (last : List Char) :
      stem path ++ [a, b, c].flatMap (fun word => '/' :: word.toList) ++ '/' :: last =
        stem path ++ ['/'] ++ a.toList ++ ['/'] ++ b.toList ++ ['/'] ++ c.toList ++ ['/'] ++
          last := by
    simp
  simp only [hfixed]
  constructor
  · rintro ⟨last, _, hdecode, hrouted⟩
    have hpath : path ≠ ['/', '/'] := by
      rintro rfl
      exact routed_slashes_ne ha _ (hrouted.trans (by simp only [List.append_assoc]; rfl))
    refine ⟨?_, hpath⟩
    rw [routed, opened_dropEmptySegment hp hpath] at hrouted
    split at hrouted
    · have hlength := congrArg List.length hrouted
      simp only [List.length_append, List.length_cons, List.length_nil] at hlength
      omega
    · split at hrouted
      · obtain rfl : last = [] := List.self_eq_append_right.1 hrouted
        have hempty : Utf8.decode? (percentDecode (Utf8.encodeChars [])) = some "" := by
          rw [Utf8.encodeChars_nil, percentDecode, Utf8.decode?, Utf8.decodeChars?, Utf8.pieces_nil]
          rfl
        exact absurd (Option.some.inj (hdecode.symm.trans hempty)) h₀
      · obtain rfl : segmentChars kind s = last := List.append_cancel_left hrouted
        rw [decode_segmentChars] at hdecode
        have hs := congrArg String.toList (Option.some.inj hdecode)
        rwa [String.toList_ofList] at hs
  · rintro ⟨hs, hpath⟩
    refine ⟨segmentChars kind s, slash_not_mem_segmentChars, ?_, ?_⟩
    · rw [decode_segmentChars, hs, String.ofList_toList]
    · rw [routed_eq_append hs h₁ h₂, opened_dropEmptySegment hp hpath]

/-- Texts from which nothing is dropped are kept apart. -/
theorem routed_injective {t : String} (hs : stripped s = s.toList) (ht : stripped t = t.toList)
    (hs₁ : s ≠ ".") (hs₂ : s ≠ "..") (ht₁ : t ≠ ".") (ht₂ : t ≠ "..")
    (h : routed path a b c kind s = routed path a b c kind t) : s = t := by
  rw [routed_eq_append hs hs₁ hs₂, routed_eq_append ht ht₁ ht₂] at h
  have hchars := percentEncode_injective encodes_percent (List.append_cancel_left h)
  rw [hs, ht] at hchars
  exact String.toList_inj.1 hchars

end

/-! ## URLs -/

/-- The URL is the base with fixed segments added to its path, and behind them one more that stands
for the text. -/
def Addresses (u base : Url) (segments : List String) (text : String) : Prop :=
  u = { base with path := u.path } ∧ ∃ last, '/' ∉ last ∧
    Utf8.decode? (percentDecode (Utf8.encodeChars last)) = some text ∧
    u.path = .segments
      (stem base.path.chars ++ segments.flatMap (fun word => '/' :: word.toList) ++ '/' :: last)

variable {u : Url} {a b c : String}

theorem extended_eq_routed (ha : IsWord a) (hb : IsWord b) (hc : IsWord c) (hu : u.HasRootedPath)
    (hp : u.path = .segments path) (h₁ : s ≠ ".") (h₂ : s ≠ "..") :
    u.extended [a, b, c, s] = { u with path := .segments (routed path a b c u.kind s) } := by
  rw [extended, extend?, hp]
  simp only [foldl_eq_routed ha hb hc (hu path hp) h₁ h₂, Option.getD_some]

theorem extended_addresses_iff (ha : IsWord a) (hb : IsWord b) (hc : IsWord c)
    (hu : u.HasRootedPath) (hp : u.path = .segments path) (h₀ : s ≠ "") (h₁ : s ≠ ".")
    (h₂ : s ≠ "..") : (u.extended [a, b, c, s]).Addresses u [a, b, c] s ↔
      stripped s = s.toList ∧ u.path.chars ≠ ['/', '/'] := by
  rw [extended_eq_routed ha hb hc hu hp h₁ h₂]
  simp only [Addresses, hp, PathText.chars, PathText.segments.injEq, true_and]
  exact routed_eq_iff ha (hu path hp).slash h₀ h₁ h₂

end Url

namespace Run

open Url (IsWord)

namespace Identifier

variable {id other : Identifier}

/-- An identifier without tabs and line breaks. -/
def IsUnbroken (id : Identifier) : Prop :=
  ∀ c ∈ id.text.toList, c ≠ '\t' ∧ c ≠ '\n' ∧ c ≠ '\r'

theorem stripped_eq_iff : Url.stripped id.text = id.text.toList ↔ id.IsUnbroken := by
  unfold Url.stripped IsUnbroken
  rw [List.filter_eq_self]
  refine forall₂_congr fun c _ => ?_
  simp [Url.isTabOrNewline, and_assoc]

theorem text_ne (id : Identifier) : id.text ≠ "" ∧ id.text ≠ "." ∧ id.text ≠ ".." := by
  have h := id.valid
  simp only [isIdentifier, Bool.and_eq_true, Bool.not_eq_true', bne_iff_ne] at h
  refine ⟨?_, h.1.1.2, h.1.2⟩
  intro hempty
  rw [hempty] at h
  simp at h

end Identifier

namespace Endpoints

variable {e : Endpoints} {base notification : String} {id other : Identifier}

theorem isWord_start : IsWord "conformance" ∧ IsWord "run" := by
  refine ⟨⟨by decide, fun kind => ?_, rfl⟩, ⟨by decide, fun kind => ?_, rfl⟩⟩
  all_goals cases kind <;> rfl

theorem isWord_download : IsWord "history" ∧ IsWord "download" := by
  refine ⟨⟨by decide, fun kind => ?_, rfl⟩, ⟨by decide, fun kind => ?_, rfl⟩⟩
  all_goals cases kind <;> rfl

theorem isWord_mqtt : IsWord "mqtt" := by
  refine ⟨by decide, fun kind => ?_, rfl⟩
  cases kind <;> rfl

theorem path_of_ofTexts (h : ofTexts base notification = .ok e) :
    e.base.HasRootedPath ∧ ∃ path, e.base.path = .segments path := by
  obtain ⟨hbase, htakes⟩ := base_of_ofTexts h
  refine ⟨Url.hasRootedPath_of_ofText hbase, ?_⟩
  cases hp : e.base.path with
  | opaquePath text => simp [TakesSegments, Url.cannotBeBase, hp] at htakes
  | segments path => exact ⟨path, rfl⟩

variable {a b : String}

theorem route_addresses_iff (h : ofTexts base notification = .ok e) (ha : IsWord a)
    (hb : IsWord b) (id : Identifier) :
    (∃ url, e.route [a, b, "mqtt", id.text] = .ok url ∧
      url.Addresses e.base [a, b, "mqtt"] id.text) ↔
      id.IsUnbroken ∧ e.base.path.chars ≠ ['/', '/'] := by
  obtain ⟨hrooted, path, hpath⟩ := path_of_ofTexts h
  obtain ⟨h₀, h₁, h₂⟩ := id.text_ne
  have haddresses := Url.extended_addresses_iff ha hb isWord_mqtt hrooted hpath h₀ h₁ h₂
  rw [Identifier.stripped_eq_iff] at haddresses
  rw [route, Url.extend?_eq_some (base_of_ofTexts h).2, ← haddresses]
  constructor
  · rintro ⟨url, hurl, hto⟩
    cases hurl
    exact hto
  · exact fun hto => ⟨_, rfl, hto⟩

theorem route_injective (h : ofTexts base notification = .ok e) (ha : IsWord a) (hb : IsWord b)
    (hid : id.IsUnbroken) (hother : other.IsUnbroken)
    (hsame : e.route [a, b, "mqtt", id.text] = e.route [a, b, "mqtt", other.text]) :
    id = other := by
  obtain ⟨hrooted, path, hpath⟩ := path_of_ofTexts h
  have htakes := (base_of_ofTexts h).2
  obtain ⟨_, h₁, h₂⟩ := id.text_ne
  obtain ⟨_, h₁', h₂'⟩ := other.text_ne
  rw [route, route, Url.extend?_eq_some htakes, Url.extend?_eq_some htakes,
    Url.extended_eq_routed ha hb isWord_mqtt hrooted hpath h₁ h₂,
    Url.extended_eq_routed ha hb isWord_mqtt hrooted hpath h₁' h₂'] at hsame
  simp only [Except.ok.injEq, Url.mk.injEq, Url.PathText.segments.injEq, true_and, and_true]
    at hsame
  exact Identifier.ext (Url.routed_injective (Identifier.stripped_eq_iff.2 hid)
    (Identifier.stripped_eq_iff.2 hother) h₁ h₂ h₁' h₂' hsame)

/-- Both routes of a run address its identifier behind their fixed segments exactly if the
identifier holds no tab and no line break, unless the base path is two slashes; and they are then
different for different identifiers. -/
theorem routes_address_identifier_iff (h : ofTexts base notification = .ok e) :
    (∀ id, (∃ url, e.startUrl id = .ok url ∧
        url.Addresses e.base ["conformance", "run", "mqtt"] id.text) ↔
      id.IsUnbroken ∧ e.base.path.chars ≠ ['/', '/']) ∧
    (∀ id, (∃ url, e.downloadUrl id = .ok url ∧
        url.Addresses e.base ["history", "download", "mqtt"] id.text) ↔
      id.IsUnbroken ∧ e.base.path.chars ≠ ['/', '/']) ∧
    ∀ id other, id.IsUnbroken → other.IsUnbroken →
      e.startUrl id = e.startUrl other ∨ e.downloadUrl id = e.downloadUrl other → id = other := by
  refine ⟨route_addresses_iff h isWord_start.1 isWord_start.2,
    route_addresses_iff h isWord_download.1 isWord_download.2, fun id other hid hother hsame => ?_⟩
  rcases hsame with hsame | hsame
  · exact route_injective h isWord_start.1 isWord_start.2 hid hother hsame
  · exact route_injective h isWord_download.1 isWord_download.2 hid hother hsame

/-- The endpoints of a service on this computer, and an identifier that holds a blank, a percent
sign and an escaped slash. -/
theorem local_routes_address_identifier :
    let base : Url := ⟨"http", none, some (.ipv6 [0, 0, 0, 0, 0, 0, 0, 1]), some 9,
      .segments "/v1/".toList, none, none⟩
    let e : Endpoints :=
      ⟨base, { base with scheme := "ws", port := none, path := .segments ['/'] }⟩
    let id : Identifier := ⟨"a %2f..", by decide⟩
    ofTexts "http://[::1]:9/v1/" "ws://[::1]/" = .ok e ∧ id.IsUnbroken ∧
      ∃ url, e.startUrl id = .ok url ∧
        url.Addresses e.base ["conformance", "run", "mqtt"] id.text := by
  intro base e id
  have h : ofTexts "http://[::1]:9/v1/" "ws://[::1]/" = .ok e := by cbv
  have hid : id.IsUnbroken := Identifier.stripped_eq_iff.1 (by cbv)
  exact ⟨h, hid, ((routes_address_identifier_iff h).1 id).2 ⟨hid, by decide⟩⟩

/-- A tab is lost on the way into a URL. What is left of one identifier is another identifier, and
what is left of a third are two dots, which lead out of the fixed segments. -/
theorem tab_lost_in_routes :
    let base : Url := ⟨"http", none, some (.ipv6 [0, 0, 0, 0, 0, 0, 0, 1]), some 9,
      .segments "/v1".toList, none, none⟩
    let e : Endpoints :=
      ⟨base, { base with scheme := "ws", port := none, path := .segments ['/'] }⟩
    let id : Identifier := ⟨"a\tb", by decide⟩
    let other : Identifier := ⟨"ab", by decide⟩
    let dots : Identifier := ⟨".\t.", by decide⟩
    ofTexts "http://[::1]:9/v1" "ws://[::1]/" = .ok e ∧
      (¬∃ url, e.startUrl id = .ok url ∧
        url.Addresses e.base ["conformance", "run", "mqtt"] id.text) ∧
      (id ≠ other ∧ e.startUrl id = e.startUrl other ∧ e.downloadUrl id = e.downloadUrl other) ∧
      e.startUrl dots = .ok { base with path := .segments "/v1/conformance/run/".toList } ∧
      e.downloadUrl dots = .ok { base with path := .segments "/v1/history/download/".toList } := by
  intro base e id other dots
  have h : ofTexts "http://[::1]:9/v1" "ws://[::1]/" = .ok e := by cbv
  refine ⟨h, fun hto => ?_, ⟨by decide, by cbv, by cbv⟩, by cbv, by cbv⟩
  have hid := ((route_addresses_iff h isWord_start.1 isWord_start.2 id).1 hto).1
  exact (hid '\t' (by simp [id])).1 rfl

end Endpoints

end Run

end MqttConformance
