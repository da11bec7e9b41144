import MqttConformance.Proofs.Routes

/-! What the routes take from the base URL. Adding segments always succeeds and leaves everything but
the path as it is (`Endpoints.routes_extend_base`). The path of a route starts with the base path,
where a slash at its end does not matter: it is dropped when the first segment is added, and only a
path of two slashes loses the one that it needs. -/

namespace MqttConformance

namespace Url

variable {kind : SchemeKind} {path : List Char}

/-- Fixed segments at the end of a path. -/
theorem foldl_pushSegment_words {word : String} {words : List String} (hw : IsWord word)
    (hws : ∀ w ∈ words, IsWord w) (hp : IsRooted kind path) :
    (word :: words).foldl (pushSegment kind) path =
      opened path ++ word.toList ++ words.flatMap fun w => '/' :: w.toList := by
  induction words generalizing word path with
  | nil => simp [(hw.pushSegment_eq hp).1]
  | cons next words ih =>
    obtain ⟨hnext, hrest⟩ := List.forall_mem_cons.1 hws
    obtain ⟨hpush, hrooted⟩ := hw.pushSegment_eq hp
    have hstep : (word :: next :: words).foldl (pushSegment kind) path =
        (next :: words).foldl (pushSegment kind) (pushSegment kind path word) := rfl
    rw [hstep, hpush, ih hnext hrest hrooted, hw.opened_append]
    simp

/-- A path takes segments that start with a fixed one where it is opened. -/
theorem foldl_pushSegment_congr {other : List Char} {word : String} (rest : List String)
    (hw : IsWord word) (hp : IsRooted kind path) (ho : IsRooted kind other)
    (h : opened path = opened other) :
    (word :: rest).foldl (pushSegment kind) path = (word :: rest).foldl (pushSegment kind) other := by
  rw [List.foldl_cons, List.foldl_cons, (hw.pushSegment_eq hp).1, (hw.pushSegment_eq ho).1, h]

/-! ## A slash at the end -/

theorem stem_eq_self (hs : endsWithSlash path = false) : stem path = path := by
  rw [stem, if_neg (by simp [hs])]

@[simp] theorem stem_concat_slash : stem (path ++ ['/']) = path := by
  rw [stem, if_pos endsWithSlash_concat, List.dropLast_concat]

theorem ne_slashes (hs : endsWithSlash path = false) :
    path ≠ ['/', '/'] ∧ path ++ ['/'] ≠ ['/', '/'] := by
  refine ⟨fun h => by simp [h, endsWithSlash] at hs, fun h => ?_⟩
  obtain rfl : path = ['/'] := List.append_cancel_right (show path ++ ['/'] = ['/'] ++ ['/'] from h)
  cases hs

theorem isRooted_concat_slash (h : IsRooted kind path) (hs : endsWithSlash path = false) :
    IsRooted kind (path ++ ['/']) := by
  have hlength : path.length ≠ 1 := by
    intro hl
    obtain ⟨c, rfl⟩ := List.length_eq_one_iff.1 hl
    obtain rfl : c = '/' := by simpa using h.slash
    cases hs
  have hopened : opened path = path ++ ['/'] := if_neg hlength
  exact hopened ▸ (isRooted_opened h).1

/-- A path with and one without a slash at its end take segments in the same place. -/
theorem opened_concat_slash (h : IsRooted kind path) (hs : endsWithSlash path = false) :
    opened (dropEmptySegment (path ++ ['/'])) = opened (dropEmptySegment path) := by
  obtain ⟨hne, hne'⟩ := ne_slashes hs
  rw [opened_dropEmptySegment h.slash hne, stem_eq_self hs,
    opened_dropEmptySegment (isRooted_concat_slash h hs).slash hne', stem_concat_slash]

variable {u v : Url} {word : String}

theorem extended_eq_foldl {segments : List String} (hp : u.path = .segments path) :
    u.extended segments = { u with
      path := .segments (segments.foldl (pushSegment u.kind) (dropEmptySegment path)) } := by
  rw [extended, extend?, hp]
  rfl

/-- Adding segments leaves everything but the path as it is. -/
theorem extended_eq_self {segments : List String} :
    u.extended segments = { u with path := (u.extended segments).path } := by
  obtain ⟨path, h⟩ := @extended_eq u segments
  rw [h]

/-- URLs that differ in a slash at the end of the path lead to the same place. -/
theorem extended_concat_slash (rest : List String) (hw : IsWord word)
    (hrooted : u.HasRootedPath) (hp : u.path = .segments path) (hs : endsWithSlash path = false)
    (hv : v = { u with path := .segments (path ++ ['/']) }) :
    v.extended (word :: rest) = u.extended (word :: rest) := by
  subst hv
  have hpath := hrooted path hp
  rw [extended_eq_foldl rfl, extended_eq_foldl hp]
  refine congrArg (fun chars => { u with path := .segments chars }) ?_
  exact foldl_pushSegment_congr rest hw
    (isRooted_dropEmptySegment (isRooted_concat_slash hpath hs)) (isRooted_dropEmptySegment hpath)
    (opened_concat_slash hpath hs)

/-- Fixed segments follow the path without the slash at its end. -/
theorem extended_words {words : List String} (hw : IsWord word) (hws : ∀ w ∈ words, IsWord w)
    (hrooted : u.HasRootedPath) (hp : u.path = .segments path) (hne : path ≠ ['/', '/']) :
    u.extended (word :: words) = { u with
      path := .segments (stem path ++ (word :: words).flatMap fun w => '/' :: w.toList) } := by
  have hpath := hrooted path hp
  rw [extended_eq_foldl hp,
    foldl_pushSegment_words hw hws (isRooted_dropEmptySegment hpath),
    opened_dropEmptySegment hpath.slash hne]
  simp

end Url

namespace Run.Endpoints

open Url (IsWord endsWithSlash stem)

variable {e other : Endpoints} {base notification : String}

theorem isWord_submit : IsWord "cfg" ∧ IsWord "broker" := by
  refine ⟨⟨by decide, fun kind => ?_, rfl⟩, ⟨by decide, fun kind => ?_, rfl⟩⟩
  all_goals cases kind <;> rfl

/-- **The routes and the base URL.** All three routes exist, and in everything but the path they are
the base URL. The path of the submission route is the base path, without the slash at its end if it
has one, and the fixed segments; only a base path of two slashes loses both. A slash at the end of
the base path makes no difference to any route. -/
theorem routes_extend_base (h : ofTexts base notification = .ok e) :
    (∀ id, ∃ submit start download, e.submitUrl = .ok submit ∧ e.startUrl id = .ok start ∧
      e.downloadUrl id = .ok download ∧
      ∀ url ∈ [submit, start, download], url = { e.base with path := url.path }) ∧
    (e.base.path.chars ≠ ['/', '/'] → e.submitUrl = .ok { e.base with
      path := .segments (stem e.base.path.chars ++ "/conformance/cfg/mqtt/broker".toList) }) ∧
    (endsWithSlash e.base.path.chars = false →
      other.base = { e.base with path := .segments (e.base.path.chars ++ ['/']) } →
      other.submitUrl = e.submitUrl ∧
      ∀ id, other.startUrl id = e.startUrl id ∧ other.downloadUrl id = e.downloadUrl id) := by
  have htakes := (base_of_ofTexts h).2
  obtain ⟨hrooted, path, hp⟩ := path_of_ofTexts h
  have hchars : e.base.path.chars = path := by rw [hp]; rfl
  refine ⟨fun id => ?_, fun hne => ?_, fun hs hother => ?_⟩
  · refine ⟨_, _, _, submitUrl_eq htakes, startUrl_eq htakes id, downloadUrl_eq htakes id, ?_⟩
    simp only [List.forall_mem_cons]
    exact ⟨Url.extended_eq_self, Url.extended_eq_self, Url.extended_eq_self, List.forall_mem_nil _⟩
  · rw [hchars] at hne ⊢
    have hwords : ∀ w ∈ ["cfg", "mqtt", "broker"], IsWord w := by
      simp only [List.forall_mem_cons]
      exact ⟨isWord_submit.1, isWord_mqtt, isWord_submit.2, List.forall_mem_nil _⟩
    have hfixed : ["conformance", "cfg", "mqtt", "broker"].flatMap (fun w => '/' :: w.toList) =
        "/conformance/cfg/mqtt/broker".toList := by decide
    rw [submitUrl_eq htakes, submitTarget, Url.extended_words isWord_start.1 hwords hrooted hp hne,
      hfixed]
  · rw [hchars] at hs hother
    have hsame {word : String} (rest : List String) (hw : IsWord word) :
        other.base.extended (word :: rest) = e.base.extended (word :: rest) :=
      Url.extended_concat_slash rest hw hrooted hp hs hother
    have hother : other.TakesSegments := by rw [TakesSegments, hother]; rfl
    rw [submitUrl_eq htakes, submitUrl_eq hother]
    refine ⟨congrArg _ (hsame _ isWord_start.1), fun id => ?_⟩
    rw [startUrl_eq htakes, startUrl_eq hother, downloadUrl_eq htakes, downloadUrl_eq hother]
    exact ⟨congrArg _ (hsame _ isWord_start.1), congrArg _ (hsame _ isWord_download.1)⟩

/-- A base with user, port, query and fragment, with and without a slash at the end of its path. -/
theorem slash_makes_no_difference :
    let base : Url := ⟨"http", some "me:pw".toList, some (.ipv6 [0, 0, 0, 0, 0, 0, 0, 1]), some 9,
      .segments "/v1".toList, some "q".toList, some "top".toList⟩
    let notification : Url :=
      ⟨"ws", none, some (.ipv6 [0, 0, 0, 0, 0, 0, 0, 1]), none, .segments ['/'], none, none⟩
    let e : Endpoints := ⟨base, notification⟩
    let other : Endpoints := ⟨{ base with path := .segments "/v1/".toList }, notification⟩
    let id : Identifier := ⟨"a b", by decide⟩
    ofTexts "http://me:pw@[::1]:9/v1?q#top" "ws://[::1]/" = .ok e ∧
    ofTexts "http://me:pw@[::1]:9/v1/?q#top" "ws://[::1]/" = .ok other ∧
    e.base.path.chars ≠ ['/', '/'] ∧ endsWithSlash e.base.path.chars = false ∧
    e.submitUrl = .ok { base with path := .segments "/v1/conformance/cfg/mqtt/broker".toList } ∧
    other.submitUrl = e.submitUrl ∧ other.startUrl id = e.startUrl id ∧
    other.downloadUrl id = e.downloadUrl id ∧ ∃ url, e.startUrl id = .ok url := by
  intro base notification e other id
  have h : ofTexts "http://me:pw@[::1]:9/v1?q#top" "ws://[::1]/" = .ok e := by cbv
  have hne : e.base.path.chars ≠ ['/', '/'] := by decide
  have hs : endsWithSlash e.base.path.chars = false := by decide
  obtain ⟨hroutes, hsubmit, hslash⟩ := @routes_extend_base e other _ _ h
  obtain ⟨hsame, hsameRun⟩ := hslash hs rfl
  obtain ⟨_, start, _, _, hstart, _⟩ := hroutes id
  exact ⟨h, by cbv, hne, hs, hsubmit hne, hsame, (hsameRun id).1, (hsameRun id).2, start, hstart⟩

end Run.Endpoints

end MqttConformance
