import MqttConformance.Proofs.Agreement
import MqttConformance.Proofs.Phases

/-!
# The payload of a submission

What is posted for a configuration. A configuration of whole numbers of 64 bits is read back from
the body that is posted for it (`Run.Configuration.posted_reads_back`). A configuration from a file
is posted as a document that agrees with the file's, up to the numbers that are not kept
(`Run.Configuration.posted_agrees`).
-/

namespace MqttConformance.Run

open Json (Literal Document Number)

/-- In some surroundings, submitting the configuration posts this body. -/
def Endpoints.Posts (e : Endpoints) (config : Configuration) (body : Bytes) : Prop :=
  ∃ services world actions request,
    ((Submission.submit e config).run services world).2.trace = world.trace ++ actions ∧
    Action.send request ∈ actions ∧ request.body = some body

variable {e : Endpoints} {config : Configuration} {body : Bytes}

theorem submitUrl_of_not_takesSegments (h : ¬e.TakesSegments) :
    e.submitUrl = .error (.endpoint e.base.render) := by
  unfold Endpoints.TakesSegments Url.cannotBeBase at h
  unfold Endpoints.submitUrl Endpoints.route Url.extend?
  cases hpath : e.base.path with
  | opaquePath text => rfl
  | segments text => exact absurd (by rw [hpath]) h

theorem trace_submit (he : e.TakesSegments) (services : Services) (world : World) :
    ((Submission.submit e config).run services world).2.trace =
      world.trace ++ (e.submitRequest config).sends := (submit_ends he rfl rfl).trace_eq

theorem trace_submit_of_not_takesSegments (he : ¬e.TakesSegments) (services : Services)
    (world : World) :
    ((Submission.submit e config).run services world).2.trace = world.trace ++ [] := by
  have hends : (Submission.submit e config).Ends services world
      (.failed (.endpoint e.base.render)) [] world.files := by
    unfold Submission.submit
    rw [submitUrl_of_not_takesSegments he]
    exact Effect.Ends.bind_failed (.ofExcept rfl)
  exact hends.trace_eq

/-- One body is posted, if the request leaves at all. -/
theorem posts_iff : e.Posts config body ↔
    e.TakesSegments ∧ (e.submitRequest config).leaves = true ∧ body = config.json.encode := by
  constructor
  · rintro ⟨services, world, actions, request, htrace, hmem, hbody⟩
    by_cases he : e.TakesSegments
    · rw [trace_submit he] at htrace
      obtain rfl := List.append_cancel_left htrace
      unfold Http.Request.sends at hmem
      split at hmem
      · next hleaves =>
        cases List.mem_singleton.1 hmem
        exact ⟨he, hleaves, (Option.some.inj hbody).symm⟩
      · cases hmem
    · rw [trace_submit_of_not_takesSegments he] at htrace
      obtain rfl := List.append_cancel_left htrace
      cases hmem
  · rintro ⟨he, hleaves, rfl⟩
    refine ⟨.unreachable, { files := ⟨[], []⟩ }, _, e.submitRequest config,
      trace_submit he _ _, ?_, rfl⟩
    rw [Http.Request.sends, if_pos hleaves]
    exact List.mem_singleton_self _

namespace Configuration

theorem ofBytes_eq_ok {bytes : Bytes} :
    ofBytes bytes = .ok config ↔ Json.ofBytes bytes = .ok config.json := by
  obtain ⟨json⟩ := config
  unfold ofBytes
  cases Json.ofBytes bytes <;> simp

/-- **What is posted for a configuration is read back.** A configuration of whole numbers of 64
bits, of strings and of objects with each name once, nested 127 deep at most, is read from the body
that is posted for it, so that no other such configuration is posted as the same body. -/
theorem posted_reads_back (h : config.json.Tidy Number.IsWord 127) :
    (∀ e : Endpoints, e.TakesSegments → (e.submitRequest config).leaves = true →
      ∃ body, e.Posts config body) ∧
    (∀ (e : Endpoints) (body : Bytes), e.Posts config body → ofBytes body = .ok config) ∧
    ∀ (e e' : Endpoints) (config' : Configuration) (body : Bytes),
      config'.json.Tidy Number.IsWord 127 → e.Posts config body → e'.Posts config' body →
      config = config' := by
  have hread {config : Configuration} (h : config.json.Tidy Number.IsWord 127) {e : Endpoints}
      {body : Bytes} (hposts : e.Posts config body) : ofBytes body = .ok config := by
    obtain ⟨-, -, rfl⟩ := posts_iff.1 hposts
    exact ofBytes_eq_ok.2 h.ofBytes_encode
  refine ⟨fun e he hleaves => ⟨_, posts_iff.2 ⟨he, hleaves, rfl⟩⟩, fun e body => hread h, ?_⟩
  intro e e' config' body h' hposts hposts'
  exact Except.ok.inj ((hread h hposts).symm.trans (hread h' hposts'))

/-- A service on this machine. -/
def loopback : Endpoints :=
  let base : Url :=
    ⟨"http", none, some (.ipv6 [0, 0, 0, 0, 0, 0, 0, 1]), none, .segments ['/'], none, none⟩
  ⟨base, { base with scheme := "ws" }⟩

/-- Whole numbers at both ends of their range, and strings with escapes. -/
theorem largest_words_read_back :
    let words : Json :=
      .array [.number (.natural (2 ^ 64 - 1)), .number (.negative (2 ^ 63)), .array [], .null]
    let config : Configuration := ⟨.object [("\x01\"", words), ("é", .string "\\ \n")]⟩
    let body := Utf8.encode ("\x7b\"\\u0001\\\"\":[18446744073709551615," ++
      "-9223372036854775808,[],null],\"é\":\"\\\\ \\n\"\x7d")
    loopback.Posts config body ∧ ofBytes body = .ok config := by
  intro words config body
  have hwords : words.Tidy Number.IsWord 126 := .array (by
    simp only [List.forall_mem_cons]
    exact ⟨.number (.natural (by decide)), .number (.negative (by decide) (by decide)),
      .array nofun, .null, nofun⟩)
  have htidy : config.json.Tidy Number.IsWord 127 := .object
    (List.pairwise_pair.2 (by decide +kernel)) (by
      simp only [List.forall_mem_cons]
      exact ⟨hwords, .string _, nofun⟩)
  have hposts : loopback.Posts config body := posts_iff.2 ⟨rfl, by decide, by decide +kernel⟩
  exact ⟨hposts, (posted_reads_back htidy).2.1 loopback body hposts⟩

/-- What is written for a value with finite floats denotes the value. -/
theorem exists_posted {j : Json} {depth : Nat}
    (h : j.Tidy (fun n => ∀ x, n = .float x → x.magnitude.IsFinite) depth) :
    ∃ doc : Document, doc.IsText j.encode ∧ doc.Denotes (fun l n => l.value = n.value) j := by
  obtain ⟨doc, hspells, -, hdenotes⟩ := h.exists_document fun n hn => by
    obtain ⟨l, hbytes, hvalue⟩ := Number.exists_literal hn
    rw [Utf8.encode, Number.render, String.toList_ofList] at hbytes
    exact ⟨l, hbytes, hvalue⟩
  exact ⟨doc, hspells.isText, hdenotes⟩

/-- **A file is posted as the document that it holds, up to numbers that are not kept.** The posted
document has the structure and the strings of the file's, with the last value of each name. A number
is posted with the value of its literal if that is kept, and with another value otherwise. -/
theorem posted_agrees {files : FileSystem} {path : Path} {bytes : Bytes}
    (hbytes : files.read path = .ok bytes) (hfile : ofFile files path = .ok config)
    (hposts : e.Posts config body) :
    (∃! doc : Document, doc.IsText bytes) ∧ (∃! doc : Document, doc.IsText body) ∧
    ∀ doc doc' : Document, doc.IsText bytes → doc'.IsText body →
      doc.Agrees (fun l l' => l'.value = l.value ↔ l.IsKept) doc' ∧
      ((∀ l, doc.Has l → l.IsKept) → doc.Agrees (fun l l' => l'.value = l.value) doc') := by
  have hread : Json.ofBytes bytes = .ok config.json := by
    rw [ofFile, hbytes] at hfile
    exact ofBytes_eq_ok.1 hfile
  obtain ⟨-, -, rfl⟩ := posts_iff.1 hposts
  obtain ⟨doc, hdoc, hwithin, hdenotes⟩ := Json.ofBytes_eq_ok.1 hread
  obtain ⟨doc', hdoc', hdenotes'⟩ :=
    exists_posted (hwithin.tidy hdenotes fun l n hl x hx => hl.isFinite hx)
  have hagrees := hdenotes.agrees hdenotes'
  refine ⟨⟨doc, hdoc, fun other h => h.unique hdoc⟩, ⟨doc', hdoc', fun other h => h.unique hdoc'⟩,
    fun other other' h h' => ?_⟩
  obtain rfl := h.unique hdoc
  obtain rfl := h'.unique hdoc'
  constructor
  · refine hagrees.imp ?_
    rintro l l' - ⟨n, hreads, hvalue⟩
    exact hvalue ▸ Literal.value_eq_iff hreads
  · refine fun hkept => hagrees.imp ?_
    rintro l l' hmem ⟨n, hreads, hvalue⟩
    exact hvalue.trans ((Literal.value_eq_iff hreads).2 (hkept l hmem))

theorem isText_number (l : Literal) :
    (Document.array [.number l]).IsText (0x5b :: (l.bytes ++ [0x5d])) := by
  have hitems : Json.Listed Document.Spells [.number l] ([] ++ (l.bytes ++ [])) :=
    .some (.last Json.isBlank_nil (.number l) Json.isBlank_nil)
  rw [List.nil_append, List.append_nil] at hitems
  exact (Document.Spells.array hitems).isText

theorem exists_posts_of_file {files : FileSystem} {path : Path} (he : e.TakesSegments)
    (hleaves : ∀ config, (e.submitRequest config).leaves = true)
    (h : (ofFile files path).toOption.map (·.json.encode) = some body) :
    ∃ config, ofFile files path = .ok config ∧ e.Posts config body := by
  cases hfile : ofFile files path with
  | error fault =>
    rw [hfile] at h
    cases h
  | ok config =>
    rw [hfile] at h
    exact ⟨config, rfl, posts_iff.2 ⟨he, hleaves config, (Option.some.inj h).symm⟩⟩

/-- A time in milliseconds is posted as it stands. -/
theorem millisecond_number_kept :
    let path : Path := ⟨Utf8.encode "c.json"⟩
    let bytes := Utf8.encode "[1718000000.125]"
    let files := (FileSystem.empty []).withFile path bytes
    ∃ (config : Configuration) (doc doc' : Document), ofFile files path = .ok config ∧
      loopback.Posts config bytes ∧ doc.IsText bytes ∧ doc'.IsText bytes ∧
      doc.Agrees (fun l l' => l'.value = l.value) doc' := by
  intro path bytes files
  let l : Literal := ⟨false, [1, 7, 1, 8, 0, 0, 0, 0, 0, 0], [1, 2, 5], none, by decide, by decide⟩
  obtain ⟨config, hfile, hposts⟩ : ∃ config, ofFile files path = .ok config ∧
      loopback.Posts config bytes :=
    exists_posts_of_file rfl (fun _ => rfl) (by decide +kernel)
  have hread : files.read path = .ok bytes := by decide +kernel
  have htext : (Document.array [.number l]).IsText bytes := isText_number l
  have hkept : ∀ m, (Document.array [.number l]).Has m → m.IsKept := by
    rintro m (_ | ⟨hmem, hm⟩ | _)
    cases List.mem_singleton.1 hmem
    cases hm
    exact Literal.isKept_of_digits_lt (by decide) (by decide) (by simp [l])
  obtain ⟨-, -, hagrees⟩ := posted_agrees hread hfile hposts
  exact ⟨config, _, _, hfile, hposts, htext, htext, (hagrees _ _ htext htext).2 hkept⟩

/-- Digits beyond those of a float get lost on the way. -/
theorem nanosecond_number_changed :
    let path : Path := ⟨Utf8.encode "c.json"⟩
    let bytes := Utf8.encode "[1718000000.123456789]"
    let body := Utf8.encode "[1718000000.1234567]"
    let files := (FileSystem.empty []).withFile path bytes
    ∃ config, ofFile files path = .ok config ∧ loopback.Posts config body ∧
      (∃ doc : Document, doc.IsText bytes) ∧ (∃ doc' : Document, doc'.IsText body) ∧
      ∀ doc doc' : Document, doc.IsText bytes → doc'.IsText body →
        ¬doc.Agrees (fun l l' => l'.value = l.value) doc' := by
  intro path bytes body files
  let l : Literal := ⟨false, [1, 7, 1, 8, 0, 0, 0, 0, 0, 0], [1, 2, 3, 4, 5, 6, 7, 8, 9], none,
    by decide, by decide⟩
  let l' : Literal := ⟨false, [1, 7, 1, 8, 0, 0, 0, 0, 0, 0], [1, 2, 3, 4, 5, 6, 7], none,
    by decide, by decide⟩
  have hne : l'.value ≠ l.value := by
    norm_num [l, l', Literal.value, Literal.magnitude, Literal.digits, Literal.scale]
  obtain ⟨config, hfile, hposts⟩ : ∃ config, ofFile files path = .ok config ∧
      loopback.Posts config body :=
    exists_posts_of_file rfl (fun _ => rfl) (by decide +kernel)
  refine ⟨config, hfile, hposts, ⟨_, isText_number l⟩, ⟨_, isText_number l'⟩, ?_⟩
  rintro doc doc' hdoc hdoc' hagrees
  obtain rfl := hdoc.unique (isText_number l)
  obtain rfl := hdoc'.unique (isText_number l')
  cases hagrees with | array hitems =>
  cases hitems with | cons hitem _ =>
  cases hitem with | number hvalue => exact hne hvalue

end Configuration

end MqttConformance.Run
