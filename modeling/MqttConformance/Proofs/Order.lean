import MqttConformance.Proofs.Course

/-! The order of a run. Whatever the services answer and whatever the channel yields, a run reaches
the services in one fixed order, and it stops before the first of them that it has no reason to
reach. The name that the service gives to the run goes into everything that comes after. -/

namespace MqttConformance.Run

open Channel (Item)

namespace Hearing

theorem filter_following {p : String → Bool} {items : List Item} :
    (following p items).filter Action.isContact = [] :=
  List.filter_eq_nil_iff.2 fun _ h => by simp [isContact_of_mem_following h]

end Hearing

namespace Scene

section

variable (s : Scene) (config : Configuration) (id : Identifier)

/-- Everything through which a run reaches the services, in order. -/
def contacts : List Action := s.opening config id ++ [.send (s.endpoints.downloadRequest id)]

/-- What holds of the run in which `config` is submitted and the service answers with `id`. Each
service is reached only if everything before it has worked out. -/
structure InOrder (actions : List Action) (outcome : Outcome ClientError RunReport)
    (files : FileSystem) : Prop where
  contacts : actions.filter Action.isContact <+: s.contacts config id
  loaded : 0 < actions.countP Action.isContact → s.Loaded config
  submitted : 1 < actions.countP Action.isContact → s.Submitted config id
  started : 2 < actions.countP Action.isContact → s.Started config id
  waited : 3 < actions.countP Action.isContact → ∃ channel wait, s.Waited config id channel wait
  observed {before message after} : actions = before ++ .observe message :: after →
    before.filter Action.isContact = s.opening config id
  report {report} : outcome = .done report → report.run = id ∧
    report.download.path = s.archivePath id ∧ actions.filter Action.isContact = s.contacts config id
  archive {place} : files.node? place ≠ s.world.files.node? place →
    actions.filter Action.isContact = s.contacts config id ∧
      ∃ created, s.world.files.create (s.archivePath id) = .ok (place, created)

end

variable {s : Scene} {config : Configuration} {id : Identifier} {channel : Channel}
variable {wait : WaitOutcome} {actions last : List Action} {files : FileSystem}
variable {outcome : Outcome ClientError RunReport}

theorem filter_opening : (s.opening config id).filter Action.isContact = s.opening config id := rfl

/-- A run that ends before the wait has done a part of the opening. -/
theorem inOrder_of_opening {n : Nat} {error : ClientError}
    (ha : actions = (s.opening config id).take n) (hl : 0 < n → s.Loaded config)
    (hs : 1 < n → s.Submitted config id) (ht : 2 < n → s.Started config id) :
    s.InOrder config id actions (.failed error) s.world.files := by
  subst ha
  have hall {action : Action} (h : action ∈ (s.opening config id).take n) :
      action.isContact = true := by
    have hmem := List.mem_of_mem_take h
    rw [← filter_opening] at hmem
    exact (List.mem_filter.1 hmem).2
  have hfilter := List.filter_eq_self.2 fun _ => hall
  have hcount : ((s.opening config id).take n).countP Action.isContact = min n 3 := by
    rw [List.countP_eq_length_filter, hfilter, List.length_take]
    rfl
  refine ⟨?_, ?_, ?_, ?_, ?_, ?_, nofun, fun h => absurd rfl h⟩
  · rw [hfilter]
    exact (List.take_prefix _ _).trans (List.prefix_append _ _)
  · exact fun h => hl (by omega)
  · exact fun h => hs (by omega)
  · exact fun h => ht (by omega)
  · exact fun h => by omega
  · intro before message after h
    cases hall (h ▸ List.mem_append_right _ List.mem_cons_self)

/-- Where an action stands that is only in the middle of a list. -/
theorem before_of_middle {first middle before after : List Action} {action : Action}
    (h : first ++ (middle ++ last) = before ++ action :: after) (hf : action ∉ first)
    (hl : action ∉ last) : ∃ between, before = first ++ between ∧ between <+: middle := by
  rcases List.append_eq_append_iff.1 h with ⟨between, hb, hrest⟩ | ⟨rest, rfl, hrest⟩
  · refine ⟨between, hb, ?_⟩
    rcases List.append_eq_append_iff.1 hrest with ⟨rest, _, hlast⟩ | ⟨rest, hmiddle, _⟩
    · exact absurd (hlast ▸ List.mem_append_right _ List.mem_cons_self) hl
    · exact ⟨rest, hmiddle.symm⟩
  · cases rest with
    | nil => exact ⟨[], by simp, List.nil_prefix⟩
    | cons next rest =>
      obtain ⟨rfl, _⟩ := List.cons.inj hrest
      exact absurd (List.mem_append_right _ List.mem_cons_self) hf

/-- A run that begins to wait has done the whole opening, and then at most the download. -/
theorem inOrder_of_following (channel : Channel) (last : List Action) (hs : s.Started config id)
    (ha : actions = s.opening config id ++ (Hearing.following s.marks channel.items ++ last))
    (hlast : last = [] ∨ last = [.send (s.endpoints.downloadRequest id)] ∧
      ∃ wait, s.Waited config id channel wait)
    (hr : ∀ report, outcome = .done report → last ≠ [] ∧ report.run = id ∧
      report.download.path = s.archivePath id)
    (hf : ∀ place, files.node? place ≠ s.world.files.node? place → last ≠ [] ∧
      ∃ created, s.world.files.create (s.archivePath id) = .ok (place, created)) :
    s.InOrder config id actions outcome files := by
  have hfilter : actions.filter Action.isContact = s.opening config id ++ last := by
    rw [ha, List.filter_append, List.filter_append, Hearing.filter_following, filter_opening]
    rcases hlast with rfl | ⟨rfl, _⟩ <;> rfl
  have hcontacts (h : last ≠ []) : actions.filter Action.isContact = s.contacts config id := by
    rcases hlast with rfl | ⟨rfl, _⟩
    · exact absurd rfl h
    · exact hfilter
  refine ⟨?_, fun _ => hs.1.loaded, fun _ => hs.1, fun _ => hs, ?_, ?_, ?_, ?_⟩
  · rw [hfilter]
    rcases hlast with rfl | ⟨rfl, _⟩
    · exact (List.append_nil _).symm ▸ List.prefix_append _ _
    · exact List.prefix_rfl
  · intro h
    rw [List.countP_eq_length_filter, hfilter] at h
    rcases hlast with rfl | ⟨_, wait, hw⟩
    · exact absurd h (Nat.lt_irrefl 3)
    · exact ⟨channel, wait, hw⟩
  · intro before message after h
    have hopening : Action.observe message ∉ s.opening config id := by simp [opening]
    have hnot : Action.observe message ∉ last := by rcases hlast with rfl | ⟨rfl, _⟩ <;> simp
    obtain ⟨between, rfl, rest, hrest⟩ := before_of_middle (ha.symm.trans h) hopening hnot
    have hquiet : (Hearing.following s.marks channel.items).filter Action.isContact = [] :=
      Hearing.filter_following
    rw [← hrest, List.filter_append, List.append_eq_nil_iff] at hquiet
    rw [List.filter_append, hquiet.1, filter_opening, List.append_nil]
  · intro report h
    obtain ⟨hne, hid, hpath⟩ := hr report h
    exact ⟨hid, hpath, hcontacts hne⟩
  · intro place h
    obtain ⟨hne, hcreated⟩ := hf place h
    exact ⟨hcontacts hne, hcreated⟩

/-- A run that does not get past the wait. -/
theorem inOrder_of_waiting (hs : s.Started config id) (hr : ∀ report, outcome ≠ .done report) :
    s.InOrder config id (s.opening config id ++ Hearing.following s.marks channel.items) outcome
      s.world.files :=
  inOrder_of_following channel [] hs (by rw [List.append_nil]) (.inl rfl)
    (fun report h => absurd h (hr report)) fun _ h => absurd rfl h

/-- A run that reaches the download. -/
theorem inOrder_of_fetching (hw : s.Waited config id channel wait)
    (hr : ∀ report, outcome = .done report → report.run = id ∧
      report.download.path = s.archivePath id)
    (hf : ∀ place, files.node? place ≠ s.world.files.node? place →
      ∃ created, s.world.files.create (s.archivePath id) = .ok (place, created)) :
    s.InOrder config id (s.fetching config id channel) outcome files :=
  inOrder_of_following channel _ hw.1 (List.append_assoc _ _ _) (.inr ⟨rfl, wait, hw⟩)
    (fun report h => ⟨List.cons_ne_nil _ _, hr report h⟩)
    (fun place h => ⟨List.cons_ne_nil _ _, hf place h⟩)

/-- The archive is the only file that a run changes. -/
theorem created_of_ne {place l : Location} {created : FileSystem}
    (hc : s.world.files.create (s.archivePath id) = .ok (place, created))
    (hf : l ≠ place → files.node? l = created.node? l)
    (h : files.node? l ≠ s.world.files.node? l) :
    ∃ created, s.world.files.create (s.archivePath id) = .ok (l, created) := by
  by_cases hl : l = place
  · exact hl ▸ ⟨created, hc⟩
  · exact absurd ((hf hl).trans (FileSystem.node?_create hc hl)) h

theorem Course.inOrder (h : s.Course actions outcome files) :
    ∃ config id, s.InOrder config id actions outcome files := by
  cases h with
  | unloaded => exact ⟨⟨.null⟩, ⟨"x", by decide⟩, inOrder_of_opening (n := 0) rfl nofun nofun nofun⟩
  | @unsubmitted config error hc h =>
    let id : Identifier := ⟨"x", by decide⟩
    have hinOrder (n : Nat) (hn : n ≤ 1) :
        s.InOrder config id ((s.opening config id).take n) (.failed error) s.world.files :=
      inOrder_of_opening rfl (fun _ => hc) (by omega) (by omega)
    refine ⟨config, id, ?_⟩
    unfold Http.Request.sends
    split
    · exact hinOrder 1 (Nat.le_refl 1)
    · exact hinOrder 0 (Nat.zero_le 1)
  | unstarted hs h =>
    exact ⟨_, _, inOrder_of_opening (n := 2) rfl (fun _ => hs.loaded) (fun _ => hs) (by omega)⟩
  | unopened hs h =>
    exact ⟨_, _, inOrder_of_opening (n := 3) rfl (fun _ => hs.1.loaded) (fun _ => hs.1)
      (fun _ => hs)⟩
  | unfinished hs hc h | waiting hs hc h =>
    exact ⟨_, _, inOrder_of_waiting hs nofun⟩
  | unfetched hw h => exact ⟨_, _, inOrder_of_fetching hw nofun fun _ h => absurd rfl h⟩
  | uncreated hf h => exact ⟨_, _, inOrder_of_fetching hf.1 nofun fun _ h => absurd rfl h⟩
  | crashed hf hc h =>
    exact ⟨_, _, inOrder_of_fetching hf.1 nofun fun _ => created_of_ne hc fun _ => rfl⟩
  | unstored hf hc hb h =>
    exact ⟨_, _, inOrder_of_fetching hf.1 nofun fun _ => created_of_ne hc Downloader.node?_filled⟩
  | finished hf hc hb h =>
    refine ⟨_, _, inOrder_of_fetching hf.1 ?_ fun _ => created_of_ne hc Downloader.node?_filled⟩
    rintro report ⟨⟩
    exact ⟨rfl, rfl⟩

/-- A wait that does not end leaves the run without its last request. -/
theorem InOrder.not_fetched (h : s.InOrder config id actions outcome files)
    (hw : ∀ channel wait, ¬s.Waited config id channel wait) {request : Http.Request}
    (hr : Action.send request ∈ actions) : request.api ≠ .download := by
  have hcount : actions.countP Action.isContact ≤ (s.opening config id).length := by
    refine Nat.le_of_not_lt fun hlt => ?_
    obtain ⟨channel, wait, h⟩ := h.waited hlt
    exact hw channel wait h
  rw [List.countP_eq_length_filter] at hcount
  have hopening := List.prefix_of_prefix_length_le h.contacts (List.prefix_append _ _) hcount
  have hmem := hopening.subset (List.mem_filter.2 ⟨hr, rfl⟩)
  simp only [opening, List.mem_cons, List.not_mem_nil, or_false, Action.send.injEq, reduceCtorEq]
    at hmem
  rcases hmem with rfl | rfl <;> nofun

/-! ## More to hear -/

/-- The scene with a channel behind every URL. -/
def hearing (s : Scene) (channel : Channel) : Scene :=
  { s with services := { s.services with channel := fun _ => .ok channel } }

/-- What a run has done while the channel is silent, it has also done if more items come. -/
theorem trace_grows (he : s.endpoints.TakesSegments) (items more : List Item) (tail : Channel.Tail)
    (closing : Except Channel.Fault Unit) :
    let trace (channel : Channel) :=
      ((s.runner.runAll s.path).run (s.hearing channel).services s.world).2.trace
    trace ⟨items, .silent, closing⟩ <+: trace ⟨items ++ more, tail, closing⟩ := by
  intro trace
  rcases submit_course he with ⟨actions, error, _, hends⟩ | ⟨config, id, body, hs, hends⟩
  · have htrace (channel : Channel) : trace channel = s.world.trace ++ actions :=
      (Effect.Ends.bind_failed (hends _)).trace_eq
    exact (htrace _).trans (htrace _).symm ▸ List.prefix_rfl
  · have htrace (channel : Channel) : trace channel = s.world.trace ++
        (s.opening config id ++ Hearing.following s.marks channel.items ++
          s.concluding id (Hearing.verdict s.marks channel.tail channel.items 0)) := by
      obtain ⟨_, _, _, h⟩ := follow_course (s := s.hearing channel) he hs rfl (hends _)
      exact h.trace_eq
    obtain ⟨hmore, hsame⟩ := @Hearing.following_append s.marks items 0 more tail
    rw [htrace, htrace, List.prefix_append_right_inj, List.append_assoc, List.append_assoc,
      List.prefix_append_right_inj]
    by_cases hblocked : Hearing.verdict s.marks .silent items 0 = .blocked
    · simp only [hblocked, concluding, List.append_nil]
      exact hmore.trans (List.prefix_append _ _)
    · obtain ⟨hfollowing, hverdict⟩ := hsame hblocked
      simp only [hfollowing, hverdict]
      exact List.prefix_rfl

end Scene

/-- A run submits its configuration, starts the run that the service names, opens the channel and
fetches the archive, in this order, and it comes to each of them only when all before it have worked
out. On a channel that falls silent before anything stops the wait, the archive is not asked for;
endless events are heard one after another, and each of them only adds to what has been done. -/
theorem Runner.runAll_in_order {config : Config.Client} {r : Runner} {services₀ : Services}
    {world₀ world₁ : World} (hr : (Runner.build config).run services₀ world₀ = (.done r, world₁)) :
    ∃ e, Endpoints.ofConfig config.endpoints = .ok e ∧
      (∀ submission id, e.submitUrl = .ok (e.submitRequest submission).url ∧
        e.startUrl id = .ok (e.startRequest id).url ∧
        e.downloadUrl id = .ok (e.downloadRequest id).url) ∧
      (∀ services world path, ∃ actions submission id,
        let s : Scene := ⟨e, config, services, world, path⟩
        let ended := (r.runAll path).run services world
        ended.2.trace = world.trace ++ actions ∧
        s.InOrder submission id actions ended.1 ended.2.files ∧
        ∀ channel, services.channel e.notification = .ok channel → channel.tail = .silent →
          (∀ item ∈ channel.items, Hearing.stops s.marks item = false) →
          ∀ request, .send request ∈ actions → request.api ≠ .download) ∧
      ∀ (events : Nat → Item) (services : Services) closing world path n,
        let trace (n : Nat) :=
          let channel : Channel := ⟨(List.range n).map events, .silent, closing⟩
          let heard : Services := { services with channel := fun _ => .ok channel }
          ((r.runAll path).run heard world).2.trace
        trace n <+: trace (n + 1) := by
  obtain ⟨e, hofConfig, he, rfl⟩ := endpoints_of_build hr
  refine ⟨e, hofConfig, fun _ id => ⟨Endpoints.submitUrl_eq he, Endpoints.startUrl_eq he id,
    Endpoints.downloadUrl_eq he id⟩, fun services world path => ?_, ?_⟩
  · let s : Scene := ⟨e, config, services, world, path⟩
    obtain ⟨actions, outcome, files, hcourse, hends⟩ := s.runAll_course he
    obtain ⟨submission, id, hinOrder⟩ := hcourse.inOrder
    refine ⟨actions, submission, id, hends.trace_eq, ?_, ?_⟩
    · exact hends.outcome_eq.symm ▸ hends.files_eq.symm ▸ hinOrder
    · intro channel hc htail hstops request hmem
      refine hinOrder.not_fetched ?_ hmem
      rintro heard wait ⟨_, hheard, hv⟩
      cases hc.symm.trans hheard
      rw [htail, Hearing.verdict_of_not_stops hstops] at hv
      cases hv
  · intro events services closing world path n trace
    let s : Scene := ⟨e, config, services, world, path⟩
    have hgrows := s.trace_grows he ((List.range n).map events) [events n] .silent closing
    have hmap : (List.range (n + 1)).map events = (List.range n).map events ++ [events n] := by
      rw [List.range_succ, List.map_append]
      rfl
    rw [← hmap] at hgrows
    exact hgrows

/-- A service that answers every request with the same time stamp, and a message on its channel. -/
theorem Runner.answered_run_in_order :
    let config : Config.Client := { endpoints := ⟨"http://[::1]/", "ws://[::1]/"⟩ }
    let base : Url :=
      ⟨"http", none, some (.ipv6 [0, 0, 0, 0, 0, 0, 0, 1]), none, .segments ['/'], none, none⟩
    let e : Endpoints := ⟨base, { base with scheme := "ws" }⟩
    let path : Path := .ofText "config.json"
    let world : World := { files := (FileSystem.empty []).withFile path (Utf8.encode "[]") }
    let body : Http.Body := { chunks := [Utf8.encode "\x7b\"timestamp\":7\x7d"] }
    let services : Services :=
      { answer := fun _ r => .ok ⟨⟨200⟩, r.url, body⟩
        channel := fun _ => .ok ⟨[.text "ready"], .ended, .ok ()⟩ }
    let r := Runner.ofEndpoints e config
    (Runner.build config).run services world = (.done r, world) ∧ ∃ actions submission id,
      let ended := (r.runAll path).run services world
      ended.2.trace = actions ∧
      (Scene.mk e config services world path).InOrder submission id actions ended.1
        ended.2.files := by
  intro config base e path world body services r
  have he : Endpoints.ofConfig config.endpoints = .ok e := by cbv
  have hr : (Runner.build config).run services world = (.done r, world) := by cbv
  refine ⟨hr, ?_⟩
  obtain ⟨e', he', _, horder, _⟩ := runAll_in_order hr
  cases he'.symm.trans he
  obtain ⟨actions, submission, id, htrace, hinOrder, _⟩ := horder services world path
  exact ⟨actions, submission, id, htrace, hinOrder⟩

end MqttConformance.Run
