import MqttConformance.Proofs.Hearing

/-! How a wait uses an open channel. The first item that stops a wait splits the items of the channel
in two: those before it are read and passed on, and the item says what becomes of those after it
(`Use`). They are left unread after the marker, which has the channel closed, and after a fault;
after a close item they are read up to the next fault and passed on to nobody. -/

namespace MqttConformance

namespace Run.Hearing

open Channel (Item Tail)
open Effect (Ends)

/-- How a wait for a message that satisfies `p` uses an open channel: what it does on it, and how it
ends, by the first item that stops it. -/
structure Use (p : String → Bool) (channel : Channel) (actions : List Action)
    (outcome : Outcome ClientError WaitOutcome) : Prop where
  listens : ∀ action ∈ actions, action.isListening = true
  closes_once : ∀ n, outcome = .done ⟨n, .markerReceived⟩ → actions.count .closeChannel = 1
  closes_only : .closeChannel ∈ actions → ∃ n, outcome = .done ⟨n, .markerReceived⟩
  /-- Nothing is read after the marker, and the channel is closed. -/
  marked {before later : List Item} {item : Item} {message : String}
    (quiet : ∀ i ∈ before, stops p i = false) (split : channel.items = before ++ item :: later)
    (carries : carried item = some message) (marks : p message = true) :
    actions = before.flatMap handling ++ [.receive item, .observe message, .closeChannel] ∧
      outcome = .done ⟨(before.filterMap carried).length + 1, .markerReceived⟩
  /-- After a close item everything up to the first fault is read, and no more; it is neither passed
  on nor counted. -/
  closed {before later : List Item} {reason : Option Channel.CloseReason}
    (quiet : ∀ i ∈ before, stops p i = false)
    (split : channel.items = before ++ .close reason :: later) :
    actions = before.flatMap handling ++
        .receive (.close reason) :: (upTo Item.isFault later).map .receive ∧
      outcome = if channel.tail = .ended ∨ later.any Item.isFault then
          .done ⟨(before.filterMap carried).length, .channelClosed⟩
        else .blocked
  /-- Nothing is read after a fault. -/
  failed {before later : List Item} {fault : Channel.Fault}
    (quiet : ∀ i ∈ before, stops p i = false)
    (split : channel.items = before ++ .fault fault :: later) :
    actions = before.flatMap handling ++ [.receive (.fault fault)] ∧
      outcome = if fault ∈ peerGone then
          .done ⟨(before.filterMap carried).length, .channelClosed⟩
        else .failed (.channel fault)
  /-- Without an item that stops it, the wait reads all there is. -/
  unstopped (quiet : ∀ i ∈ channel.items, stops p i = false) :
    actions = channel.items.flatMap handling ∧
      outcome = if channel.tail = .ended then
          .done ⟨(channel.items.filterMap carried).length, .channelClosed⟩
        else .blocked

variable {p : String → Bool} {tail : Tail} {item : Item} {before items : List Item} {n : Nat}

/-! ## Up to the first item that stops the wait -/

/-- Items that do not stop a wait are each read and passed on. -/
theorem following_append_of_not_stops (h : ∀ i ∈ before, stops p i = false) :
    following p (before ++ items) = before.flatMap handling ++ following p items := by
  induction before with
  | nil => rfl
  | cons first rest ih =>
    obtain ⟨hfirst, hrest⟩ := List.forall_mem_cons.1 h
    rw [List.cons_append, following_cons_of_not_stops hfirst, ih hrest, List.flatMap_cons,
      List.append_assoc]

/-- Items that do not stop a wait only add their messages to the count. -/
theorem verdict_append_of_not_stops (h : ∀ i ∈ before, stops p i = false) :
    verdict p tail (before ++ items) n =
      verdict p tail items (n + (before.filterMap carried).length) := by
  induction before generalizing n with
  | nil => rfl
  | cons first rest ih =>
    obtain ⟨hfirst, hrest⟩ := List.forall_mem_cons.1 h
    have hcount : (((first :: rest).filterMap carried).length) =
        (carried first).toList.length + (rest.filterMap carried).length := by
      cases hm : carried first <;> simp [hm, Nat.add_comm]
    rw [List.cons_append, verdict_cons_of_not_stops hfirst, ih hrest, hcount, Nat.add_assoc]

theorem following_nil : following p [] = [] := rfl

theorem verdict_nil : verdict p tail [] n =
    if tail = .ended then .done ⟨n, .channelClosed⟩ else .blocked := rfl

/-- The channel has a first item that stops the wait, or it has none. -/
theorem exists_first_stop (p : String → Bool) (items : List Item) :
    (∀ i ∈ items, stops p i = false) ∨ ∃ before item later,
      items = before ++ item :: later ∧ stops p item = true ∧ ∀ i ∈ before, stops p i = false := by
  cases hfind : items.find? (stops p) with
  | none => exact .inl fun i hi => Bool.eq_false_iff.2 (List.find?_eq_none.1 hfind i hi)
  | some item =>
    obtain ⟨hstops, before, later, rfl, hquiet⟩ := List.find?_eq_some_iff_append.1 hfind
    exact .inr ⟨before, item, later, rfl, hstops, fun i hi => by simpa using hquiet i hi⟩

/-! ## What is done on the channel -/

theorem count_closeChannel_handling :
    (before.flatMap handling).count .closeChannel = 0 := by
  refine List.count_eq_zero.2 fun h => ?_
  obtain ⟨item, _, h⟩ := List.mem_flatMap.1 h
  cases hm : carried item <;> simp [handling, hm] at h

/-- A wait closes the channel once if the marker ended it, and otherwise leaves it open. -/
theorem count_closeChannel_following (p : String → Bool) (tail : Tail) (items : List Item)
    (n : Nat) : (∃ m, verdict p tail items n = .done ⟨m, .markerReceived⟩) ∧
        (following p items).count .closeChannel = 1 ∨
      (∀ m, verdict p tail items n ≠ .done ⟨m, .markerReceived⟩) ∧
        (following p items).count .closeChannel = 0 := by
  rcases exists_first_stop p items with hquiet | ⟨before, item, later, rfl, hstops, hquiet⟩
  · right
    rw [← items.append_nil, verdict_append_of_not_stops hquiet,
      following_append_of_not_stops hquiet, verdict_nil, following_nil, List.append_nil,
      count_closeChannel_handling]
    refine ⟨fun m => ?_, rfl⟩
    split <;> nofun
  · rw [verdict_append_of_not_stops hquiet, following_append_of_not_stops hquiet,
      List.count_append, count_closeChannel_handling, Nat.zero_add]
    cases hm : carried item with
    | some message =>
      have hp : p message = true := (stops_of_message hm).symm.trans hstops
      rw [verdict_marker hm hp, following_marker hm hp]
      exact .inl ⟨⟨_, rfl⟩, rfl⟩
    | none =>
      right
      cases item with
      | text | binary => cases hm
      | ping | pong | frame => cases hstops
      | fault fault =>
        rw [verdict_fault, following_fault]
        refine ⟨fun m => ?_, rfl⟩
        split <;> nofun
      | close reason =>
        rw [verdict_close, following_close]
        refine ⟨fun m => ?_, List.count_eq_zero.2 ?_⟩
        · split <;> nofun
        · simp

/-- The reference uses the channel as it should. -/
theorem use_following (p : String → Bool) (channel : Channel) :
    Use p channel (following p channel.items) (verdict p channel.tail channel.items 0) where
  listens _ := isListening_of_mem_following
  closes_once n hn := by
    rcases count_closeChannel_following p channel.tail channel.items 0 with
      ⟨_, hcount⟩ | ⟨hnone, _⟩
    · exact hcount
    · exact absurd hn (hnone n)
  closes_only hmem := by
    rcases count_closeChannel_following p channel.tail channel.items 0 with
      ⟨hmarked, _⟩ | ⟨_, hcount⟩
    · exact hmarked
    · exact absurd hmem (List.count_eq_zero.1 hcount)
  marked hquiet hsplit hm hp := by
    rw [hsplit, following_append_of_not_stops hquiet, verdict_append_of_not_stops hquiet,
      following_marker hm hp, verdict_marker hm hp, Nat.zero_add]
    exact ⟨rfl, rfl⟩
  closed hquiet hsplit := by
    rw [hsplit, following_append_of_not_stops hquiet, verdict_append_of_not_stops hquiet,
      following_close, verdict_close, Nat.zero_add]
    exact ⟨rfl, rfl⟩
  failed hquiet hsplit := by
    rw [hsplit, following_append_of_not_stops hquiet, verdict_append_of_not_stops hquiet,
      following_fault, verdict_fault, Nat.zero_add]
    exact ⟨rfl, rfl⟩
  unstopped hquiet := by
    have hfollowing : following p (channel.items ++ []) = _ ++ following p [] :=
      following_append_of_not_stops hquiet
    have hverdict : verdict p channel.tail (channel.items ++ []) 0 = verdict p channel.tail [] _ :=
      verdict_append_of_not_stops hquiet
    rw [List.append_nil, following_nil, List.append_nil] at hfollowing
    rw [List.append_nil, verdict_nil, Nat.zero_add] at hverdict
    exact ⟨hfollowing, hverdict⟩

/-- **What a wait does on an established channel.** It uses the channel as `Use` says. What it does
and how it ends depend on nothing else: not on the rest of its surroundings, and not on what becomes
of the attempt to close the channel. -/
theorem wait_uses_channel (url : Url) (marker : Option String) (channel : Channel) :
    ∃ actions outcome, Use (marks marker) channel actions outcome ∧
      ∀ (services : Services) (world : World) (closing : Except Channel.Fault Unit),
        services.channel url = .ok { channel with closing := closing } →
        ((Waiter.ofMarker url marker).wait.run services world).1 = outcome ∧
        ((Waiter.ofMarker url marker).wait.run services world).2.trace =
          world.trace ++ .connect url :: actions := by
  refine ⟨_, _, use_following (marks marker) channel, fun services world closing h => ?_⟩
  have hw : (Waiter.ofMarker url marker).wait.Ends services world _ _ world.files := wait_ends h rfl
  rw [isMarker_ofMarker] at hw
  exact ⟨hw.outcome_eq, hw.trace_eq⟩

/-- The marker is read and ignored after the close item, and what follows the next fault is not
read. Before a close item the marker has the channel closed, and it does not matter that this
fails. -/
theorem wait_ignores_marker_after_close :
    let url : Url := ⟨"ws", none, some (.domain ['h']), none, .segments ['/'], none, none⟩
    let world : World := ⟨.empty [], [], []⟩
    let services (items : List Item) : Services :=
      { answer := Services.unreachable.answer,
        channel := fun _ => .ok ⟨items, .silent, .error .alreadyClosed⟩ }
    let run (items : List Item) :=
      (Waiter.ofMarker url (some "DONE")).wait.run (services items) world
    let late : List Item :=
      [.text "one", .ping [1], .close none, .text "DONE", .fault (.other "late"), .text "two"]
    let early : List Item := [.text " DONE", .close none]
    (run late).1 = .done ⟨1, .channelClosed⟩ ∧
    (run late).2.trace = [.connect url, .receive (.text "one"), .observe "one",
      .receive (.ping [1]), .receive (.close none), .receive (.text "DONE"),
      .receive (.fault (.other "late"))] ∧
    (run early).1 = .done ⟨1, .markerReceived⟩ ∧
    (run early).2.trace = [.connect url, .receive (.text " DONE"), .observe " DONE",
      .closeChannel] := by
  intro url world services run late early
  have hquiet : ∀ i ∈ ([.text "one", .ping [1]] : List Item),
      stops (marks (some "DONE")) i = false := by
    decide +kernel
  have hmarks : marks (some "DONE") " DONE" = true := by decide +kernel
  obtain ⟨actions, outcome, huse, hrun⟩ :=
    wait_uses_channel url (some "DONE") ⟨late, .silent, .ok ()⟩
  obtain ⟨houtcome, htrace⟩ := hrun (services late) world (.error .alreadyClosed) rfl
  obtain ⟨rfl, rfl⟩ := huse.closed hquiet rfl
  obtain ⟨actions, outcome, huse, hrun⟩ :=
    wait_uses_channel url (some "DONE") ⟨early, .silent, .ok ()⟩
  obtain ⟨houtcome', htrace'⟩ := hrun (services early) world (.error .alreadyClosed) rfl
  obtain ⟨rfl, rfl⟩ := huse.marked (List.forall_mem_nil _) rfl rfl hmarks
  exact ⟨houtcome.trans (by rfl), htrace.trans (by rfl), houtcome', htrace'⟩

end Run.Hearing

end MqttConformance
