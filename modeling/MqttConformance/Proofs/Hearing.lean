import MqttConformance.Proofs.Effect
import MqttConformance.Run.Wait

/-! What a wait hears on a channel, and how it ends. The reference does not follow the channel item
by item: it looks for the first item that stops the wait, which is a message that is the completion
marker, a close item or a fault. The messages up to that item are heard, and the item decides how
the wait ends; without one, the tail of the channel does. Which items carry a message, and which
faults are no failure, the reference says for itself (`carried`, `peerGone`). -/

namespace MqttConformance

namespace Channel.Item

def isFault : Item → Bool
  | .fault _ => true
  | _ => false

end Channel.Item

namespace Run.Hearing

open Channel (Item Tail)
open Effect (Ends)

/-- The elements of a list up to and including the first that satisfies a condition. -/
def upTo {α : Type} (p : α → Bool) (l : List α) : List α :=
  l.takeWhile (!p ·) ++ (l.find? p).toList

/-- Whether a message is the completion marker: a marker of blanks alone is none, and blanks around
either text do not count. -/
def marks (marker : Option String) (message : String) : Bool :=
  marker.any fun m => !(Text.trimChars m.toList).isEmpty &&
    Text.trimChars message.toList == Text.trimChars m.toList

/-- The message that an item carries: a text as it is, and bytes as the text they decode to, with
replacement characters where they are none. -/
def carried : Item → Option String
  | .text message => some message
  | .binary bytes => some (Utf8.decodeLossy bytes)
  | .ping _ | .pong _ | .frame _ | .close _ | .fault _ => none

/-- The faults that only say that the other side has gone: the connection is closed, or has been
before, or it was reset without a closing handshake. -/
def peerGone : List Channel.Fault := [.closed, .alreadyClosed, .reset]

section

variable (p : String → Bool)

/-- Whether an item stops a wait for a message that satisfies `p`. -/
def stops : Item → Bool
  | .close _ | .fault _ => true
  | item => (carried item).any p

/-- The messages that a wait hears. -/
def heard (items : List Item) : List String := (upTo (stops p) items).filterMap carried

/-- How a wait with `before` messages behind it ends. After a close item it reads on, and a channel
that neither ends nor fails then holds it up for ever. -/
def verdict (tail : Tail) (items : List Item) (before : Nat) : Outcome ClientError WaitOutcome :=
  let closed : WaitOutcome := ⟨before + (heard p items).length, .channelClosed⟩
  match items.find? (stops p) with
  | none => if tail = .ended then .done closed else .blocked
  | some (.close _) => if tail = .ended ∨ items.any Item.isFault then .done closed else .blocked
  | some (.fault fault) => if fault ∈ peerGone then .done closed else .failed (.channel fault)
  | some _ => .done ⟨before + (heard p items).length, .markerReceived⟩

/-- What a wait does for one item. -/
def handling (item : Item) : List Action :=
  .receive item :: (carried item).toList.map .observe

/-- What a wait does after the item that stopped it. -/
def aftermath (items : List Item) : List Action :=
  match items.dropWhile (!stops p ·) with
  | [] | .fault _ :: _ => []
  | .close _ :: later => (upTo Item.isFault later).map .receive
  | _ :: _ => [.closeChannel]

/-- Everything that a wait does on an open channel. -/
def following (items : List Item) : List Action :=
  (upTo (stops p) items).flatMap handling ++ aftermath p items

end

variable {p : String → Bool} {tail : Tail} {item : Item} {items : List Item} {before : Nat}
variable {services : Services} {world : World} {files : FileSystem}

@[simp] theorem stops_close {reason : Option Channel.CloseReason} :
    stops p (.close reason) = true := rfl

@[simp] theorem stops_fault {fault : Channel.Fault} : stops p (.fault fault) = true := rfl

@[simp] theorem isFault_close {reason : Option Channel.CloseReason} :
    (Item.close reason).isFault = false := rfl

@[simp] theorem upTo_nil {α : Type} {q : α → Bool} : upTo q [] = [] := rfl

theorem upTo_cons {α : Type} {q : α → Bool} {a : α} {l : List α} :
    upTo q (a :: l) = if q a then [a] else a :: upTo q l := by
  unfold upTo
  cases h : q a <;> simp [h]

theorem isMarker_ofMarker (url : Url) (marker : Option String) :
    (Waiter.ofMarker url marker).isMarker = marks marker := by
  funext message
  cases marker with
  | none => rfl
  | some m =>
    cases h : (Text.trimChars m.toList).isEmpty <;>
      simp [Waiter.ofMarker, Waiter.isMarker, marks, Option.filter, h]

theorem isPeerGone_iff {fault : Channel.Fault} : fault.isPeerGone = true ↔ fault ∈ peerGone := by
  cases fault <;> simp [Channel.Fault.isPeerGone, peerGone]

/-! ## One item more -/

theorem stops_of_message {message : String} (hm : carried item = some message) :
    stops p item = p message := by
  cases item <;> cases hm <;> rfl

theorem heard_cons_of_not_stops (h : stops p item = false) :
    heard p (item :: items) = (carried item).toList ++ heard p items := by
  cases hm : carried item <;> simp [heard, upTo_cons, h, hm]

theorem isFault_of_not_stops (h : stops p item = false) : item.isFault = false := by
  cases item with
  | fault => cases h
  | _ => rfl

theorem verdict_cons_of_not_stops (h : stops p item = false) :
    verdict p tail (item :: items) before =
      verdict p tail items (before + (carried item).toList.length) := by
  simp only [verdict, List.find?_cons, h, heard_cons_of_not_stops h, List.length_append,
    List.any_cons, isFault_of_not_stops h, Bool.false_or, Nat.add_assoc]

theorem following_cons_of_not_stops (h : stops p item = false) :
    following p (item :: items) = handling item ++ following p items := by
  simp [following, aftermath, upTo_cons, h]

theorem verdict_ne_crashed {message : String} : verdict p tail items before ≠ .crashed message := by
  unfold verdict
  repeat' split
  all_goals nofun

theorem verdict_close {reason : Option Channel.CloseReason} :
    verdict p tail (.close reason :: items) before =
      if tail = .ended ∨ items.any Item.isFault then .done ⟨before, .channelClosed⟩
      else .blocked := by
  simp [verdict, heard, upTo_cons, List.find?_cons, List.filterMap_cons, carried]

theorem verdict_fault {fault : Channel.Fault} : verdict p tail (.fault fault :: items) before =
    if fault ∈ peerGone then .done ⟨before, .channelClosed⟩ else .failed (.channel fault) := by
  simp [verdict, heard, upTo_cons, List.find?_cons, List.filterMap_cons, carried]

theorem verdict_marker {message : String} (hm : carried item = some message)
    (hp : p message = true) :
    verdict p tail (item :: items) before = .done ⟨before + 1, .markerReceived⟩ := by
  have hs : stops p item = true := (stops_of_message hm).trans hp
  cases item <;> cases hm <;> simp [verdict, heard, upTo_cons, hs, carried]

theorem following_close {reason : Option Channel.CloseReason} :
    following p (.close reason :: items) =
      .receive (.close reason) :: (upTo Item.isFault items).map .receive := by
  simp [following, aftermath, upTo_cons, handling, carried]

theorem following_fault {fault : Channel.Fault} :
    following p (.fault fault :: items) = [.receive (.fault fault)] := by
  simp [following, aftermath, upTo_cons, handling, carried]

theorem following_marker {message : String} (hm : carried item = some message)
    (hp : p message = true) :
    following p (item :: items) = [.receive item, .observe message, .closeChannel] := by
  have hs : stops p item = true := (stops_of_message hm).trans hp
  cases item <;> cases hm <;>
    simp [following, aftermath, upTo_cons, hs, handling, carried]

/-! ## Items to come -/

theorem upTo_append {α : Type} {q : α → Bool} {l more : List α} :
    upTo q (l ++ more) = upTo q l ++ if l.any q then [] else upTo q more := by
  induction l with
  | nil => rfl
  | cons a l ih => cases h : q a <;> simp [upTo_cons, h, ih]

/-- While nothing stops a wait on a silent channel, it goes on. -/
theorem verdict_of_not_stops (h : ∀ item ∈ items, stops p item = false) :
    verdict p .silent items before = .blocked := by
  have hfind : items.find? (stops p) = none :=
    List.find?_eq_none.2 fun item hi => by simp [h item hi]
  simp [verdict, hfind]

/-- More items only add to what a wait does, and once it has ended they change nothing. -/
theorem following_append (more : List Item) (tail : Tail) :
    following p items <+: following p (items ++ more) ∧
      (verdict p .silent items before ≠ .blocked → following p (items ++ more) = following p items ∧
        verdict p tail (items ++ more) before = verdict p .silent items before) := by
  induction items generalizing before with
  | nil => exact ⟨List.nil_prefix, fun h => absurd (verdict_of_not_stops (List.forall_mem_nil _)) h⟩
  | cons item items ih =>
    rw [List.cons_append]
    cases hs : stops p item with
    | false =>
      simp only [following_cons_of_not_stops hs, verdict_cons_of_not_stops hs]
      obtain ⟨hmore, hsame⟩ := @ih (before + (carried item).toList.length)
      refine ⟨(List.prefix_append_right_inj _).2 hmore, fun h => ?_⟩
      obtain ⟨hfollowing, hverdict⟩ := hsame h
      exact ⟨congrArg _ hfollowing, hverdict⟩
    | true =>
      cases hm : carried item with
      | some message =>
        have hp : p message = true := (stops_of_message hm).symm.trans hs
        simp only [following_marker hm hp, verdict_marker hm hp]
        exact ⟨List.prefix_rfl, fun _ => ⟨trivial, trivial⟩⟩
      | none =>
        cases item with
        | text | binary => cases hm
        | ping | pong | frame => cases hs
        | fault fault =>
          simp only [following_fault, verdict_fault]
          exact ⟨List.prefix_rfl, fun _ => ⟨trivial, trivial⟩⟩
        | close reason =>
          simp only [following_close, verdict_close, upTo_append, List.any_append]
          cases items.any Item.isFault <;> simp

/-! ## The effects -/

/-- What is read after a close item: everything up to the first fault. -/
theorem drain_ends (hf : world.files = files) : (Waiter.drain tail items).Ends services world
    (if tail = .ended ∨ items.any Item.isFault then .done () else .blocked)
    ((upTo Item.isFault items).map .receive) files := by
  induction items generalizing world with
  | nil =>
    cases tail with
    | ended => exact .pure hf
    | silent => exact .block hf
  | cons item items ih =>
    unfold Waiter.drain
    by_cases hfault : item.isFault = true
    · obtain ⟨fault, rfl⟩ : ∃ fault, item = .fault fault := by
        cases item with
        | fault fault => exact ⟨fault, rfl⟩
        | _ => cases hfault
      simp only [upTo_cons, hfault, List.any_cons, Bool.true_or, or_true, if_true]
      refine (Ends.act hf).bind_then_quiet fun world₁ hf => ?_
      cases fault.isPeerGone with
      | true => exact .pure hf
      | false => exact .report hf
    · simp only [upTo_cons, hfault, List.any_cons, Bool.false_or, if_false, Bool.false_eq_true]
      refine (Ends.act hf).bind fun world₁ _ hf => ?_
      cases item with
      | fault => exact absurd rfl hfault
      | _ => exact .bind_quiet (.report hf) fun _ _ hf => ih hf

theorem close_ends {closing : Except Channel.Fault Unit} (hf : world.files = files) :
    (Waiter.close closing).Ends services world (.done ()) [.closeChannel] files := by
  unfold Waiter.close
  refine (Ends.act hf).bind_then_quiet fun world₁ hf => ?_
  exact .bind_quiet (.passed hf) fun _ _ hf => .pure hf

theorem deliver_ends {count : Nat} {message : String} (hf : world.files = files) :
    (Waiter.deliver count message).Ends services world (.done ()) [.observe message] files :=
  .bind_quiet (.report hf) fun _ _ hf => .act hf

theorem follow_message {w : Waiter} {channel : Channel} {count : Nat} {message : String}
    (hm : carried item = some message) :
    w.follow channel (item :: items) count = (do
      Effect.act (.receive item)
      Waiter.deliver (count + 1) message
      if w.isMarker message then
        Effect.report (Waiter.markerEvent (count + 1))
        Waiter.close channel.closing
        return ⟨count + 1, .markerReceived⟩
      else w.follow channel items (count + 1)) := by
  cases item <;> cases hm <;> rfl

theorem follow_ends {w : Waiter} {channel : Channel} {count : Nat} (hf : world.files = files) :
    (w.follow channel items count).Ends services world
      (verdict w.isMarker channel.tail items count) (following w.isMarker items) files := by
  induction items generalizing world count with
  | nil =>
    unfold Waiter.follow
    cases ht : channel.tail with
    | ended => exact .bind_quiet (.report hf) fun _ _ hf => .pure hf
    | silent => exact .block hf
  | cons item items ih =>
    cases hm : carried item with
    | some message =>
      rw [follow_message hm]
      cases hp : w.isMarker message with
      | true =>
        rw [verdict_marker hm hp, following_marker hm hp]
        refine (Ends.act hf).bind fun _ _ hf => (deliver_ends hf).bind fun _ _ hf => ?_
        refine .bind_quiet (.report hf) fun _ _ hf => ?_
        exact (close_ends hf).bind_then_quiet fun _ hf => .pure hf
      | false =>
        have hs : stops w.isMarker item = false := (stops_of_message hm).trans hp
        rw [verdict_cons_of_not_stops hs, following_cons_of_not_stops hs, handling, hm]
        refine (Ends.act hf).bind fun _ _ hf => (deliver_ends hf).bind fun _ _ hf => ?_
        exact ih hf
    | none =>
      unfold Waiter.follow
      cases item with
      | text | binary => cases hm
      | ping | pong | frame =>
        rw [verdict_cons_of_not_stops rfl, following_cons_of_not_stops rfl]
        exact (Ends.act hf).bind fun _ _ hf => ih hf
      | fault fault =>
        rw [verdict_fault, following_fault]
        refine (Ends.act hf).bind_then_quiet fun world₁ hf => ?_
        dsimp only
        by_cases hgone : fault ∈ peerGone
        · rw [if_pos hgone, if_pos (isPeerGone_iff.2 hgone)]
          exact .bind_quiet (.report hf) fun _ _ hf => .pure hf
        · rw [if_neg hgone, if_neg (mt isPeerGone_iff.1 hgone)]
          exact .fail hf
      | close reason =>
        rw [verdict_close, following_close]
        refine (Ends.act hf).bind fun world₁ _ hf => ?_
        refine .bind_quiet (.report hf) fun world₂ _ hf => ?_
        have hdrain : (Waiter.drain channel.tail items).Ends services world₂ _ _ files :=
          drain_ends hf
        by_cases hend : channel.tail = .ended ∨ items.any Item.isFault
        · rw [if_pos hend] at hdrain ⊢
          exact hdrain.bind_then_quiet fun _ hf => .pure hf
        · rw [if_neg hend] at hdrain ⊢
          exact hdrain.bind_blocked

theorem connect_ends {w : Waiter} (hf : world.files = files) : w.connect.Ends services world
    (.ofExcept ((services.channel w.url).mapError .channel)) [.connect w.url] files := by
  unfold Waiter.connect
  refine (Ends.act hf).bind_then_quiet fun _ hf => ?_
  exact .bind_quiet (.readServices hf) fun _ _ hf => .lift hf

/-- Before the channel is opened, a wait only logs. -/
theorem wait_ends_of_connect {w : Waiter} {outcome : Outcome ClientError WaitOutcome}
    {actions : List Action} (hf : world.files = files)
    (h : ∀ {world : World}, world.files = files →
      (w.connect >>= fun channel => w.follow channel channel.items 0).Ends services world outcome
        actions files) :
    w.wait.Ends services world outcome actions files := by
  unfold Waiter.wait
  exact .bind_quiet (.report hf) fun _ _ hf => .bind_quiet (.passed hf) fun _ _ hf => h hf

theorem wait_ends {w : Waiter} {channel : Channel} (h : services.channel w.url = .ok channel)
    (hf : world.files = files) :
    w.wait.Ends services world (verdict w.isMarker channel.tail channel.items 0)
      (.connect w.url :: following w.isMarker channel.items) files := by
  refine wait_ends_of_connect hf fun hf => ?_
  have hc : w.connect.Ends services _ _ _ files := connect_ends hf
  rw [h] at hc
  exact hc.bind fun _ _ hf => follow_ends hf

theorem wait_fails {w : Waiter} {fault : Channel.Fault} (h : services.channel w.url = .error fault)
    (hf : world.files = files) :
    w.wait.Ends services world (.failed (.channel fault)) [.connect w.url] files := by
  refine wait_ends_of_connect hf fun hf => ?_
  have hc : w.connect.Ends services _ _ _ files := connect_ends hf
  rw [h] at hc
  exact hc.bind_failed

/-! ## What is observed -/

theorem observed_handling : (handling item).filterMap Action.observed? =
    (carried item).toList := by
  cases h : carried item <;> simp [handling, h, List.filterMap_cons, Action.observed?]

theorem observed_aftermath : (aftermath p items).filterMap Action.observed? = [] := by
  unfold aftermath
  split
  · rfl
  · rfl
  · simp [List.filterMap_eq_nil_iff, Action.observed?]
  · rfl

theorem observed_following : (following p items).filterMap Action.observed? = heard p items := by
  unfold following heard
  rw [List.filterMap_append, observed_aftermath, List.append_nil]
  induction upTo (stops p) items with
  | nil => rfl
  | cons item rest ih =>
    rw [List.flatMap_cons, List.filterMap_append, observed_handling, ih, List.filterMap_cons]
    cases carried item <;> rfl

theorem isListening_of_mem_handling {action : Action} (h : action ∈ handling item) :
    action.isListening = true := by
  rcases List.mem_cons.1 h with rfl | h
  · rfl
  · obtain ⟨message, _, rfl⟩ := List.mem_map.1 h
    rfl

theorem isListening_of_mem_aftermath {action : Action} (h : action ∈ aftermath p items) :
    action.isListening = true := by
  unfold aftermath at h
  split at h
  · cases h
  · cases h
  · obtain ⟨item, _, rfl⟩ := List.mem_map.1 h
    rfl
  · cases List.mem_singleton.1 h
    rfl

/-- On an open channel a wait reads, passes on and closes, and does nothing else. -/
theorem isListening_of_mem_following {action : Action} (h : action ∈ following p items) :
    action.isListening = true := by
  rcases List.mem_append.1 h with h | h
  · obtain ⟨item, _, h⟩ := List.mem_flatMap.1 h
    exact isListening_of_mem_handling h
  · exact isListening_of_mem_aftermath h

theorem isContact_of_mem_following {action : Action} (h : action ∈ following p items) :
    action.isContact = false :=
  Action.isContact_eq_false (isListening_of_mem_following h)

theorem countP_following : (following p items).countP Action.isSend = 0 :=
  List.countP_eq_zero.2 fun _ h => by
    simp [Action.isSend_eq_false (isContact_of_mem_following h)]

/-- On an established channel, a wait passes on the messages up to the item that stops it, in order
and each once, and ends as that item says. -/
theorem wait_eq_reference {url : Url} {marker : Option String} {channel : Channel}
    (h : services.channel url = .ok channel) :
    ∃ actions,
      ((Waiter.ofMarker url marker).wait.run services world).2.trace = world.trace ++ actions ∧
      actions.filterMap Action.observed? = heard (marks marker) channel.items ∧
      ((Waiter.ofMarker url marker).wait.run services world).1 =
        verdict (marks marker) channel.tail channel.items 0 := by
  have hw : (Waiter.ofMarker url marker).wait.Ends services world _ _ world.files := wait_ends h rfl
  rw [isMarker_ofMarker] at hw
  refine ⟨_, hw.trace_eq, ?_, hw.outcome_eq⟩
  rw [List.filterMap_cons, observed_following]
  rfl

/-- A marker between blanks is heard and stops the wait; a ping is not heard, and nor is what comes
after the marker. Where the other side has gone, the channel counts as closed, and with any other
fault the wait fails. -/
theorem wait_hears_up_to_marker :
    let url : Url := ⟨"ws", none, some (.domain ['h']), none, .segments ['/'], none, none⟩
    let services (items : List Item) : Services :=
      { answer := Services.unreachable.answer, channel := fun _ => .ok ⟨items, .silent, .ok ()⟩ }
    let run (items : List Item) := (Waiter.ofMarker url (some "DONE ")).wait.run
      (services ([.ping [1], .text "one", .binary [0xff]] ++ items)) ⟨.empty [], [], []⟩
    let observed (items : List Item) := (run items).2.trace.filterMap Action.observed?
    let marked : List Item := [.text " DONE\n", .text "two", .close none]
    let failing (fault : Channel.Fault) : List Item := [.fault fault, .text "DONE"]
    observed marked = ["one", "\uFFFD", " DONE\n"] ∧ (run marked).1 = .done ⟨3, .markerReceived⟩ ∧
    observed (failing .reset) = ["one", "\uFFFD"] ∧
    (run (failing .closed)).1 = .done ⟨2, .channelClosed⟩ ∧
    (run (failing .alreadyClosed)).1 = .done ⟨2, .channelClosed⟩ ∧
    (run (failing .reset)).1 = .done ⟨2, .channelClosed⟩ ∧
    (run (failing (.other "late"))).1 = .failed (.channel (.other "late")) := by
  intro url services run observed marked failing
  let first : List Item := [.ping [1], .text "one", .binary [0xff]]
  have hrun (items : List Item) :
      observed items = heard (marks (some "DONE ")) (first ++ items) ∧
      (run items).1 = verdict (marks (some "DONE ")) .silent (first ++ items) 0 := by
    obtain ⟨actions, htrace, hheard, hend⟩ := @wait_eq_reference (services (first ++ items))
      ⟨.empty [], [], []⟩ url (some "DONE ") ⟨first ++ items, .silent, .ok ()⟩ rfl
    refine ⟨?_, hend⟩
    rw [← hheard]
    exact congrArg (List.filterMap Action.observed?) htrace
  exact ⟨(hrun _).1.trans (by cbv), (hrun _).2.trans (by cbv), (hrun _).1.trans (by cbv),
    (hrun _).2.trans (by cbv), (hrun _).2.trans (by cbv), (hrun _).2.trans (by cbv),
    (hrun _).2.trans (by cbv)⟩

end Run.Hearing

end MqttConformance
