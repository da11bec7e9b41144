import MqttConformance.ClientError
import MqttConformance.Proofs.Copy

/-!
# The writes of a copy

A writer takes what it likes of an offer, and it may fail. A writer that always takes something
writes each chunk piece by piece (`Copy.inChunks_cuts_chunks`). If the stream or the writer fails,
what has been written is a beginning of what an unfailing writer writes (`Copy.inChunks_stops`).
-/

namespace MqttConformance.Run.Copy

variable {size most : Nat} {bytes : Bytes} {pieces : List Bytes}

/-! ## Cuts -/

/-- Bytes cut in order into pieces of a size, of which the last may be shorter. -/
structure IsCut (size : Nat) (bytes : Bytes) (pieces : List Bytes) : Prop where
  flatten_eq : pieces.flatten = bytes
  ne_nil : ∀ piece ∈ pieces, piece ≠ []
  length_le : ∀ piece ∈ pieces, piece.length ≤ size
  length_eq : ∀ piece ∈ pieces.dropLast, piece.length = size

theorem IsCut.nil : IsCut size [] [] := ⟨rfl, nofun, nofun, nofun⟩

/-- The first piece is as much as there is, up to the size. -/
theorem IsCut.cons_take (hsize : 0 < size) (hbytes : bytes ≠ [])
    (h : IsCut size (bytes.drop size) pieces) : IsCut size bytes (bytes.take size :: pieces) := by
  refine ⟨?_, ?_, ?_, ?_⟩
  · rw [List.flatten_cons, h.flatten_eq, List.take_append_drop]
  · rw [List.forall_mem_cons, ne_eq, List.take_eq_nil_iff, not_or]
    exact ⟨⟨hsize.ne', hbytes⟩, h.ne_nil⟩
  · exact List.forall_mem_cons.2 ⟨List.length_take_le _ _, h.length_le⟩
  · -- a piece with another behind it is full
    cases pieces with
    | nil => exact nofun
    | cons next others =>
      rw [List.dropLast_cons_cons, List.forall_mem_cons]
      refine ⟨?_, h.length_eq⟩
      have hrest := congrArg List.length h.flatten_eq
      have hnext := List.length_pos_iff.2 (h.ne_nil next List.mem_cons_self)
      simp only [List.flatten_cons, List.length_append, List.length_drop] at hrest
      rw [List.length_take]
      omega

theorem isCut_cut (hsize : 0 < size) (bytes : Bytes) : IsCut size bytes (cut size bytes) := by
  obtain ⟨size, rfl⟩ := Nat.exists_eq_add_one.2 hsize
  fun_induction cut (size + 1) bytes with
  | case1 => exact .nil
  | case2 b rest ih => exact IsCut.cons_take hsize (List.cons_ne_nil b rest) ih

theorem bufferSize_lt_bufferBound {chunkSize : Nat} (h : chunkSize < 2 ^ 63) :
    bufferSize chunkSize < bufferBound := Nat.max_lt.2 ⟨h, by decide⟩

namespace Writer

variable {w : Writer}

/-! ## Writers that take something -/

/-- A writer that never fails and takes at least one byte and at most `most` bytes of an offer,
whatever it has written before. An offer fits into a buffer. -/
structure Accepts (w : Writer) (most : Nat) : Prop where
  budget_eq : w.budget = none
  length_taken (writes : List Bytes) {offer : Bytes} : offer ≠ [] → offer.length < bufferBound →
    0 < ({ w with writes := writes }.taken offer).length ∧
      ({ w with writes := writes }.taken offer).length ≤ most

/-- A writer that takes as much of an offer as `most` allows. -/
def IsEager (w : Writer) (most : Nat) : Prop :=
  ∀ (writes : List Bytes) (offer : Bytes), offer.length < bufferBound →
    { w with writes := writes }.taken offer = offer.take most

/-- The writes by which a piece is taken, none of them empty or of more than `most` bytes. -/
structure Parts (w : Writer) (most : Nat) (writes : List Bytes) : Prop where
  ne_nil : ∀ write ∈ writes, write ≠ []
  length_le : ∀ write ∈ writes, write.length ≤ most
  isCut : w.IsEager most → IsCut most writes.flatten writes

/-- The writer once it has taken what it takes of an offer. -/
def after (w : Writer) (offer : Bytes) : Writer :=
  { w with budget := w.budget.map (· - 1), writes := w.taken offer :: w.writes }

theorem write_eq (offer : Bytes) : w.write offer =
    if w.budget = some 0 then .error (.other "disk full")
    else .ok (w.taken offer, w.after offer) := rfl

theorem writeAll_cons (b : UInt8) (rest : Bytes) : w.writeAll (b :: rest) =
    if w.budget = some 0 then (w, some (.other "disk full"))
    else
      match w.taken (b :: rest) with
      | [] => (w.after (b :: rest), some (.other "write zero"))
      | _ :: more => (w.after (b :: rest)).writeAll (rest.drop more.length) := by
  rw [writeAll, write_eq]
  by_cases hb : w.budget = some 0
  · simp only [if_pos hb]
  · simp only [if_neg hb]
    cases w.taken (b :: rest) <;> rfl

theorem Accepts.after_eq (h : w.Accepts most) (offer : Bytes) :
    w.after offer = { w with writes := w.taken offer :: w.writes } := by
  rw [after, h.budget_eq]
  rfl

theorem Accepts.withWrites (h : w.Accepts most) (writes : List Bytes) :
    { w with writes := writes }.Accepts most := ⟨h.budget_eq, h.length_taken⟩

theorem Accepts.most_pos (h : w.Accepts most) : 0 < most :=
  have ⟨hpos, hle⟩ := h.length_taken [] (List.cons_ne_nil 0 []) (by decide)
  hpos.trans_le hle

theorem Parts.nil : w.Parts most [] := ⟨nofun, nofun, fun _ => .nil⟩

theorem Parts.of_withWrites {before writes : List Bytes}
    (h : { w with writes := before }.Parts most writes) : w.Parts most writes :=
  ⟨h.ne_nil, h.length_le, h.isCut⟩

theorem Accepts.writeAll_eq (h : w.Accepts most) {piece : Bytes}
    (hfits : piece.length < bufferBound) : ∃ writes, w.writeAll piece =
        ({ w with writes := writes.reverse ++ w.writes }, none) ∧
      writes.flatten = piece ∧ w.Parts most writes := by
  -- on the length of the piece: what remains of it is shorter by what has been taken
  induction hlength : piece.length using Nat.strong_induction_on generalizing w piece with
  | _ length ih =>
  cases piece with
  | nil => exact ⟨[], by rw [writeAll]; rfl, rfl, .nil⟩
  | cons b rest =>
    obtain ⟨hpos, hle⟩ := h.length_taken w.writes (List.cons_ne_nil b rest) hfits
    rw [writeAll_cons, if_neg (h.budget_eq ▸ (Option.some_ne_none 0).symm), h.after_eq]
    cases htaken : w.taken (b :: rest) with
    | nil => simp [htaken] at hpos
    | cons c more =>
      have hprefix := w.taken_prefix (b :: rest)
      rw [htaken] at hprefix hle
      obtain ⟨left, hleft⟩ := hprefix
      rw [List.cons_append, List.cons.injEq] at hleft
      obtain ⟨rfl, rfl⟩ := hleft
      have hshort : left.length < length := by
        simp only [List.length_cons, List.length_append] at hlength
        omega
      obtain ⟨writes, hwrites, rfl, hparts⟩ :=
        ih _ hshort (h.withWrites ((c :: more) :: w.writes)) (by omega) rfl
      dsimp only
      rw [List.drop_left, hwrites]
      refine ⟨(c :: more) :: writes, by simp, rfl, ?_, ?_, fun heager => ?_⟩
      · exact List.forall_mem_cons.2 ⟨List.cons_ne_nil _ _, hparts.ne_nil⟩
      · exact List.forall_mem_cons.2 ⟨hle, hparts.length_le⟩
      · have htake : c :: more = (c :: (more ++ writes.flatten)).take most :=
          htaken.symm.trans (heager w.writes _ hfits)
        have hdrop : writes.flatten = (c :: (more ++ writes.flatten)).drop most := by
          have hall := List.take_append_drop most (c :: (more ++ writes.flatten))
          rw [← htake, List.cons_append, List.cons.injEq] at hall
          exact (List.append_cancel_left hall.2).symm
        rw [List.flatten_cons, List.cons_append, htake]
        refine .cons_take h.most_pos (List.cons_ne_nil _ _) ?_
        rw [← hdrop]
        exact hparts.isCut heager

theorem Accepts.writePieces_eq (h : w.Accepts most) {pieces : List Bytes}
    (hfits : ∀ piece ∈ pieces, piece.length < bufferBound) :
    ∃ parts : List (List Bytes), w.writePieces pieces =
        ({ w with writes := parts.flatten.reverse ++ w.writes }, none) ∧
      parts.map List.flatten = pieces ∧ ∀ writes ∈ parts, w.Parts most writes := by
  induction pieces generalizing w with
  | nil => exact ⟨[], rfl, rfl, nofun⟩
  | cons piece pieces ih =>
    rw [List.forall_mem_cons] at hfits
    obtain ⟨writes, hwrites, rfl, hpiece⟩ := h.writeAll_eq hfits.1
    obtain ⟨parts, hparts, rfl, hpieces⟩ := ih (h.withWrites (writes.reverse ++ w.writes)) hfits.2
    refine ⟨writes :: parts, ?_, rfl,
      List.forall_mem_cons.2 ⟨hpiece, fun more hmore => (hpieces more hmore).of_withWrites⟩⟩
    rw [writePieces, hwrites]
    simpa using hparts

theorem Accepts.writePieces_flatMap_cut (h : w.Accepts most) (hpos : 0 < size)
    (hsize : size < bufferBound) (chunks : List Bytes) :
    ∃ cuts : List (List (List Bytes)), w.writePieces (chunks.flatMap (cut size)) =
        ({ w with writes := cuts.flatten.flatten.reverse ++ w.writes }, none) ∧
      cuts.map (·.map List.flatten) = chunks.map (cut size) ∧
      ∀ parts ∈ cuts, ∀ writes ∈ parts, w.Parts most writes := by
  induction chunks generalizing w with
  | nil => exact ⟨[], rfl, rfl, nofun⟩
  | cons chunk chunks ih =>
    obtain ⟨parts, hparts, hpieces, hchunk⟩ := h.writePieces_eq fun piece hpiece =>
      ((isCut_cut hpos chunk).length_le piece hpiece).trans_lt hsize
    obtain ⟨cuts, hcuts, hmap, hchunks⟩ := ih (h.withWrites (parts.flatten.reverse ++ w.writes))
    refine ⟨parts :: cuts, ?_, by rw [List.map_cons, hpieces, hmap, List.map_cons],
      List.forall_mem_cons.2 ⟨hchunk, fun more hmore writes hwrites =>
        (hchunks more hmore writes hwrites).of_withWrites⟩⟩
    rw [List.flatMap_cons, writePieces_append, hparts]
    simpa using hcuts

/-! ## Writers that run out -/

/-- The writer with no end to the writes it makes. -/
def unfailing (w : Writer) : Writer := { w with budget := none }

/-- The writer makes all of `count` writes. -/
def Lasts (w : Writer) (count : Nat) : Prop := ∀ n, w.budget = some n → count ≤ n

/-- The writer after some writes, whatever they are. -/
def having (w : Writer) (made : List Bytes) : Writer :=
  { w with budget := w.budget.map (· - made.length), writes := made.reverse ++ w.writes }

/-- What some writing comes to. An unfailing writer would make the writes `made`, and would stall if
the last of them took nothing. The writer makes as many of them as its budget allows. -/
structure Writing (w : Writer) (run : Writer → Writer × Option IoFault) (made : List Bytes)
    (stall : Option IoFault) : Prop where
  unfailing_eq : run w.unfailing = (w.unfailing.having made, stall)
  stall_eq : stall = none ∧ [] ∉ made ∨
    stall = some (.other "write zero") ∧ ∃ before, made = before ++ [[]] ∧ [] ∉ before
  lasting : w.Lasts made.length → run w = (w.having made, stall)
  failing {n : Nat} : w.budget = some n → n < made.length →
    run w = (w.having (made.take n), some (.other "disk full"))

theorem having_nil : w.having [] = w := by
  obtain ⟨limit, budget, room, writes⟩ := w
  cases budget <;> rfl

theorem having_having (made more : List Bytes) :
    (w.having made).having more = w.having (made ++ more) := by
  obtain ⟨limit, budget, room, writes⟩ := w
  cases budget <;> simp [having, Nat.sub_sub]

theorem unfailing_having (made : List Bytes) :
    (w.having made).unfailing = w.unfailing.having made := rfl

theorem after_eq_having (offer : Bytes) : w.after offer = w.having [w.taken offer] := rfl

theorem Writing.none : w.Writing (fun w => (w, .none)) [] .none where
  unfailing_eq := by rw [having_nil]
  stall_eq := .inl ⟨rfl, nofun⟩
  lasting _ := by rw [having_nil]
  failing _ hn := absurd hn (Nat.not_lt_zero _)

theorem Lasts.append {made more : List Bytes} :
    w.Lasts (made ++ more).length ↔ w.Lasts made.length ∧ (w.having made).Lasts more.length := by
  obtain ⟨limit, budget, room, writes⟩ := w
  cases budget with
  | none => simp [Lasts, having]
  | some n =>
    simp only [Lasts, having, Option.map_some, Option.some.injEq, forall_eq', List.length_append]
    omega

variable {run first next : Writer → Writer × Option IoFault} {made more : List Bytes}
  {stall : Option IoFault}

/-- Some writing, and more of it since the first has not failed. -/
theorem Writing.bind (hrun : run w = match first w with
      | (w, .none) => next w
      | (w, some fault) => (w, some fault))
    (hunfailing : run w.unfailing = match first w.unfailing with
      | (w, .none) => next w
      | (w, some fault) => (w, some fault))
    (hfirst : w.Writing first made .none)
    (hnext : (w.having made).Writing next more stall) : w.Writing run (made ++ more) stall where
  unfailing_eq := by
    rw [hunfailing, hfirst.unfailing_eq]
    dsimp only
    rw [← unfailing_having, hnext.unfailing_eq, unfailing_having, having_having]
  stall_eq := by
    obtain ⟨-, hmade⟩ | ⟨h, -⟩ := hfirst.stall_eq
    · obtain ⟨rfl, hmore⟩ | ⟨rfl, before, rfl, hbefore⟩ := hnext.stall_eq
      · exact .inl ⟨rfl, List.not_mem_append hmade hmore⟩
      · exact .inr ⟨rfl, made ++ before, (List.append_assoc _ _ _).symm,
          List.not_mem_append hmade hbefore⟩
    · cases h
  lasting h := by
    obtain ⟨hmade, hmore⟩ := Lasts.append.1 h
    rw [hrun, hfirst.lasting hmade]
    dsimp only
    rw [hnext.lasting hmore, having_having]
  failing {n} hn hlt := by
    rw [hrun]
    rcases Nat.lt_or_ge n made.length with hbefore | hafter
    · rw [hfirst.failing hn hbefore, List.take_append_of_le_length hbefore.le]
    · have hmade : w.Lasts made.length := fun m hm => by
        cases hn.symm.trans hm
        exact hafter
      have hbudget : (w.having made).budget = some (n - made.length) := by
        rw [having, hn]
        rfl
      rw [List.length_append] at hlt
      rw [hfirst.lasting hmade]
      dsimp only
      rw [hnext.failing hbudget (by omega), having_having, List.take_append,
        List.take_of_length_le hafter]

/-- Nothing follows some writing that has stalled. -/
theorem Writing.stop (hrun : run w = match first w with
      | (w, .none) => next w
      | (w, some fault) => (w, some fault))
    (hunfailing : run w.unfailing = match first w.unfailing with
      | (w, .none) => next w
      | (w, some fault) => (w, some fault)) {fault : IoFault}
    (hfirst : w.Writing first made (some fault)) : w.Writing run made (some fault) where
  unfailing_eq := by rw [hunfailing, hfirst.unfailing_eq]
  stall_eq := hfirst.stall_eq
  lasting h := by rw [hrun, hfirst.lasting h]
  failing hn hlt := by rw [hrun, hfirst.failing hn hlt]

theorem Lasts.budget_ne (h : w.Lasts 1) : w.budget ≠ some 0 :=
  fun h0 => absurd (h 0 h0) (by decide)

/-- One write, of which a stall is the fault if it has taken nothing. -/
theorem writing_write (offer : Bytes) {run : Writer → Writer × Option IoFault}
    (hrun : ∀ w' : Writer, w'.taken offer = w.taken offer → run w' =
      if w'.budget = some 0 then (w', some (.other "disk full")) else (w'.after offer, stall))
    (hstall : stall = .none ∧ w.taken offer ≠ [] ∨
      stall = some (.other "write zero") ∧ w.taken offer = []) :
    w.Writing run [w.taken offer] stall where
  unfailing_eq := by
    rw [hrun w.unfailing rfl, if_neg (show w.unfailing.budget ≠ some 0 from nofun)]
    rfl
  stall_eq := by
    rcases hstall with ⟨rfl, htaken⟩ | ⟨rfl, htaken⟩
    · exact .inl ⟨rfl, fun h => htaken (List.mem_singleton.1 h).symm⟩
    · exact .inr ⟨rfl, [], by rw [htaken]; rfl, nofun⟩
  lasting h := by rw [hrun _ rfl, if_neg h.budget_ne, after_eq_having]
  failing {n} hn hlt := by
    obtain rfl : n = 0 := Nat.lt_one_iff.1 hlt
    rw [hrun _ rfl, if_pos hn, List.take_zero, having_nil]

theorem exists_writing_writeAll (w : Writer) (piece : Bytes) :
    ∃ made stall, w.Writing (·.writeAll piece) made stall := by
  induction hlength : piece.length using Nat.strong_induction_on generalizing w piece with
  | _ length ih =>
  cases piece with
  | nil => exact ⟨[], .none, by simpa only [writeAll] using Writing.none⟩
  | cons b rest =>
    cases htaken : w.taken (b :: rest) with
    | nil =>
      refine ⟨[w.taken (b :: rest)], some (.other "write zero"),
        writing_write (b :: rest) (fun w' hw' => ?_) (.inr ⟨rfl, htaken⟩)⟩
      rw [writeAll_cons, hw', htaken]
    | cons c more =>
      have hshort : (rest.drop more.length).length < length := by
        rw [← hlength, List.length_drop, List.length_cons]
        omega
      obtain ⟨made, stall, hmade⟩ := ih _ hshort (w.having [w.taken (b :: rest)]) _ rfl
      have hone : w.Writing (fun w => if w.budget = some 0 then (w, some (.other "disk full"))
          else (w.after (b :: rest), .none)) [w.taken (b :: rest)] .none :=
        writing_write (b :: rest) (fun _ _ => rfl) (.inl ⟨rfl, htaken ▸ List.cons_ne_nil c more⟩)
      refine ⟨_, stall, .bind ?_ ?_ hone hmade⟩
      · rw [writeAll_cons, htaken]
        split <;> rfl
      · rw [writeAll_cons, show w.unfailing.taken (b :: rest) = c :: more from htaken]
        split <;> rfl

theorem exists_writing_writePieces (w : Writer) (pieces : List Bytes) :
    ∃ made stall, w.Writing (·.writePieces pieces) made stall := by
  induction pieces generalizing w with
  | nil => exact ⟨[], .none, Writing.none⟩
  | cons piece pieces ih =>
    obtain ⟨made, stall, hpiece⟩ := w.exists_writing_writeAll piece
    cases stall with
    | some fault => exact ⟨made, some fault, .stop rfl rfl hpiece⟩
    | none =>
      obtain ⟨more, stall, hpieces⟩ := ih (w.having made)
      exact ⟨made ++ more, stall, .bind rfl rfl hpiece hpieces⟩

/-! ## Writers that fail -/

theorem writeAll_prefix (w : Writer) (piece : Bytes) :
    (w.writeAll piece).1.written <+: w.written ++ piece := by
  fun_induction writeAll w piece with
  | case1 w => rw [List.append_nil]
  | case2 w b rest fault hw => exact List.prefix_append _ _
  | case3 w b rest w₁ hw =>
    rw [(write_eq_ok hw).2, List.append_nil]
    exact List.prefix_append _ _
  | case4 w b rest c more w₁ hw ih =>
    obtain ⟨⟨left, hleft⟩, hwritten⟩ := write_eq_ok hw
    rw [List.cons_append, List.cons.injEq] at hleft
    obtain ⟨rfl, rfl⟩ := hleft
    rw [hwritten, List.append_assoc] at ih
    simpa using ih

theorem writePieces_prefix (w : Writer) (pieces : List Bytes) :
    (w.writePieces pieces).1.written <+: w.written ++ pieces.flatten := by
  induction pieces generalizing w with
  | nil => exact List.prefix_append _ _
  | cons piece pieces ih =>
    rw [writePieces]
    split
    · next w₁ hw =>
      rw [List.flatten_cons, ← List.append_assoc, ← written_of_writeAll hw]
      exact ih w₁
    · next w₁ fault hw =>
      have hpiece := w.writeAll_prefix piece
      rw [hw] at hpiece
      rw [List.flatten_cons, ← List.append_assoc]
      exact hpiece.trans (List.prefix_append _ _)

end Writer

/-! ## Copies -/

variable {w : Writer} {stream : List (Except IoFault Bytes)} {chunkSize : Nat}

@[simp] theorem arrived_map_ok (chunks : List Bytes) : arrived (chunks.map .ok) = chunks := by
  induction chunks with
  | nil => rfl
  | cons chunk chunks ih => rw [List.map_cons, arrived, ih]

@[simp] theorem fault?_map_ok (chunks : List Bytes) : fault? (chunks.map .ok) = none := by
  induction chunks with
  | nil => rfl
  | cons chunk chunks ih => exact ih

theorem offered_map_ok (chunks : List Bytes) :
    offered (chunks.map .ok) chunkSize = chunks.flatMap (cut (bufferSize chunkSize)) := by
  rw [offered, arrived_map_ok]

theorem arrived_append_error (chunks : List Bytes) (fault : IoFault)
    (rest : List (Except IoFault Bytes)) :
    arrived (chunks.map .ok ++ .error fault :: rest) = chunks := by
  induction chunks with
  | nil => rfl
  | cons chunk chunks ih => rw [List.map_cons, List.cons_append, arrived, ih]

theorem fault?_append_error (chunks : List Bytes) (fault : IoFault)
    (rest : List (Except IoFault Bytes)) :
    fault? (chunks.map .ok ++ .error fault :: rest) = some fault := by
  induction chunks with
  | nil => rfl
  | cons chunk chunks ih => exact ih

theorem eq_map_arrived (h : fault? stream = none) : stream = (arrived stream).map .ok := by
  induction stream with
  | nil => rfl
  | cons item stream ih =>
    cases item with
    | error fault => cases h
    | ok chunk => rw [arrived, List.map_cons, ← ih h]

theorem total_inChunks (hb : bufferSize chunkSize < bufferBound) :
    (inChunks w stream chunkSize).total =
      match (w.writePieces (offered stream chunkSize)).2, fault? stream with
      | some fault, _ => .failed fault
      | none, some fault => .failed fault
      | none, none => .done (arrived stream).flatten.length :=
  congrArg Report.total (inChunks_eq hb)

theorem writes_inChunks (hb : bufferSize chunkSize < bufferBound) :
    (inChunks w stream chunkSize).writes =
      (w.writePieces (offered stream chunkSize)).1.writes.reverse :=
  congrArg Report.writes (inChunks_eq hb)

/-- However a copy ends, only what has arrived is written, from its beginning. -/
theorem flatten_writes_prefix (w : Writer) (stream : List (Except IoFault Bytes)) (chunkSize : Nat) :
    (inChunks w.fresh stream chunkSize).writes.flatten <+: (arrived stream).flatten := by
  rcases Nat.lt_or_ge (bufferSize chunkSize) bufferBound with hb | hb
  · have hprefix := w.fresh.writePieces_prefix (offered stream chunkSize)
    rw [flatten_offered] at hprefix
    rw [writes_inChunks hb]
    exact hprefix
  · rw [inChunks_of_bufferBound_le hb]
    exact List.nil_prefix

/-- Nothing of a stream matters but the chunks before its first fault, and that fault. -/
theorem inChunks_congr {stream' : List (Except IoFault Bytes)} (ha : arrived stream = arrived stream')
    (hf : fault? stream = fault? stream') :
    inChunks w stream chunkSize = inChunks w stream' chunkSize := by
  rcases Nat.lt_or_ge (bufferSize chunkSize) bufferBound with hb | hb
  · rw [inChunks_eq hb, inChunks_eq hb, offered, offered, ha, hf]
  · rw [inChunks_of_bufferBound_le hb, inChunks_of_bufferBound_le hb]

theorem inChunks_of_accepts {most : Nat} (hsize : chunkSize < 2 ^ 63) (hw : w.Accepts most)
    (chunks : List Bytes) :
    ∃ cuts : List (List (List Bytes)), inChunks w.fresh (chunks.map .ok) chunkSize =
        ⟨.done (chunks.map List.length).sum, cuts.flatten.flatten⟩ ∧
      cuts.map (·.map List.flatten) = chunks.map (cut (bufferSize chunkSize)) ∧
      ∀ parts ∈ cuts, ∀ writes ∈ parts, w.Parts most writes := by
  have hb := bufferSize_lt_bufferBound hsize
  obtain ⟨cuts, hrun, hmap, hparts⟩ :=
    (hw.withWrites []).writePieces_flatMap_cut (bufferSize_pos chunkSize) hb chunks
  refine ⟨cuts, ?_, hmap,
    fun parts hp writes hwrites => (hparts parts hp writes hwrites).of_withWrites⟩
  rw [inChunks_eq hb, offered_map_ok, show w.fresh.writePieces _ = _ from hrun, arrived_map_ok,
    fault?_map_ok, List.length_flatten]
  simp

/-- Pieces of the size of the buffer are cut from each chunk, and each piece is written by parts.
Nothing is lost or empty, and no write joins chunks. -/
theorem inChunks_cuts_chunks {most : Nat} (hsize : chunkSize < 2 ^ 63) (hw : w.Accepts most)
    (chunks : List Bytes) :
    let report := inChunks w.fresh (chunks.map .ok) chunkSize
    bufferSize chunkSize < bufferBound ∧
    report.total.mapError ClientError.io = .done (chunks.map List.length).sum ∧
    report.writes.flatten = chunks.flatten ∧
    (∀ write ∈ report.writes, write ≠ [] ∧ write.length ≤ max chunkSize 1) ∧
    ∃ cuts : List (List (List Bytes)), report.writes = cuts.flatten.flatten ∧
      List.Forall₂ (fun chunk parts => IsCut (max chunkSize 1) chunk (parts.map List.flatten))
        chunks cuts ∧
      ∀ parts ∈ cuts, ∀ writes ∈ parts, w.Parts most writes := by
  intro report
  obtain ⟨cuts, hreport, hmap, hparts⟩ := inChunks_of_accepts hsize hw chunks
  have hflatten : cuts.flatten.flatten.flatten = chunks.flatten := by
    calc cuts.flatten.flatten.flatten
        = (cuts.map (·.map List.flatten)).flatten.flatten := by
          rw [List.flatten_flatten (L := cuts.flatten), List.map_flatten]
      _ = (offered (chunks.map .ok) chunkSize).flatten := by
          rw [hmap, offered_map_ok, List.flatMap_def]
      _ = chunks.flatten := by rw [flatten_offered, arrived_map_ok]
  have hcuts : List.Forall₂ (fun chunk parts =>
      cut (bufferSize chunkSize) chunk = List.map List.flatten parts) chunks cuts := by
    have heq : List.Forall₂ Eq (chunks.map (cut (bufferSize chunkSize)))
        (cuts.map (·.map List.flatten)) := by
      rw [List.forall₂_eq_eq_eq]
      exact hmap.symm
    rwa [List.forall₂_map_left_iff, List.forall₂_map_right_iff] at heq
  have hcut : ∀ bytes, IsCut (bufferSize chunkSize) bytes (cut (bufferSize chunkSize) bytes) :=
    isCut_cut (bufferSize_pos chunkSize)
  refine ⟨bufferSize_lt_bufferBound hsize, ?_, ?_, ?_, cuts, ?_, ?_, hparts⟩
  · rw [show report = _ from hreport, Outcome.mapError_done]
  · rw [show report = _ from hreport, hflatten]
  · intro write hwrite
    rw [show report = _ from hreport, List.mem_flatten] at hwrite
    obtain ⟨writes, hwrites, hwrite⟩ := hwrite
    obtain ⟨parts, hp, hwrites⟩ := List.mem_flatten.1 hwrites
    refine ⟨(hparts parts hp writes hwrites).ne_nil write hwrite, ?_⟩
    -- the piece that the write is a part of is a piece of a chunk
    have hchunk : parts.map List.flatten ∈ chunks.map (cut (bufferSize chunkSize)) :=
      hmap ▸ List.mem_map_of_mem hp
    obtain ⟨chunk, -, hchunk⟩ := List.mem_map.1 hchunk
    have hpiece := (hcut chunk).length_le writes.flatten (hchunk ▸ List.mem_map_of_mem hwrites)
    exact (List.sublist_flatten_of_mem hwrite).length_le.trans hpiece
  · rw [show report = _ from hreport]
  · exact hcuts.imp fun chunk parts h => h ▸ hcut chunk

/-- By turns one byte and two of what is offered. For no chunk size at all, the pieces are single
bytes. -/
theorem inChunks_cuts_chunks_by_turns :
    let w : Writer := { room := fun writes _ => 1 + writes.length % 2 }
    let report := inChunks w.fresh ([[1, 2, 3, 4], [], [5, 6, 7]].map .ok)
    w.Accepts 2 ∧ (report 3).total.mapError ClientError.io = .done 7 ∧
    (report 3).writes.flatten = [1, 2, 3, 4, 5, 6, 7] ∧
    (report 3).writes = [[1], [2, 3], [4], [5, 6], [7]] ∧
    (report 0).total.mapError ClientError.io = .done 7 ∧
    (report 0).writes = [[1], [2], [3], [4], [5], [6], [7]] := by
  intro w report
  have hw : w.Accepts 2 := by
    refine ⟨rfl, fun writes offer hoffer _ => ?_⟩
    have hpos := List.length_pos_iff.2 hoffer
    simp only [Writer.taken, w, List.length_take]
    omega
  obtain ⟨-, htotal, hflatten, -⟩ :=
    inChunks_cuts_chunks (show 3 < 2 ^ 63 by decide) hw [[1, 2, 3, 4], [], [5, 6, 7]]
  obtain ⟨-, htotal', -⟩ :=
    inChunks_cuts_chunks (show 0 < 2 ^ 63 by decide) hw [[1, 2, 3, 4], [], [5, 6, 7]]
  refine ⟨hw, htotal, hflatten, ?_, htotal', ?_⟩
  · rw [show report 3 = _ from rfl, writes_inChunks (by decide), offered_map_ok]
    simp [cut, bufferSize, Writer.writePieces, Writer.writeAll_cons, Writer.writeAll, Writer.taken,
      Writer.after, Writer.fresh, w]
  · rw [show report 0 = _ from rfl, writes_inChunks (by decide), offered_map_ok]
    simp [cut, bufferSize, Writer.writePieces, Writer.writeAll_cons, Writer.writeAll, Writer.taken,
      Writer.after, Writer.fresh, w]

/-- A copy stops at the first fault. That of the stream comes after the bytes before it; if the
writer fails earlier, it has made the first of the writes that an unfailing writer makes. -/
theorem inChunks_stops (hsize : chunkSize < 2 ^ 63) (w : Writer)
    (stream : List (Except IoFault Bytes)) :
    let undisturbed := (inChunks w.unfailing.fresh ((arrived stream).map .ok) chunkSize).writes
    let report := inChunks w.fresh stream chunkSize
    let result := report.total.mapError ClientError.io
    bufferSize chunkSize < bufferBound ∧
    (w.Lasts undisturbed.length → [] ∉ undisturbed →
      report.writes = undisturbed ∧ report.writes.flatten = (arrived stream).flatten ∧
      (∀ fault, fault? stream = some fault → result = .failed (.io fault)) ∧
      (fault? stream = none → result = .done (arrived stream).flatten.length)) ∧
    (w.Lasts undisturbed.length → [] ∈ undisturbed →
      (∃ before, undisturbed = before ++ [[]] ∧ [] ∉ before) ∧ report.writes = undisturbed ∧
      result = .failed (.io (.other "write zero"))) ∧
    (∀ n, w.budget = some n → n < undisturbed.length →
      report.writes = undisturbed.take n ∧ result = .failed (.io (.other "disk full"))) ∧
    report.writes.flatten <+: (arrived stream).flatten ∧
    (∀ total, result = .done total → stream = (arrived stream).map .ok) ∧
    ∀ (chunks : List Bytes) (fault : IoFault) (rest : List (Except IoFault Bytes)),
      stream = chunks.map .ok ++ .error fault :: rest →
      report = inChunks w.fresh (chunks.map .ok ++ [.error fault]) chunkSize := by
  intro undisturbed report result
  have hb := bufferSize_lt_bufferBound hsize
  obtain ⟨made, stall, hmade⟩ := w.fresh.exists_writing_writePieces (offered stream chunkSize)
  have hundisturbed : undisturbed = made := by
    have hrun := congrArg (·.1.writes.reverse) hmade.unfailing_eq
    rw [show undisturbed = _ from writes_inChunks hb, offered_map_ok, ← offered]
    exact hrun.trans (by simp [Writer.having, Writer.unfailing, Writer.fresh])
  have hwrites : ∀ {writes : List Bytes} {refused : Option IoFault},
      w.fresh.writePieces (offered stream chunkSize) = (w.fresh.having writes, refused) →
      report.writes = writes := by
    intro writes refused hrun
    rw [show report = _ from rfl, writes_inChunks hb, hrun]
    simp [Writer.having, Writer.fresh]
  have hrefused : ∀ {w' : Writer} {fault : IoFault},
      w.fresh.writePieces (offered stream chunkSize) = (w', some fault) →
      result = .failed (.io fault) := by
    intro w' fault hrun
    have htotal : report.total = _ := total_inChunks hb
    rw [hrun] at htotal
    exact congrArg (·.mapError ClientError.io) htotal
  rw [hundisturbed]
  refine ⟨hb, fun hlasts hmem => ?_, fun hlasts hmem => ?_,
    fun n hn hlt => ?_, flatten_writes_prefix w stream chunkSize, fun total htotal => ?_, ?_⟩
  · obtain ⟨rfl, -⟩ | ⟨-, before, rfl, -⟩ := hmade.stall_eq
    · have hrun := hmade.lasting hlasts
      have hwritten := Writer.written_of_writePieces hrun
      have htotal : report.total = _ := total_inChunks hb
      rw [flatten_offered, Writer.written_fresh, List.nil_append] at hwritten
      rw [hrun] at htotal
      refine ⟨hwrites hrun, ?_, fun fault hfault => ?_, fun hnone => ?_⟩
      · rw [hwrites hrun, ← hwritten, Writer.written, Writer.having]
        simp [Writer.fresh]
      · rw [hfault] at htotal
        exact congrArg (·.mapError ClientError.io) htotal
      · rw [hnone] at htotal
        exact congrArg (·.mapError ClientError.io) htotal
    · exact absurd (List.mem_append_right _ (List.mem_singleton.2 rfl)) hmem
  · obtain ⟨-, hno⟩ | ⟨rfl, before, rfl, hbefore⟩ := hmade.stall_eq
    · exact absurd hmem hno
    · have hrun := hmade.lasting hlasts
      exact ⟨⟨before, rfl, hbefore⟩, hwrites hrun, hrefused hrun⟩
  · have hrun := hmade.failing hn hlt
    exact ⟨hwrites hrun, hrefused hrun⟩
  · apply eq_map_arrived
    have htotal := (congrArg (·.mapError ClientError.io) (total_inChunks hb)).symm.trans htotal
    cases hf : fault? stream with
    | none => rfl
    | some fault =>
      rw [hf] at htotal
      cases hrefused : (w.fresh.writePieces (offered stream chunkSize)).2 <;>
        rw [hrefused] at htotal <;> cases htotal
  · rintro chunks fault rest rfl
    apply inChunks_congr
    · rw [arrived_append_error, arrived_append_error]
    · rw [fault?_append_error, fault?_append_error]

/-- The disk is full before the connection is lost. -/
theorem inChunks_stops_full :
    let w : Writer := { limit := some 2, budget := some 1 }
    let stream := [.ok [1, 2, 3], .error (.other "connection lost"), .ok [4]]
    let report := inChunks w.fresh stream 2
    report.writes = [[1, 2]] ∧
    report.total.mapError ClientError.io = .failed (.io (.other "disk full")) := by
  intro w stream report
  obtain ⟨-, -, -, hfails, -⟩ := inChunks_stops (show 2 < 2 ^ 63 by decide) w stream
  have hwrites :
      (inChunks w.unfailing.fresh ((arrived stream).map .ok) 2).writes = [[1, 2], [3]] := by
    rw [writes_inChunks (by decide), offered_map_ok]
    simp [cut, bufferSize, Writer.writePieces, Writer.writeAll_cons, Writer.writeAll, Writer.taken,
      Writer.after, Writer.fresh, Writer.unfailing, w, stream, arrived]
  rw [hwrites] at hfails
  exact hfails 1 rfl (by decide)

end MqttConformance.Run.Copy
