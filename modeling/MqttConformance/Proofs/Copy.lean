import Mathlib
import MqttConformance.Run.Copy

/-! Copying as one sequence of writes. The chunks before the first fault of a stream are cut into
pieces of the size of the buffer, the writer is offered one piece after another, and if it takes them
all, the fault of the stream is what remains. One read yields the next of these pieces
(`Reader.pieces_of_read`), so the loop writes them in order (`loop_eq`). -/

namespace MqttConformance.Run.Copy

/-- Cuts bytes into pieces of a size, but at least of one byte; the last may be shorter. -/
def cut (size : Nat) : Bytes → List Bytes
  | [] => []
  | b :: rest => (b :: rest.take (size - 1)) :: cut size (rest.drop (size - 1))
termination_by bytes => bytes.length
decreasing_by
  simp only [List.length_drop, List.length_cons]
  omega

/-- The chunks of a stream before its first fault. -/
def arrived : List (Except IoFault Bytes) → List Bytes
  | .ok chunk :: stream => chunk :: arrived stream
  | _ => []

/-- The first fault of a stream. -/
def fault? : List (Except IoFault Bytes) → Option IoFault
  | .ok _ :: stream => fault? stream
  | .error fault :: _ => some fault
  | [] => none

/-- What a copy offers to its writer. -/
def offered (stream : List (Except IoFault Bytes)) (chunkSize : Nat) : List Bytes :=
  (arrived stream).flatMap (cut (bufferSize chunkSize))

theorem bufferSize_pos (chunkSize : Nat) : 0 < bufferSize chunkSize :=
  Nat.lt_of_lt_of_le Nat.one_pos (Nat.le_max_right _ _)

/-- A chunk size of no bytes is one of a single byte, and it does not matter who says so first. -/
theorem bufferSize_max_one (chunkSize : Nat) : bufferSize (max chunkSize 1) = bufferSize chunkSize :=
  max_eq_left (bufferSize_pos chunkSize)

theorem flatten_cut (size : Nat) (bytes : Bytes) : (cut size bytes).flatten = bytes := by
  fun_induction cut size bytes with
  | case1 => rfl
  | case2 b rest ih => simp [ih]

/-- The first piece is as much as there is, up to the size. -/
theorem cut_eq_cons {size : Nat} {bytes : Bytes} (hsize : 0 < size) (hbytes : bytes ≠ []) :
    cut size bytes = bytes.take size :: cut size (bytes.drop size) := by
  obtain ⟨size, rfl⟩ := Nat.exists_eq_add_one.2 hsize
  obtain ⟨b, rest, rfl⟩ := List.exists_cons_of_ne_nil hbytes
  rw [cut, Nat.add_sub_cancel, List.take_succ_cons, List.drop_succ_cons]

theorem flatten_offered {stream : List (Except IoFault Bytes)} {chunkSize : Nat} :
    (offered stream chunkSize).flatten = (arrived stream).flatten := by
  unfold offered
  induction arrived stream with
  | nil => rfl
  | cons chunk chunks ih => simp [flatten_cut, ih]

/-! ## Reading -/

namespace Reader

/-- The pieces that reads into a buffer of a size still yield. -/
def pieces (size : Nat) (r : Reader) : List Bytes :=
  cut size r.chunk ++ (arrived r.items).flatMap (cut size)

variable {size : Nat} {r more : Reader} {chunk piece : Bytes} {items : List (Except IoFault Bytes)}
variable {fault : IoFault}

/-- The next chunk is found behind empty ones, and there is none only at the end. -/
theorem pieces_fill (h : fill chunk items = .ok r) :
    r.pieces size = pieces size ⟨chunk, items⟩ ∧ fault? r.items = fault? items ∧
      (r.chunk = [] → r.items = []) := by
  induction items generalizing chunk with
  | nil =>
    cases chunk with
    | nil => cases h; exact ⟨rfl, rfl, fun _ => rfl⟩
    | cons b rest => cases h; exact ⟨rfl, rfl, nofun⟩
  | cons item items ih =>
    cases chunk with
    | cons b rest => cases h; exact ⟨rfl, rfl, nofun⟩
    | nil =>
      cases item with
      | error => cases h
      | ok next =>
        obtain ⟨hpieces, hfault, hend⟩ := ih h
        refine ⟨hpieces.trans ?_, hfault, hend⟩
        simp [pieces, arrived, cut]

theorem fault_of_fill (h : fill chunk items = .error fault) :
    pieces size ⟨chunk, items⟩ = [] ∧ fault? items = some fault := by
  induction items generalizing chunk with
  | nil => cases chunk <;> cases h
  | cons item items ih =>
    cases chunk with
    | cons => cases h
    | nil =>
      cases item with
      | error => cases h; exact ⟨by simp [pieces, arrived, cut], rfl⟩
      | ok next =>
        obtain ⟨hpieces, hfault⟩ := ih h
        refine ⟨?_, hfault⟩
        rw [← hpieces]
        simp [pieces, arrived, cut]

theorem exists_fill (hsize : 0 < size) (h : r.read size = .ok (piece, more)) :
    ∃ filled, fill r.chunk r.items = .ok filled ∧ piece = filled.chunk.take size ∧
      more = { filled with chunk := filled.chunk.drop size } := by
  unfold read at h
  rw [if_neg hsize.ne'] at h
  split at h
  · cases h
  · next filled hfill =>
    cases h
    exact ⟨filled, hfill, rfl, rfl⟩

/-- A read yields the next of the pieces to come. -/
theorem pieces_of_read (hsize : 0 < size) (h : r.read size = .ok (piece, more))
    (hpiece : piece ≠ []) :
    r.pieces size = piece :: more.pieces size ∧ fault? r.items = fault? more.items := by
  obtain ⟨filled, hfill, rfl, rfl⟩ := exists_fill hsize h
  obtain ⟨hpieces, hfault, -⟩ := pieces_fill hfill
  have hchunk : filled.chunk ≠ [] := by
    intro hnil
    rw [hnil, List.take_nil] at hpiece
    exact hpiece rfl
  refine ⟨?_, hfault.symm⟩
  rw [show r.pieces size = _ from hpieces.symm, pieces, cut_eq_cons hsize hchunk]
  rfl

/-- A read yields nothing if no piece is to come, at the end of the stream. -/
theorem end_of_read (hsize : 0 < size) (h : r.read size = .ok ([], more)) :
    r.pieces size = [] ∧ fault? r.items = none := by
  obtain ⟨filled, hfill, hpiece, -⟩ := exists_fill hsize h
  obtain ⟨hpieces, hfault, hend⟩ := pieces_fill hfill
  have hchunk : filled.chunk = [] := by
    rcases List.take_eq_nil_iff.1 hpiece.symm with hzero | hnil
    · exact absurd hzero hsize.ne'
    · exact hnil
  rw [show r.pieces size = _ from hpieces.symm, ← hfault, pieces, hchunk, hend hchunk]
  exact ⟨by simp [arrived, cut], rfl⟩

/-- A read fails if no piece is to come before the fault of the stream. -/
theorem fault_of_read (h : r.read size = .error fault) :
    r.pieces size = [] ∧ fault? r.items = some fault := by
  unfold read at h
  split at h
  · cases h
  · split at h
    · next hfill =>
      cases h
      exact fault_of_fill hfill
    · cases h

end Reader

/-! ## Writing -/

namespace Writer

/-- Writes pieces until one fails. -/
def writePieces : Writer → List Bytes → Writer × Option IoFault
  | w, [] => (w, none)
  | w, piece :: pieces =>
    match w.writeAll piece with
    | (w, none) => writePieces w pieces
    | (w, some fault) => (w, some fault)

variable {w w' : Writer} {piece : Bytes} {pieces : List Bytes}

/-- Everything that a writer has written. -/
def written (w : Writer) : Bytes := w.writes.reverse.flatten

@[simp] theorem written_fresh : w.fresh.written = [] := rfl

theorem taken_prefix (w : Writer) (offer : Bytes) : w.taken offer <+: offer := by
  unfold taken
  cases w.limit with
  | none => exact List.take_prefix _ _
  | some limit => exact (List.take_prefix _ _).trans (List.take_prefix _ _)

theorem write_eq_ok {offer taken : Bytes} (h : w.write offer = .ok (taken, w')) :
    taken <+: offer ∧ w'.written = w.written ++ taken := by
  unfold write at h
  split at h
  · cases h
  · cases h
    exact ⟨w.taken_prefix offer, by simp [written]⟩

theorem written_of_writeAll (h : w.writeAll piece = (w', none)) :
    w'.written = w.written ++ piece := by
  fun_induction writeAll w piece with
  | case1 w => cases h; simp
  | case2 w b rest fault hw => cases h
  | case3 w b rest w₁ hw => cases h
  | case4 w b rest c more w₁ hw ih =>
    obtain ⟨⟨left, hleft⟩, hwritten⟩ := write_eq_ok hw
    obtain ⟨rfl, rfl⟩ := List.cons.inj hleft
    rw [ih h, hwritten]
    simp

theorem written_of_writePieces (h : w.writePieces pieces = (w', none)) :
    w'.written = w.written ++ pieces.flatten := by
  induction pieces generalizing w with
  | nil => cases h; simp
  | cons piece pieces ih =>
    unfold writePieces at h
    split at h
    · next w₁ hw => simp [ih h, written_of_writeAll hw]
    · cases h

theorem writePieces_append {more : List Bytes} : w.writePieces (pieces ++ more) =
    match w.writePieces pieces with
    | (w, none) => w.writePieces more
    | (w, some fault) => (w, some fault) := by
  induction pieces generalizing w with
  | nil => rfl
  | cons piece pieces ih =>
    rw [List.cons_append, writePieces, writePieces]
    split
    · exact ih
    · rfl

end Writer

/-! ## Copying -/

/-- The loop offers the pieces to come to its writer, one after another. If it takes them all, the
fault of the stream is what remains, or the bytes are counted. -/
theorem loop_eq {size : Nat} (hsize : 0 < size) (w : Writer) (r : Reader) (total : Nat) :
    loop size w r total =
      match w.writePieces (r.pieces size), fault? r.items with
      | (w, some fault), _ => (w, .error fault)
      | (w, none), some fault => (w, .error fault)
      | (w, none), none => (w, .ok (total + (r.pieces size).flatten.length)) := by
  fun_induction loop size w r total with
  | case1 w r total fault hread =>
    obtain ⟨hpieces, hfault⟩ := Reader.fault_of_read hread
    rw [hpieces, hfault]
    rfl
  | case2 w r total more hread =>
    obtain ⟨hpieces, hfault⟩ := Reader.end_of_read hsize hread
    rw [hpieces, hfault]
    rfl
  | case3 w r total b rest more hread w₁ hwrite ih =>
    obtain ⟨hpieces, hfault⟩ := Reader.pieces_of_read hsize hread (List.cons_ne_nil b rest)
    rw [ih, hpieces, hfault, Writer.writePieces, hwrite, List.flatten_cons, List.length_append,
      Nat.add_assoc]
  | case4 w r total b rest more hread w₁ fault hwrite =>
    obtain ⟨hpieces, -⟩ := Reader.pieces_of_read hsize hread (List.cons_ne_nil b rest)
    rw [hpieces, Writer.writePieces, hwrite]

/-- Through a buffer without room nothing at all is copied, whatever there is to be read. -/
theorem loop_zero (w : Writer) (r : Reader) (total : Nat) : loop 0 w r total = (w, .ok total) := by
  rw [loop]
  rfl

variable {w : Writer} {stream : List (Except IoFault Bytes)} {chunkSize : Nat}

theorem inChunks_of_bufferBound_le (hb : bufferBound ≤ bufferSize chunkSize) :
    inChunks w stream chunkSize = ⟨.crashed overflowMessage, w.writes.reverse⟩ := if_pos hb

/-- With a buffer, a copy is the writing of the pieces that it offers: the writer fails first, or
the stream does, or everything has been copied. -/
theorem inChunks_eq (hb : bufferSize chunkSize < bufferBound) : inChunks w stream chunkSize =
    ⟨match (w.writePieces (offered stream chunkSize)).2, fault? stream with
      | some fault, _ => .failed fault
      | none, some fault => .failed fault
      | none, none => .done (arrived stream).flatten.length,
      (w.writePieces (offered stream chunkSize)).1.writes.reverse⟩ := by
  have hpieces : (Reader.ofStream stream).pieces (bufferSize chunkSize) =
      offered stream chunkSize := by
    rw [Reader.pieces, Reader.ofStream, cut, List.nil_append, offered]
  unfold inChunks
  rw [if_neg (Nat.not_le.2 hb), loop_eq (bufferSize_pos chunkSize), hpieces,
    show (Reader.ofStream stream).items = stream from rfl, flatten_offered, Nat.zero_add]
  obtain ⟨w', refused⟩ := w.writePieces (offered stream chunkSize)
  cases refused <;> cases fault? stream <;> rfl

end MqttConformance.Run.Copy
