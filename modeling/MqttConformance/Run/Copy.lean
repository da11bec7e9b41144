import MqttConformance.FileSystem
import MqttConformance.Outcome

/-!
Copying a stream of chunks through a buffer. Each read fills the buffer as far as the chunk in hand
goes, and what has been read is written as often as it takes, since a writer may take less than it
is offered. A read that yields nothing is the end of the stream. The running total is a number
without a bound.
-/

namespace MqttConformance.Run

namespace Copy

/-- A size for which no buffer can be requested. -/
def bufferBound : Nat := 0x8000000000000000

/-- The size of the buffer for a chunk size; nothing can be read into an empty buffer. -/
def bufferSize (chunkSize : Nat) : Nat := max chunkSize 1

/-! ### Reading -/

/-- A stream that is read piece by piece: what is left of the chunk in hand, and the items to come.
-/
structure Reader where
  chunk : Bytes
  items : List (Except IoFault Bytes)

namespace Reader

/-- The reader of a stream, before it has read anything. -/
def ofStream (stream : List (Except IoFault Bytes)) : Reader := ⟨[], stream⟩

/-- A reader with a chunk in hand that is not empty, unless the stream ends before one comes. -/
def fill : Bytes → List (Except IoFault Bytes) → Except IoFault Reader
  | [], .ok chunk :: items => fill chunk items
  | [], .error fault :: _ => .error fault
  | chunk, items => .ok ⟨chunk, items⟩

/-- Reads into a buffer, from one chunk only. A buffer without room is left as it is, and so is the
stream. -/
def read (size : Nat) (r : Reader) : Except IoFault (Bytes × Reader) :=
  if size = 0 then .ok ([], r)
  else
    match fill r.chunk r.items with
    | .error fault => .error fault
    | .ok r => .ok (r.chunk.take size, { r with chunk := r.chunk.drop size })

/-- The bytes that an item carries. -/
def itemBytes : Except IoFault Bytes → Bytes
  | .ok chunk => chunk
  | .error _ => []

/-- The bytes in hand and in the items to come. -/
def remaining (r : Reader) : Bytes := r.chunk ++ r.items.flatMap itemBytes

variable {r r' : Reader}

theorem remaining_fill {chunk : Bytes} {items : List (Except IoFault Bytes)}
    (h : fill chunk items = .ok r) : r.remaining = remaining ⟨chunk, items⟩ := by
  induction items generalizing chunk with
  | nil =>
    cases chunk <;> cases h <;> rfl
  | cons item items ih =>
    cases chunk with
    | cons => cases h; rfl
    | nil =>
      cases item with
      | error => cases h
      | ok next => exact ih h

/-- Reading takes bytes from the front and loses none. -/
theorem remaining_read {size : Nat} {piece : Bytes} (h : r.read size = .ok (piece, r')) :
    r.remaining = piece ++ r'.remaining := by
  unfold read at h
  split at h
  · cases h
    rfl
  · split at h
    · cases h
    · next filled hfill =>
      cases h
      rw [← remaining_fill hfill, remaining, remaining, ← List.append_assoc,
        List.take_append_drop]

end Reader

/-! ### Writing -/

/-- A writer: how many bytes it takes at once, how many writes it still makes, how much of an offer
it has room for after the writes before, and the writes it has made, the latest first. -/
structure Writer where
  limit : Option Nat := none
  budget : Option Nat := none
  room : List Bytes → Bytes → Nat := fun _ offer => offer.length
  writes : List Bytes := []

namespace Writer

/-- The writer before it has written anything. -/
def fresh (w : Writer) : Writer := { w with writes := [] }

/-- What a writer takes of an offer. -/
def taken (w : Writer) (offer : Bytes) : Bytes :=
  let held := offer.take (w.room w.writes offer)
  match w.limit with
  | some limit => held.take limit
  | none => held

/-- Offers bytes to a writer, which takes as many as it can at once. -/
def write (w : Writer) (offer : Bytes) : Except IoFault (Bytes × Writer) :=
  if w.budget = some 0 then .error (.other "disk full")
  else
    let taken := w.taken offer
    .ok (taken, { w with budget := w.budget.map (· - 1), writes := taken :: w.writes })

/-- Offers a piece until all of it is taken. A write that takes nothing is a fault. -/
def writeAll (w : Writer) : Bytes → Writer × Option IoFault
  | [] => (w, none)
  | b :: rest =>
    match w.write (b :: rest) with
    | .error fault => (w, some fault)
    | .ok ([], w) => (w, some (.other "write zero"))
    | .ok (_ :: more, w) => writeAll w (rest.drop more.length)
termination_by piece => piece.length
decreasing_by
  simp only [List.length_drop, List.length_cons]
  omega

end Writer

/-! ### Copying -/

/-- Writes what is read, buffer by buffer, until nothing is read or something fails; `total` bytes
have been written before. -/
def loop (size : Nat) (w : Writer) (r : Reader) (total : Nat) : Writer × Except IoFault Nat :=
  match _ : r.read size with
  | .error fault => (w, .error fault)
  | .ok ([], _) => (w, .ok total)
  | .ok (b :: rest, more) =>
    match w.writeAll (b :: rest) with
    | (w, none) => loop size w more (total + (b :: rest).length)
    | (w, some fault) => (w, .error fault)
termination_by r.remaining.length
decreasing_by
  rw [Reader.remaining_read ‹r.read size = .ok (b :: rest, more)›, List.length_append,
    List.length_cons]
  omega

/-- The message of the crash when no buffer can be had. -/
def overflowMessage : String := "capacity overflow"

/-- What a copy has come to: the total, the fault or the crash, and the writes in order. -/
structure Report where
  total : Outcome IoFault Nat
  writes : List Bytes

/-- Copies a stream through a buffer for the given chunk size. The buffer is requested first. -/
def inChunks (w : Writer) (stream : List (Except IoFault Bytes)) (chunkSize : Nat) : Report :=
  if bufferBound ≤ bufferSize chunkSize then ⟨.crashed overflowMessage, w.writes.reverse⟩
  else
    let (w, total) := loop (bufferSize chunkSize) w (.ofStream stream) 0
    ⟨.ofExcept total, w.writes.reverse⟩

end Copy

end MqttConformance.Run
