import GuestHost.Files.Console
import GuestHost.Files.Source

/-!
# The file table

Guest file streams know a file by a number only, the index of a slot. Slots 1 and 2 are the console
streams and slot 0 is never used; from 3 on a slot holds an open reading of a file, whose bytes were
all fetched when it was opened. The slot of a released reading is used again. Every failure is the
answer -1 or false.
-/

namespace GuestHost

/-- An open reading of a file. -/
structure Reading where
  buffer : Bytes
  position : Nat
deriving Repr, DecidableEq

namespace Reading

/-- A reading at the start of a file. -/
def start (buffer : Bytes) : Reading := ⟨buffer, 0⟩

/-- Number of bytes of the file. -/
def size (r : Reading) : Nat := r.buffer.length

/-- Number of bytes left to read. -/
def remaining (r : Reading) : Nat := r.size - r.position

/-- The next bytes, at most `n`, and the reading after them. -/
def take (r : Reading) (n : Nat) : Bytes × Reading :=
  let bytes := (r.buffer.drop r.position).take n
  (bytes, { r with position := r.position + bytes.length })

end Reading

/-- What a file number stands for. -/
inductive Slot
  /-- A console stream, with the bytes of its unfinished line. -/
  | console (stream : ConsoleStream) (pending : Bytes)
  | reading (r : Reading)
deriving Repr, DecidableEq

namespace Slot

/-- The reading in a slot. -/
def reading? : Slot → Option Reading
  | .console _ _ => none
  | .reading r => some r

/-- The unfinished line of a slot, as the line that it becomes when it is emitted as it is. -/
def unfinished : Slot → List ConsoleLine
  | .console stream pending => (Console.flush pending).map fun line => ⟨stream, Console.lineText line⟩
  | .reading _ => []

/-- A slot without an unfinished line. -/
def flushed : Slot → Slot
  | .console stream _ => .console stream []
  | .reading r => .reading r

end Slot

/-- What file numbers stand for. -/
structure FileTable where
  /-- What each number stands for, from number 0 on; a number of no use leaves a gap. -/
  slots : List (Option Slot)
  /-- Whether files may be opened. -/
  enabled : Bool
  /-- The lines emitted so far. -/
  emitted : Array ConsoleLine
deriving Repr, DecidableEq

namespace FileTable

/-- The number of the first reading. -/
def firstReading : Nat := 3

/-- The table at the start: the console streams, and no files may be opened. -/
def empty : FileTable where
  slots := [none, some (.console .stdout []), some (.console .stderr [])]
  enabled := false
  emitted := #[]

instance : Inhabited FileTable := ⟨empty⟩

/-- Allows files to be opened. -/
def enable (t : FileTable) : FileTable := { t with enabled := true }

/-- The place of a number in the table; negative numbers have none. -/
def place? (number : Int32) : Option Nat :=
  if number < 0 then none else some number.toInt.toNat

/-- What a number stands for. -/
def slot? (t : FileTable) (number : Int32) : Option Slot :=
  match place? number with
  | none => none
  | some i => (t.slots[i]?).join

/-- Replaces what a number stands for. -/
def putSlot (t : FileTable) (number : Int32) (s : Option Slot) : FileTable :=
  match place? number with
  | none => t
  | some i => { t with slots := t.slots.set i s }

/-- The open reading with a number. -/
def reading? (t : FileTable) (number : Int32) : Option Reading :=
  (t.slot? number).bind Slot.reading?

/-- Replaces the reading with a number. -/
def putReading (t : FileTable) (number : Int32) (r : Reading) : FileTable :=
  t.putSlot number (some (.reading r))

/-- The first place from that of the first reading on which is free. -/
def freePlace (t : FileTable) : Nat :=
  match (t.slots.drop firstReading).findIdx? Option.isNone with
  | some offset => firstReading + offset
  | none => t.slots.length

/-- Opens a reading of the given bytes in the first free place. -/
def occupy (t : FileTable) (buffer : Bytes) : FileTable :=
  let i := t.freePlace
  let s := some (Slot.reading (Reading.start buffer))
  { t with slots := if i < t.slots.length then t.slots.set i s else t.slots ++ [s] }

/-- Fetches a path and opens a reading of its bytes under the first free number. -/
def openForRead (t : FileTable) (source : FileSource) (path : String) : Int32 × FileTable :=
  if t.enabled then
    match source.fetch path with
    | .error _ => (-1, t)
    | .ok buffer => (Int32.ofNat t.freePlace, t.occupy buffer)
  else (-1, t)

/-- Whether a path exists; nothing exists as long as files may not be opened. -/
def holds (t : FileTable) (source : FileSource) (path : String) : Bool :=
  t.enabled && source.holds path

/-- Moves a reading forward by at most `amount` bytes; answers by how many. -/
def skip (t : FileTable) (number : Int32) (amount : Int64) : Int64 × FileTable :=
  match t.reading? number with
  | none => (-1, t)
  | some r =>
    if amount ≤ 0 then (0, t)
    else
      let step := min amount.toInt.toNat r.remaining
      (Int64.ofNat step, t.putReading number { r with position := r.position + step })

/-- The number of bytes left in a reading, as far as an int can tell. -/
def available (t : FileTable) (number : Int32) : Int32 :=
  match t.reading? number with
  | none => -1
  | some r => Int32.ofNat (min r.remaining 0x7FFFFFFF)

/-- The next byte of a reading, or -1 at its end. -/
def readByte (t : FileTable) (number : Int32) : Int32 × FileTable :=
  match t.reading? number with
  | none => (-1, t)
  | some r =>
    match r.buffer[r.position]? with
    | none => (-1, t)
    | some b =>
      (b.toUInt32.toInt32, t.putReading number { r with position := r.position + 1 })

/-- The next bytes of a reading, at most `length`; answers with their number, which is -1 at the end of
the file unless no byte is asked for. -/
def readBytes (t : FileTable) (number : Int32) (length : Nat) : Int32 × Bytes × FileTable :=
  match t.reading? number with
  | none => (-1, [], t)
  | some r =>
    if length = 0 then (0, [], t)
    else
      let (bytes, r') := r.take length
      if bytes.isEmpty then (-1, [], t)
      else (Int32.ofNat bytes.length, bytes, t.putReading number r')

/-- Adds lines of a stream to those emitted. -/
def emit (t : FileTable) (stream : ConsoleStream) (lines : List Bytes) : FileTable :=
  { t with emitted := t.emitted ++ (lines.map fun line => ⟨stream, Console.lineText line⟩).toArray }

/-- Writes to a console stream; every other number refuses. -/
def write (t : FileTable) (number : Int32) (bytes : Bytes) : Bool × FileTable :=
  match t.slot? number with
  | some (.console stream pending) =>
    let (lines, rest) := Console.feed pending bytes
    (true, (t.emit stream lines).putSlot number (some (.console stream rest)))
  | _ => (false, t)

/-- Emits the unfinished lines. -/
def flush (t : FileTable) : FileTable where
  slots := t.slots.map (Option.map Slot.flushed)
  enabled := t.enabled
  emitted := t.emitted ++ (t.slots.flatMap fun s => (s.map Slot.unfinished).getD []).toArray

/-- Closes a reading; answers whether there was one. -/
def release (t : FileTable) (number : Int32) : Bool × FileTable :=
  if number < 3 then (false, t)
  else
    match t.reading? number with
    | none => (false, t)
    | some _ => (true, t.putSlot number none)

/-- Number of open readings. -/
def openCount (t : FileTable) : Nat :=
  t.slots.countP fun s => (s.bind Slot.reading?).isSome

end FileTable

end GuestHost
