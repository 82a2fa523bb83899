import GuestHost.Module.TextFetch
import GuestHost.Text.Kind
import GuestHost.Value.Word

/-!
# Modules in a shared library

A compiled module is foreign code. It keeps its objects to itself and is reached through its accessors,
which exchange words and report failure by a code. What an accessor answers, what it refuses and what it
leaves of the module's memory is the module's own affair, so the accessors are a parameter (`Accessors`).
All that is taken for granted is that reading leaves the memory as it is.

`Accessors.table` is one choice, that of a module that keeps what it is given in a table.
-/

namespace GuestHost

/-- Something that a compiled module may keep. -/
inductive LibraryObject
  /-- A text, or any bytes at all. -/
  | text (bytes : Bytes)
  | array (items : List Word)
  /-- A file stream, with its file number. -/
  | stream (number : Int32)
deriving Repr, DecidableEq

/-- What a compiled module keeps. Only its accessors look at it. -/
structure LibraryMemory where
  objects : Array LibraryObject
  /-- A word beside the objects. -/
  newAnswers : Option Word
deriving Repr, DecidableEq

/-- The accessors of a compiled module. Objects are known by their handles. -/
structure Accessors where
  /-- Creates a text of a kind. -/
  textNew : LibraryMemory → UInt8 → Bytes → Word × LibraryMemory
  /-- The size of a text, or a negative number, and the bytes that are put into the buffer that is
  offered; calls of one fetch are counted. -/
  textGet : LibraryMemory → UInt32 → Nat → Bytes → Int64 × Bytes
  /-- Replaces a text. -/
  textSet : LibraryMemory → UInt32 → Bytes → Int32 × LibraryMemory
  /-- The file number of a stream. -/
  streamGet : LibraryMemory → UInt32 → Int32
  /-- Sets the file number of a stream. -/
  streamSet : LibraryMemory → UInt32 → Int32 → Int32 × LibraryMemory
  /-- Creates an array. -/
  arrayNew : LibraryMemory → List Word → Word × LibraryMemory
  /-- The length of an array, or a negative number. -/
  arrayLength : LibraryMemory → UInt32 → Int64
  /-- An element of an array. -/
  elementGet : LibraryMemory → UInt32 → Nat → Int32 × Word
  /-- Sets an element of an array. -/
  elementSet : LibraryMemory → UInt32 → Nat → Word → Int32 × LibraryMemory

/-! ## A table of objects -/

namespace LibraryMemory

/-- The object with a handle. -/
def get? (m : LibraryMemory) (h : UInt32) : Option LibraryObject := m.objects[h.toNat]?

/-- Replaces the object with a handle. -/
def put (m : LibraryMemory) (h : UInt32) (o : LibraryObject) : LibraryMemory :=
  { m with objects := m.objects.setIfInBounds h.toNat o }

/-- Creates an object, unless the word beside the objects is answered instead. -/
def create (m : LibraryMemory) (o : LibraryObject) : Word × LibraryMemory :=
  match m.newAnswers with
  | some w => (w, m)
  | none =>
    (Word.ofValue (.handle (UInt32.ofNat m.objects.size)), { m with objects := m.objects.push o })

end LibraryMemory

/-- The accessors of a module that keeps its objects in a table. A handle that is no object of the kind
is refused with code 1, or 2 for a stream, and an index that is too large with code 2. -/
def Accessors.table : Accessors where
  textNew m _ bytes := m.create (.text bytes)
  textGet m h _ _ :=
    match m.get? h with
    | some (.text bytes) => (Int64.ofNat bytes.length, bytes)
    | _ => (-1, [])
  textSet m h bytes :=
    match m.get? h with
    | some (.text _) => (0, m.put h (.text bytes))
    | _ => (1, m)
  streamGet m h :=
    match m.get? h with
    | some (.stream number) => number
    | _ => -1
  streamSet m h number :=
    match m.get? h with
    | some (.stream _) => (0, m.put h (.stream number))
    | _ => (2, m)
  arrayNew m items := m.create (.array items)
  arrayLength m h :=
    match m.get? h with
    | some (.array items) => Int64.ofNat items.length
    | _ => -1
  elementGet m h i :=
    match m.get? h with
    | some (.array items) =>
      match items[i]? with
      | some w => (0, w)
      | none => (2, .null)
    | _ => (1, .null)
  elementSet m h i w :=
    match m.get? h with
    | some (.array items) =>
      if i < items.length then (0, m.put h (.array (items.set i w))) else (2, m)
    | _ => (1, m)

/-! ## What the host makes of them -/

/-- A compiled module. -/
structure Library extends LibraryMemory where
  name : String
  /-- How the module answers; a table of objects if nothing else is said. -/
  accessors : Accessors := .table

namespace Library

/-- The module with another memory. -/
def withMemory (l : Library) (m : LibraryMemory) : Library := { l with toLibraryMemory := m }

/-- The fault of an accessor that reports failure. -/
def check (l : Library) (entry : String) (code : Int32) : Except Fault Unit :=
  if code = 0 then .ok () else .error (.inModule (.accessor l.name entry code))

/-- The outcome of an accessor that changes something. -/
def changed (l : Library) (entry : String) : Int32 × LibraryMemory → Except Fault Unit × Library
  | (code, m) => (l.check entry code, l.withMemory m)

/-- The outcome of an accessor that creates something: what its word stands for. -/
def created (l : Library) : Word × LibraryMemory → Except Fault Value × Library
  | (w, m) => (w.toValue, l.withMemory m)

/-- Creates a text object. -/
def newText (l : Library) (kind : TextKind) (contents : String) : Except Fault Value × Library :=
  l.created (l.accessors.textNew l.toLibraryMemory kind.code (Utf8.ofString contents))

/-- How the module answers when asked for a text. It writes into the buffer that it is offered, and
nowhere else. -/
def responder (l : Library) (h : UInt32) : TextFetch.Responder := fun call buffer =>
  let (size, written) := l.accessors.textGet l.toLibraryMemory h call buffer
  (size.toInt, written.take buffer.length ++ buffer.drop written.length)

/-- The number of sizes that an accessor can report. A call that asks for more reports a greater size than
the one before, so a fetch does not need more calls than there are sizes. -/
def sizes : Nat := 0x8000000000000000

/-- The contents of a text object. -/
def text (l : Library) (h : UInt32) : Except Fault String :=
  (TextFetch.fetch? (l.responder h) sizes h).getD (.error (.reference (.handle h "text")))

/-- Replaces the contents of a text object. -/
def setText (l : Library) (h : UInt32) (contents : String) : Except Fault Unit × Library :=
  l.changed "bytelink_text_set" (l.accessors.textSet l.toLibraryMemory h (Utf8.ofString contents))

/-- Creates an array. -/
def newArray (l : Library) (items : List Value) : Except Fault Value × Library :=
  l.created (l.accessors.arrayNew l.toLibraryMemory (items.map Word.ofValue))

/-- The length of an array. -/
def arrayLength (l : Library) (h : UInt32) : Except Fault Nat :=
  let n := (l.accessors.arrayLength l.toLibraryMemory h).toInt
  if n < 0 then .error (.reference (.handle h "array")) else .ok n.toNat

/-- An element of an array. -/
def arrayGet (l : Library) (h : UInt32) (i : Nat) : Except Fault Value :=
  let (code, w) := l.accessors.elementGet l.toLibraryMemory h i
  match l.check "bytelink_array_get" code with
  | .error fault => .error fault
  | .ok () => w.toValue

/-- Sets an element of an array. -/
def arraySet (l : Library) (h : UInt32) (i : Nat) (v : Value) : Except Fault Unit × Library :=
  l.changed "bytelink_array_set" (l.accessors.elementSet l.toLibraryMemory h i (Word.ofValue v))

/-- The file number of a stream. -/
def stream (l : Library) (h : UInt32) : Int32 := l.accessors.streamGet l.toLibraryMemory h

/-- Sets the file number of a stream. -/
def setStream (l : Library) (h : UInt32) (number : Int32) : Except Fault Unit × Library :=
  l.changed "bytelink_fd_set" (l.accessors.streamSet l.toLibraryMemory h number)

end Library

end GuestHost
