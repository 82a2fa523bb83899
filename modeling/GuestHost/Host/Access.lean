import GuestHost.Host
import GuestHost.Value.Conversion

/-!
# Texts, arrays and file streams of a guest

Guest code sees texts, arrays and file streams in the same way in both modes. In direct mode they are
entries of the heap; in exported mode the module creates texts and arrays and keeps its own streams,
and heap entries are reached all the same.
-/

namespace GuestHost

namespace Host

/-- The attached module. -/
def module? (h : Host) : Except Fault Module :=
  match h.attached with
  | some m => .ok m
  | none => .error (.inModule .notAttached)

/-! ## Reading -/

/-- The text behind a value. Null reads as the empty text. -/
def text (h : Host) (v : Value) : Except Fault String :=
  match h.mode, v with
  | _, .null => .ok ""
  | _, .ref r => h.heap.text r
  | .exported, .handle n => do (← h.module?).text n
  | _, v => .error (.mismatch "string" v.kindName)

/-- The length of an array. -/
def arrayLength (h : Host) (v : Value) : Except Fault Nat :=
  match v with
  | .ref r => (h.heap.array r).map List.length
  | .handle n => do (← h.module?).arrayLength n
  | v => .error (v.notA "array")

/-- An element of an array. -/
def arrayGet (h : Host) (v : Value) (i : Nat) : Except Fault Value :=
  match v with
  | .ref r => h.heap.arrayGet r i
  | .handle n => do (← h.module?).arrayGet n i
  | v => .error (v.notA "array")

/-- All elements of an array. -/
def arrayValues (h : Host) (v : Value) : Except Fault (List Value) :=
  match v with
  | .ref r => h.heap.array r
  | .handle n => do (← h.module?).arrayValues n
  | v => .error (v.notA "array")

/-- The field of a file stream that holds its descriptor, and of a descriptor that holds the file
number. -/
def descriptorField : String := "fd"

/-- The file number of a file stream, -1 if it has none. -/
def descriptor (h : Host) (v : Value) : Except Fault Int32 :=
  match v with
  | .ref r => do
    match ← h.heap.field r descriptorField with
    | .ref d => return ((← h.heap.field d descriptorField).toInt?).getD (-1)
    | _ => return -1
  | .handle n => do (← h.module?).stream n
  | v => .error (v.notA "file stream")

end Host

namespace Action

/-! ## Changing parts of the host -/

/-- Replaces the heap by the outcome of a write to it. -/
def updateHeap (f : Heap → Except Fault Heap) : Action Unit := do
  let heap ← ofResult (f (← get).heap)
  modify fun h => { h with heap }

/-- Adds an object to the heap. -/
def allocObject (cls : ClassId) (payload : Payload) : Action Ref :=
  modifyGet fun h =>
    let (r, heap) := h.heap.allocObject cls payload
    (r, { h with heap })

/-- Adds an array to the heap. -/
def allocArray (items : List Value) : Action Ref :=
  modifyGet fun h =>
    let (r, heap) := h.heap.alloc (.array items)
    (r, { h with heap })

/-- Applies an operation of the attached module, which stays as the operation leaves it. -/
def onModule {α : Type} (f : Module → Except Fault α × Module) : Action α := do
  let m ← view Host.module?
  let (result, m') := f m
  modify fun h => { h with attached := some m' }
  ofResult result

/-! ## Texts -/

/-- The text behind a value. -/
def text (v : Value) : Action String := view fun h => h.text v

/-- The class of the heap objects that hold texts of a kind. -/
def textClass : TextKind → ClassId
  | .string => CoreClass.string
  | .builder => CoreClass.stringBuilder
  | .buffer => CoreClass.stringBuffer

/-- Creates a text object. -/
def newText (kind : TextKind) (contents : String) : Action Value := do
  match (← get).mode with
  | .direct => return .ref (← allocObject (textClass kind) (.text contents))
  | .exported => onModule fun m => m.newText kind contents

/-- Creates a string. -/
def newString (contents : String) : Action Value := newText .string contents

/-- Replaces the text behind a value. -/
def setText (v : Value) (contents : String) : Action Unit := do
  match (← get).mode, v with
  | _, .ref r => updateHeap fun heap => heap.setText r contents
  | .exported, .handle n => onModule fun m => m.setText n contents
  | _, v => fail (.mismatch "string" v.kindName)

/-! ## Arrays -/

/-- Creates an array. -/
def newArray (items : List Value) : Action Value := do
  match (← get).mode with
  | .direct => return .ref (← allocArray items)
  | .exported => onModule fun m => m.newArray items

/-- The length of an array. -/
def arrayLength (v : Value) : Action Nat := view fun h => h.arrayLength v

/-- An element of an array. -/
def arrayGet (v : Value) (i : Nat) : Action Value := view fun h => h.arrayGet v i

/-- All elements of an array. -/
def arrayValues (v : Value) : Action (List Value) := view fun h => h.arrayValues v

/-- Sets an element of an array. -/
def arraySet (v : Value) (i : Nat) (value : Value) : Action Unit := do
  match v with
  | .ref r => updateHeap fun heap => heap.arraySet r i value
  | .handle n => onModule fun m => m.arraySet n i value
  | v => fail (v.notA "array")

/-- Sets the elements of an array from index `i` on, one after the other. -/
def arrayFill (v : Value) : (i : Nat) → List Value → Action Unit
  | _, [] => pure ()
  | i, item :: rest => do
    arraySet v i item
    arrayFill v (i + 1) rest

/-! ## File streams -/

/-- The file number of a file stream. -/
def descriptor (v : Value) : Action Int32 := view fun h => h.descriptor v

/-- The descriptor object of a stream in the heap; it is created if there is none. -/
def descriptorObject (stream : Ref) : Action Ref := do
  match ← view fun h => h.heap.field stream Host.descriptorField with
  | .ref d => return d
  | _ =>
    let d ← allocObject CoreClass.fileDescriptor .empty
    updateHeap fun heap => heap.setField stream Host.descriptorField (.ref d)
    return d

/-- Sets the file number of a file stream. -/
def setDescriptor (v : Value) (number : Int32) : Action Unit := do
  match v with
  | .ref r =>
    let d ← descriptorObject r
    updateHeap fun heap => heap.setField d Host.descriptorField (.int number)
  | .handle n => onModule fun m => m.setStream n number
  | v => fail (v.notA "file stream")

/-- Applies an operation of the file table. -/
def onFiles {α : Type} (f : FileTable → α × FileTable) : Action α :=
  modifyGet fun h =>
    let (a, files) := f h.files
    (a, { h with files })

/-- Fetches a path and opens a reading of it. -/
def openFile (path : String) : Action Int32 := do
  let source := (← get).source
  onFiles fun t => t.openForRead source path

/-- Whether a path exists. -/
def fileExists (path : String) : Action Bool := do
  let h ← get
  return h.files.holds h.source path

end Action

end GuestHost
