import GuestHost.Dict
import GuestHost.Linkage.Target

/-!
# The host's heap

An arena of guest objects and guest arrays. Entries are only ever added, so a reference stays valid for
the life of the heap. Beside its fields an object has a payload, the host's own state for it.
-/

namespace GuestHost

/-- A host value that guest code holds through a wrapper. -/
inductive HostData
  /-- An array of floats, by their bits. -/
  | floats (items : List UInt32)
  | ints (items : List Int32)
  | shorts (items : List Int16)
  | bytes (items : List Int8)
  /-- A list of guest references. -/
  | references (items : List Value)
  | console
  | window
  | document
deriving Repr, DecidableEq

/-- The host's state for a guest object. -/
inductive Payload
  /-- None: a plain guest object. -/
  | empty
  /-- The contents of a string or a string builder. -/
  | text (contents : String)
  /-- The host value behind a wrapper. -/
  | host (data : HostData)
  /-- The class that a class object stands for. -/
  | mirror (cls : ClassId)
  | methodHandle (handle : MethodHandle)
  /-- The type that a method type returns. -/
  | methodType (cls : ClassId)
  /-- A bootstrapped call site, or the handle of its target. -/
  | factory (factory : Factory)
  /-- An instance that forwards to a target. -/
  | lambda (target : Target)
deriving Repr, DecidableEq

/-- A guest object; a field that was never set reads as null. -/
structure Object where
  cls : ClassId
  fields : Dict String Value
  payload : Payload
deriving Repr, DecidableEq

/-- An entry of the heap. -/
inductive Entry
  | object (o : Object)
  | array (items : List Value)
deriving Repr, DecidableEq

instance : Inhabited Entry := ⟨.array []⟩

/-- The arena of guest objects and arrays. -/
structure Heap where
  entries : Array Entry
deriving Repr, DecidableEq

namespace Heap

/-- The heap without entries. -/
def empty : Heap := ⟨#[]⟩

instance : Inhabited Heap := ⟨empty⟩

/-- Number of entries. -/
def size (h : Heap) : Nat := h.entries.size

/-- The entry that a reference points at. -/
def get? (h : Heap) (r : Ref) : Option Entry := h.entries[r.index.toNat]?

/-- Adds an entry, and gives the reference to it. -/
def alloc (h : Heap) (e : Entry) : Ref × Heap :=
  (⟨UInt32.ofNat h.entries.size⟩, ⟨h.entries.push e⟩)

/-- Adds an object without fields. -/
def allocObject (h : Heap) (cls : ClassId) (payload : Payload) : Ref × Heap :=
  h.alloc (.object ⟨cls, .empty, payload⟩)

/-- Replaces the entry that a reference points at. -/
def put (h : Heap) (r : Ref) (e : Entry) : Heap := ⟨h.entries.setIfInBounds r.index.toNat e⟩

/-- The object that a reference points at. -/
def object (h : Heap) (r : Ref) : Except Fault Object :=
  match h.get? r with
  | some (.object o) => .ok o
  | some (.array _) => .error (.mismatch "object" "array")
  | none => .error (.reference (.heap r.index))

/-- The elements of the array that a reference points at. -/
def array (h : Heap) (r : Ref) : Except Fault (List Value) :=
  match h.get? r with
  | some (.array items) => .ok items
  | some (.object _) => .error (.mismatch "array" "object")
  | none => .error (.reference (.heap r.index))

/-- A field of an object. -/
def field (h : Heap) (r : Ref) (name : String) : Except Fault Value :=
  match h.object r with
  | .ok o => .ok ((o.fields.get? name).getD .null)
  | .error fault => .error fault

/-- Sets a field of an object. -/
def setField (h : Heap) (r : Ref) (name : String) (v : Value) : Except Fault Heap :=
  match h.object r with
  | .ok o => .ok (h.put r (.object { o with fields := o.fields.set name v }))
  | .error fault => .error fault

/-- An element of an array. -/
def arrayGet (h : Heap) (r : Ref) (i : Nat) : Except Fault Value :=
  match h.array r with
  | .error fault => .error fault
  | .ok items =>
    match items[i]? with
    | some v => .ok v
    | none => .error (.argument (.arrayIndex i items.length))

/-- Sets an element of an array. -/
def arraySet (h : Heap) (r : Ref) (i : Nat) (v : Value) : Except Fault Heap :=
  match h.array r with
  | .error fault => .error fault
  | .ok items =>
    if i < items.length then .ok (h.put r (.array (items.set i v)))
    else .error (.argument (.arrayIndex i items.length))

/-- The text that an object holds; a plain object holds the empty text. -/
def text (h : Heap) (r : Ref) : Except Fault String :=
  match h.object r with
  | .error fault => .error fault
  | .ok o =>
    match o.payload with
    | .text contents => .ok contents
    | .empty => .ok ""
    | _ => .error (.mismatch "string" "object")

/-- Replaces the text that an object holds; a plain object becomes one that holds a text. -/
def setText (h : Heap) (r : Ref) (contents : String) : Except Fault Heap :=
  match h.object r with
  | .error fault => .error fault
  | .ok o =>
    match o.payload with
    | .text _ | .empty => .ok (h.put r (.object { o with payload := .text contents }))
    | _ => .error (.mismatch "string" "object")

end Heap

end GuestHost
