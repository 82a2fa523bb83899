import GuestHost.Text.Kind
import GuestHost.Value

/-!
# Modules in memory

A module that keeps its objects in an arena of the host's memory. Guest code holds their numbers as
handles.
-/

namespace GuestHost

/-- An object of a module's arena. -/
inductive ArenaEntry
  | text (kind : TextKind) (contents : String)
  | array (items : List Value)
  /-- A file stream, with its file number. -/
  | stream (number : Int32)
deriving Repr, DecidableEq

instance : Inhabited ArenaEntry := ⟨.array []⟩

/-- A module in memory. -/
structure Arena where
  name : String
  entries : Array ArenaEntry
deriving Repr, DecidableEq

namespace Arena

/-- A module without objects. -/
def empty (name : String) : Arena := ⟨name, #[]⟩

/-- Number of objects. -/
def size (a : Arena) : Nat := a.entries.size

/-- Adds an object, and gives its handle. -/
def alloc (a : Arena) (e : ArenaEntry) : Value × Arena :=
  (.handle (UInt32.ofNat a.entries.size), { a with entries := a.entries.push e })

/-- The object with a handle. -/
def get? (a : Arena) (h : UInt32) : Option ArenaEntry := a.entries[h.toNat]?

/-- Replaces the object with a handle. -/
def put (a : Arena) (h : UInt32) (e : ArenaEntry) : Arena :=
  { a with entries := a.entries.setIfInBounds h.toNat e }

/-- The fault of a handle that is no object of a kind. -/
def dead (h : UInt32) (kind : String) : Fault := .reference (.handle h kind)

/-- The kind and the contents of a text object. -/
def textEntry (a : Arena) (h : UInt32) : Except Fault (TextKind × String) :=
  match a.get? h with
  | some (.text kind contents) => .ok (kind, contents)
  | _ => .error (dead h "text")

/-- The elements of an array. -/
def array (a : Arena) (h : UInt32) : Except Fault (List Value) :=
  match a.get? h with
  | some (.array items) => .ok items
  | _ => .error (dead h "array")

/-- The file number of a stream. -/
def stream (a : Arena) (h : UInt32) : Except Fault Int32 :=
  match a.get? h with
  | some (.stream number) => .ok number
  | _ => .error (dead h "file stream")

/-- The contents of a text object. -/
def text (a : Arena) (h : UInt32) : Except Fault String :=
  match a.textEntry h with
  | .ok (_, contents) => .ok contents
  | .error fault => .error fault

/-- The kind of a text object. -/
def textKind (a : Arena) (h : UInt32) : Except Fault TextKind :=
  match a.textEntry h with
  | .ok (kind, _) => .ok kind
  | .error fault => .error fault

/-- Replaces the contents of a text object. -/
def setText (a : Arena) (h : UInt32) (contents : String) : Except Fault Arena :=
  match a.textEntry h with
  | .ok (kind, _) => .ok (a.put h (.text kind contents))
  | .error fault => .error fault

/-- An element of an array. -/
def arrayGet (a : Arena) (h : UInt32) (i : Nat) : Except Fault Value :=
  match a.array h with
  | .error fault => .error fault
  | .ok items =>
    match items[i]? with
    | some v => .ok v
    | none => .error (.argument (.index i items.length))

/-- Sets an element of an array. -/
def arraySet (a : Arena) (h : UInt32) (i : Nat) (v : Value) : Except Fault Arena :=
  match a.array h with
  | .error fault => .error fault
  | .ok items =>
    if i < items.length then .ok (a.put h (.array (items.set i v)))
    else .error (.argument (.index i items.length))

/-- Sets the file number of a stream. -/
def setStream (a : Arena) (h : UInt32) (number : Int32) : Except Fault Arena :=
  match a.stream h with
  | .ok _ => .ok (a.put h (.stream number))
  | .error fault => .error fault

end Arena

end GuestHost
