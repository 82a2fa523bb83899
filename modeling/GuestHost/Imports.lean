import GuestHost.Dict
import GuestHost.Registry

/-!
# The import table

Natives are found by the name of the type that owns them and by a signature key. Every entry says
whether the native is called with a receiver. The code of a native is of an arbitrary type `ν`.
-/

namespace GuestHost

/-- A native. -/
structure Import (ν : Type) where
  kind : MethodKind
  code : ν

/-- The natives by owner and key. -/
structure Imports (ν : Type) where
  entries : Dict (String × String) (Import ν)

namespace Imports

variable {ν : Type}

/-- The table without natives. -/
def empty : Imports ν := ⟨.empty⟩

instance : Inhabited (Imports ν) := ⟨empty⟩

/-- Adds a native in place of one with the same owner and key. -/
def add (t : Imports ν) (owner key : String) (kind : MethodKind) (code : ν) : Imports ν :=
  ⟨t.entries.set (owner, key) ⟨kind, code⟩⟩

/-- The native of an owner and a key. -/
def find? (t : Imports ν) (owner key : String) : Option (Import ν) := t.entries.get? (owner, key)

/-- The native that an owner and a key must have. -/
def resolve (t : Imports ν) (owner key : String) : Except Fault (Import ν) :=
  match t.find? owner key with
  | some e => .ok e
  | none => .error (.unresolved owner key)

/-- Whether there is a native for an owner and a key. -/
def contains (t : Imports ν) (owner key : String) : Bool := (t.find? owner key).isSome

/-- The owners, in order and without repetition. -/
def owners (t : Imports ν) : List String :=
  ((t.entries.keys.map (·.1)).eraseDups).mergeSort fun a b => decide (a ≤ b)

/-- The keys of an owner with the kinds of their natives, in the order of the keys. -/
def keysOf (t : Imports ν) (owner : String) : List (String × MethodKind) :=
  let entries := t.entries.entries.filter fun e => e.1.1 == owner
  (entries.map fun e => (e.1.2, e.2.kind)).mergeSort fun a b => decide (a.1 ≤ b.1)

end Imports

end GuestHost
