import GuestHost.Fault
import GuestHost.Value

/-!
# Values at the module boundary

A module and the host exchange values as a tag and 64 bits of data. Every value has one such word, and
a word with a known tag stands for one value, whatever the bits that its tag does not use.
-/

namespace GuestHost

/-- A tagged value as a module sees it. -/
structure Word where
  tag : UInt8
  data : UInt64
deriving Repr, DecidableEq

namespace Word

/-- The word of null. -/
def null : Word := ⟨0, 0⟩

instance : Inhabited Word := ⟨null⟩

/-- The word of a value. -/
def ofValue : Value → Word
  | .null => null
  | .int i => ⟨1, i.toUInt32.toUInt64⟩
  | .long l => ⟨2, l.toUInt64⟩
  | .float bits => ⟨3, bits.toUInt64⟩
  | .double bits => ⟨4, bits⟩
  | .ref r => ⟨5, r.index.toUInt64⟩
  | .handle h => ⟨6, h.toUInt64⟩

/-- The value that a word stands for. -/
def toValue (w : Word) : Except Fault Value :=
  if w.tag = 0 then .ok .null
  else if w.tag = 1 then .ok (.int w.data.toUInt32.toInt32)
  else if w.tag = 2 then .ok (.long w.data.toInt64)
  else if w.tag = 3 then .ok (.float w.data.toUInt32)
  else if w.tag = 4 then .ok (.double w.data)
  else if w.tag = 5 then .ok (.ref ⟨w.data.toUInt32⟩)
  else if w.tag = 6 then .ok (.handle w.data.toUInt32)
  else .error (.inModule (.unknownTag w.tag))

/-- The values that a list of words stands for, or the fault of the first that stands for none. -/
def toValues : List Word → Except Fault (List Value)
  | [] => .ok []
  | w :: rest =>
    match w.toValue with
    | .error fault => .error fault
    | .ok v =>
      match toValues rest with
      | .error fault => .error fault
      | .ok vs => .ok (v :: vs)

end Word

end GuestHost
