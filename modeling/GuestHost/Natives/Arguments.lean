import GuestHost.Host.Access
import GuestHost.Text.Scalars

/-!
# Arguments of natives

A native reads its arguments one after the other; the first that is missing or of the wrong kind is
the fault that the call meets.
-/

namespace GuestHost.Args

/-- The argument at a place. -/
def get (args : List Value) (i : Nat) : Except Fault Value :=
  match args[i]? with
  | some v => .ok v
  | none => .error (.argument (.missing i args.length))

/-- An argument that is an int. -/
def int (args : List Value) (i : Nat) : Except Fault Int32 := do (← get args i).expectInt

/-- An argument that is a long. -/
def long (args : List Value) (i : Nat) : Except Fault Int64 := do (← get args i).expectLong

/-- An argument that is a float. -/
def float (args : List Value) (i : Nat) : Except Fault UInt32 := do (← get args i).expectFloat

/-- An argument that is a double. -/
def double (args : List Value) (i : Nat) : Except Fault UInt64 := do (← get args i).expectDouble

/-- An int that is not negative, as a number; otherwise the given fault. -/
def natOf (v : Int32) (fault : Int32 → BadArgument) : Except Fault Nat :=
  if v < 0 then .error (.argument (fault v)) else .ok v.toInt.toNat

/-- An argument that is an index. -/
def index (args : List Value) (i : Nat) : Except Fault Nat := do
  natOf (← int args i) .negativeIndex

/-- An argument that is a character. -/
def char (args : List Value) (i : Nat) : Except Fault Char := do
  let v ← int args i
  match Text.scalar? v with
  | some c => .ok c
  | none => .error (.argument (.character v))

/-- The part of a list of `length` elements that an offset and a count name: its start and its
length. -/
def range (offset count : Int32) (length : Nat) : Except Fault (Nat × Nat) :=
  if 0 ≤ offset ∧ 0 ≤ count ∧ offset.toInt.toNat + count.toInt.toNat ≤ length then
    .ok (offset.toInt.toNat, count.toInt.toNat)
  else .error (.argument (.range offset count length))

/-- The ints that all values of a list must hold. -/
def ints (vs : List Value) : Except Fault (List Int32) := vs.mapM Value.expectInt

/-- The text of the argument at a place. -/
def text (args : List Value) (i : Nat) : Action (List Char) := do
  return (← Action.text (← Action.ofResult (get args i))).toList

end GuestHost.Args
