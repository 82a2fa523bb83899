import GuestHost.Host.Dispatch
import GuestHost.Value.Word

/-!
# Entry points of a compiled module

A compiled module is entered at two points. While it runs it asks the host for natives by a callback,
and in the end it reports a code; zero stands for success. The callback answers a failed request with
nothing but the failure and keeps the fault. An entry point that reports failure ends with the last
fault kept since it was entered, or with one that names the entry point if there is none.
-/

namespace GuestHost

/-- A request of a module for a native. Owner and key are bytes that a zero byte ends; they may be
missing. -/
structure NativeRequest where
  owner : Option Bytes
  key : Option Bytes
  args : List Word
deriving Repr, DecidableEq

/-- What a module does after it is entered: requests, and a code in the end. Each request is answered
with a word, or with nothing if it fails. -/
inductive EntryProgram
  | exit (code : Int32)
  | request (r : NativeRequest) (next : Option Word → EntryProgram)

instance : Inhabited EntryProgram := ⟨.exit 0⟩

/-- What the callback knows. -/
structure Callback where
  /-- Whether an entry point is running. -/
  active : Bool
  /-- The last fault of a request. -/
  lastFault : Option Fault
  /-- The answers given so far. -/
  answers : List (Option Word)
deriving Repr, DecidableEq

namespace Callback

/-- No entry point was ever entered. -/
def idle : Callback := ⟨false, none, []⟩

instance : Inhabited Callback := ⟨idle⟩

/-- Keeps a fault, and answers with nothing. -/
def refuse (c : Callback) (fault : Fault) : Callback :=
  { c with lastFault := some fault, answers := c.answers ++ [none] }

/-- Answers with a word. -/
def answer (c : Callback) (w : Word) : Callback := { c with answers := c.answers ++ [some w] }

end Callback

namespace NativeRequest

/-- The text that bytes up to a zero byte are. -/
def textOf (flawed : Utf8.Flaw → ModuleFault) (bytes : Bytes) : Except Fault String :=
  match Utf8.decode (bytes.takeWhile (· ≠ 0)) with
  | .ok cs => .ok (String.ofList cs)
  | .error flaw => .error (.inModule (flawed flaw))

/-- The call that a request asks for. -/
def call (r : NativeRequest) : Except Fault Call :=
  match r.owner, r.key with
  | some owner, some key => do
    let owner ← textOf .ownerName owner
    let key ← textOf .signatureKey key
    return .native owner key (← Word.toValues r.args)
  | _, _ => .error (.inModule .outsideCall)

/-- Makes a request. Outside of an entry point it fails, and the host is not touched. -/
def make (r : NativeRequest) (c : Callback) (h : Host) :
    Option (Option Word × Callback × Host) :=
  if c.active then
    match r.call with
    | .error fault => some (none, c.refuse fault, h)
    | .ok call =>
      match (Host.call call).apply h with
      | none => none
      | some (.error fault, h') => some (none, c.refuse fault, h')
      | some (.ok v, h') => some (some (Word.ofValue v), c.answer (Word.ofValue v), h')
  else some (none, c.refuse (.inModule .outsideCall), h)

end NativeRequest

namespace EntryProgram

/-- Runs what a module does: its code, the callback and the host in the end. -/
def run (c : Callback) (h : Host) : EntryProgram → Option (Int32 × Callback × Host)
  | .exit code => some (code, c, h)
  | .request r next =>
    match r.make c h with
    | none => none
    | some (w, c', h') => run c' h' (next w)

/-- Enters a module at the entry point with a given name. -/
def enter (p : EntryProgram) (name : String) (c : Callback) (h : Host) :
    Option (Except Fault Unit × Callback × Host) :=
  match p.run { c with active := true, lastFault := none } h with
  | none => none
  | some (code, c', h') =>
    let left := { c' with active := c.active }
    if code = 0 then some (.ok (), left, h')
    else
      some (.error (c'.lastFault.getD (.inModule (.entry name code))),
        { left with lastFault := none }, h')

end EntryProgram

end GuestHost
