import GuestHost.Config
import GuestHost.Files.Table
import GuestHost.Module
import GuestHost.Natives.Builtin
import GuestHost.Program

/-!
# The host

The host is one value: its heap, class registry, linked sites and file table, the source of its files,
its import table and the module that is attached. An `Action` changes it and either has a result or
meets a fault; what was changed before a fault stays changed. A `Process` may moreover enter guest code,
and ends without an outcome if guest code nests too deep.
-/

namespace GuestHost

/-- The code of a native: one that the host provides, or a program of the embedder. -/
inductive NativeCode
  | builtin (b : Builtin)
  | body (b : Body)

/-- A source of random numbers: what it gives in a state, 64 random bits, and the state after them. -/
abbrev RandomSource := Nat → UInt64 × Nat

/-- A source that multiplies and adds. -/
def RandomSource.congruential : RandomSource := fun state =>
  let next := UInt64.ofNat state * 6364136223846793005 + 1442695040888963407
  (next, next.toNat)

/-- What the host knows of the world around it. -/
structure Surroundings where
  /-- The time in milliseconds. -/
  millis : Int64
  /-- The state of the source of random numbers. -/
  seed : Nat
  /-- Where random numbers come from, if it matters. -/
  random : RandomSource := .congruential

/-- The host of a guest. -/
structure Host where
  config : Config
  heap : Heap
  registry : Registry Body
  linkage : Linkage
  files : FileTable
  source : FileSource
  imports : Imports NativeCode
  attached : Option Module
  surroundings : Surroundings

/-- The way guest code is hosted. -/
def Host.mode (h : Host) : Mode := h.config.mode

/-- A change of the host with a result or a fault. -/
abbrev Action := ExceptT Fault (StateM Host)

/-- A change of the host that may enter guest code; without an outcome if that nests too deep. -/
abbrev Process := ExceptT Fault (StateT Host Option)

namespace Action

/-- What an action does to a host. -/
def apply {α : Type} (a : Action α) (h : Host) : Except Fault α × Host := a.run.run h

/-- The action that gives what a computation gives, and changes nothing. -/
def ofResult {α : Type} (r : Except Fault α) : Action α := ExceptT.mk (pure r)

/-- An action as a process. -/
def toProcess {α : Type} (a : Action α) : Process α :=
  ExceptT.mk fun h => some (a.apply h)

/-- The action that meets a fault. -/
def fail {α : Type} (fault : Fault) : Action α := throw fault

/-- A view of the host, which may be a fault. -/
def view {α : Type} (f : Host → Except Fault α) : Action α := do ofResult (f (← get))

end Action

namespace Process

/-- What a process does to a host. -/
def apply {α : Type} (p : Process α) (h : Host) : Option (Except Fault α × Host) := p.run.run h

/-- The process without an outcome. -/
def tooDeep {α : Type} : Process α := ExceptT.mk fun _ => none

end Process

/-! ## The classes of the host itself -/

namespace CoreClass

/-- The class of class objects. -/
def classObject : ClassId := 1

/-- The class of strings. -/
def string : ClassId := 2

/-- The class of string builders. -/
def stringBuilder : ClassId := 3

/-- The class of string buffers. -/
def stringBuffer : ClassId := 4

/-- The class of file descriptors. -/
def fileDescriptor : ClassId := 5

/-- The class of method handles. -/
def methodHandle : ClassId := 8

/-- The class of method types. -/
def methodType : ClassId := 9

/-- The class of call sites. -/
def callSite : ClassId := 10

/-- The interface of float arrays. -/
def floats : ClassId := 11

/-- The interface of int arrays. -/
def ints : ClassId := 12

/-- The interface of arrays of 16-bit integers. -/
def shorts : ClassId := 13

/-- The interface of arrays of 8-bit integers. -/
def bytes : ClassId := 14

/-- The interface of lists of references. -/
def references : ClassId := 15

/-- The interface of the logging channel. -/
def console : ClassId := 16

/-- The interface of the global scope. -/
def window : ClassId := 17

/-- The interface of the document. -/
def document : ClassId := 18

/-- The classes that the host allocates instances of, in the order of their numbers. -/
def classNames : List String :=
  ["java.lang.Class", "java.lang.String", "java.lang.StringBuilder", "java.lang.StringBuffer",
    "java.io.FileDescriptor", "java.io.FileInputStream", "java.io.FileOutputStream",
    "java.lang.invoke.MethodHandle", "java.lang.invoke.MethodType", "java.lang.invoke.CallSite"]

/-- The interfaces that the host wraps values for, in the order of their numbers. -/
def interfaceNames : List String :=
  ["bytelink.api.web.FloatArray", "bytelink.api.web.IntArray", "bytelink.api.web.Int16Array",
    "bytelink.api.web.Int8Array", "bytelink.api.web.OpaqueReferenceArray",
    "bytelink.api.web.Console", "bytelink.api.web.Window", "bytelink.api.web.Document"]

/-- The declarations of the host's own classes. -/
def declarations : List (Declaration Body) :=
  classNames.map (fun name => { name := name })
    ++ interfaceNames.map fun name => { name, modifiers := interfaceBit ||| abstractBit }

/-- The registry with the host's own classes. -/
def registry : Registry Body :=
  declarations.foldl (fun r d => match r.register d with
    | .ok (_, r') => r'
    | .error _ => r) .initial

end CoreClass

end GuestHost
