import GuestHost.Module.Arena
import GuestHost.Module.Library

/-!
# Modules

In exported mode the texts, arrays and file streams of a guest live inside a module. The host reaches
them through the same few operations, whether the module is in memory or in a shared library. An
operation that fails still gives the module as it is afterwards.
-/

namespace GuestHost

/-- A module that holds the objects of a guest. -/
inductive Module
  | arena (a : Arena)
  | library (l : Library)

namespace Module

/-- The name of a module. -/
def name : Module → String
  | .arena a => a.name
  | .library l => l.name

/-- The outcome of an arena's write, with the module it leaves. -/
def ofArena (a : Arena) : Except Fault Arena → Except Fault Unit × Module
  | .ok a' => (.ok (), .arena a')
  | .error fault => (.error fault, .arena a)

/-- Creates a text object. -/
def newText (m : Module) (kind : TextKind) (contents : String) : Except Fault Value × Module :=
  match m with
  | .arena a => let (v, a') := a.alloc (.text kind contents); (.ok v, .arena a')
  | .library l => let (v, l') := l.newText kind contents; (v, .library l')

/-- The contents of a text object. -/
def text (m : Module) (h : UInt32) : Except Fault String :=
  match m with
  | .arena a => a.text h
  | .library l => l.text h

/-- Replaces the contents of a text object. -/
def setText (m : Module) (h : UInt32) (contents : String) : Except Fault Unit × Module :=
  match m with
  | .arena a => ofArena a (a.setText h contents)
  | .library l => let (r, l') := l.setText h contents; (r, .library l')

/-- Creates an array. -/
def newArray (m : Module) (items : List Value) : Except Fault Value × Module :=
  match m with
  | .arena a => let (v, a') := a.alloc (.array items); (.ok v, .arena a')
  | .library l => let (v, l') := l.newArray items; (v, .library l')

/-- The length of an array. -/
def arrayLength (m : Module) (h : UInt32) : Except Fault Nat :=
  match m with
  | .arena a => (a.array h).map List.length
  | .library l => l.arrayLength h

/-- An element of an array. -/
def arrayGet (m : Module) (h : UInt32) (i : Nat) : Except Fault Value :=
  match m with
  | .arena a => a.arrayGet h i
  | .library l => l.arrayGet h i

/-- Sets an element of an array. -/
def arraySet (m : Module) (h : UInt32) (i : Nat) (v : Value) : Except Fault Unit × Module :=
  match m with
  | .arena a => ofArena a (a.arraySet h i v)
  | .library l => let (r, l') := l.arraySet h i v; (r, .library l')

/-- All elements of an array, read one after the other. -/
def arrayValues (m : Module) (h : UInt32) : Except Fault (List Value) :=
  match m.arrayLength h with
  | .error fault => .error fault
  | .ok n => (List.range n).mapM (m.arrayGet h)

/-- The file number of a stream. -/
def stream (m : Module) (h : UInt32) : Except Fault Int32 :=
  match m with
  | .arena a => a.stream h
  | .library l => .ok (l.stream h)

/-- Sets the file number of a stream. -/
def setStream (m : Module) (h : UInt32) (number : Int32) : Except Fault Unit × Module :=
  match m with
  | .arena a => ofArena a (a.setStream h number)
  | .library l => let (r, l') := l.setStream h number; (r, .library l')

end Module

end GuestHost
