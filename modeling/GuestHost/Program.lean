import GuestHost.Heap
import GuestHost.Linkage
import GuestHost.Registry
import GuestHost.Text.Kind

/-!
# Guest programs

Guest code reaches its host through operations and calls only. A `Program` is what a guest method does
once its arguments are known: it ends with an outcome, or it asks the host for one thing and goes on
with the answer, a fault included. A `Body` is a method body: a program for every argument list.
Nothing else is known about guest code, so a statement about all programs is one about any guest.
-/

namespace GuestHost

/-- A way to enter guest code or a native. -/
inductive Call
  /-- A native, called by compiled guest code or a module. -/
  | native (owner key : String) (args : List Value)
  /-- A native, with an argument list that has no placeholder. -/
  | plainNative (owner key : String) (args : List Value)
  /-- A method without a receiver, found from a class. -/
  | static (cls : ClassId) (key : String) (args : List Value)
  /-- A method of the receiver's class. -/
  | virtual (receiver : Value) (key : String) (args : List Value)
  /-- A method of a receiver, found from a given class. -/
  | special (cls : ClassId) (receiver : Value) (key : String) (args : List Value)
  /-- The target of a call site, with the arguments of the call. -/
  | target (target : Target) (capture : List Value)
  /-- A new instance of a class, initialized without arguments. -/
  | newInstance (cls : ClassId)
deriving Repr, DecidableEq

/-- What a site is linked to: the interface, the method, and the arguments bound at once. -/
structure LinkRequest where
  interface : ClassId
  handle : MethodHandle
  linking : List Value
deriving Repr, DecidableEq

/-- An operation of the host that enters no guest code; `β` is the type of method bodies. -/
inductive Op (β : Type)
  -- classes
  | lookup (name : String)
  | define (d : Declaration β)
  | adapter (kind : AdapterKind) (cls : ClassId)
  | describe (cls : ClassId)
  | getStatic (cls : ClassId) (name : String)
  | setStatic (cls : ClassId) (name : String) (v : Value)
  | enumConstants (cls : ClassId)
  -- objects and class objects
  | classOf (v : Value)
  | getClass (v : Value)
  | classMirror (cls : ClassId)
  | mirroredClass (v : Value)
  | instanceOf (v : Value) (cls : ClassId)
  | allocate (cls : ClassId)
  | getField (v : Value) (name : String)
  | setField (v : Value) (name : String) (value : Value)
  | wrap (cls : ClassId) (data : HostData)
  | hostData (v : Value)
  | setHostData (v : Value) (data : HostData)
  -- texts and arrays
  | newText (kind : TextKind) (contents : String)
  | text (v : Value)
  | setText (v : Value) (contents : String)
  | newArray (items : List Value)
  | arrayLength (v : Value)
  | arrayValues (v : Value)
  | arrayGet (v : Value) (i : Nat)
  | arraySet (v : Value) (i : Nat) (value : Value)
  -- files
  | descriptor (v : Value)
  | setDescriptor (v : Value) (number : Int32)
  | newStream
  | enableFiles
  | openFile (path : String)
  | fileExists (path : String)
  | skip (number : Int32) (amount : Int64)
  | available (number : Int32)
  | readByte (number : Int32)
  | readBytes (number : Int32) (length : Nat)
  | write (number : Int32) (bytes : Bytes)
  | flush
  | release (number : Int32)
  -- linkage
  | methodHandle (cls : ClassId) (method : String) (kind : UInt8)
  | methodType (cls : ClassId)
  | link (site : SiteId) (request : LinkRequest)
  | bootstrapSite (site : SiteId) (interface : ClassId) (handle : MethodHandle)
  | instantiate (factory : Factory) (linking : List Value)

/-- What an operation answers. -/
inductive Reply
  | done
  | value (v : Value)
  | truth (b : Bool)
  | number (n : Int)
  | text (s : String)
  | cls (id : ClassId)
  | descriptor (d : Descriptor)
  /-- The elements of an array, or none where there is no array. -/
  | values (vs : Option (List Value))
  | host (data : HostData)
  /-- Bytes that were read, with the answer of the reading. -/
  | bytes (answer : Int32) (bytes : Bytes)
  | factory (f : Factory)
  | site (s : CallSite)
deriving Repr, DecidableEq

/-- What guest code does. -/
inductive Program
  /-- It ends. -/
  | done (outcome : Except Fault Value)
  /-- It asks for an operation and goes on with the answer. -/
  | perform (op : Op (List Value → Program)) (next : Except Fault Reply → Program)
  /-- It makes a call and goes on with the result. -/
  | call (c : Call) (next : Except Fault Value → Program)

/-- A method body: what it does with its arguments, the receiver first if there is one. -/
abbrev Body := List Value → Program

instance : Inhabited Program := ⟨.done (.ok .null)⟩

end GuestHost
