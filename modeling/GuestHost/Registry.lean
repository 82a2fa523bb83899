import GuestHost.Dict
import GuestHost.Fault
import GuestHost.Linkage.Target

/-!
# The class registry

Classes are numbered in the order of registration, and their names are unique. A class is registered
only after its superclass and its interfaces, so every link leads to a smaller number. Beside the
classes that guest code declares there are adapters, one for each kind and interface: they extend the
root class and implement the interface.

A method body is of an arbitrary type `β`; the registry never looks into one.
-/

namespace GuestHost

/-- Whether a method is called with a receiver. -/
inductive MethodKind
  /-- Without one. -/
  | static
  /-- With the receiver as its first argument. -/
  | onInstance
deriving Repr, DecidableEq

/-- A guest method. -/
structure Method (β : Type) where
  kind : MethodKind
  body : β

/-- What an adapter stands in for. -/
inductive AdapterKind
  /-- A host value behind an interface. -/
  | wrapper
  /-- A lambda that implements a functional interface. -/
  | lambda
deriving Repr, DecidableEq

/-- The ending of the names of adapters of a kind. -/
def AdapterKind.suffix : AdapterKind → String
  | .wrapper => "Opaque"
  | .lambda => "Lambda"

/-- How a class came to exist. -/
inductive Origin
  | declared
  | adapter (kind : AdapterKind)
deriving Repr, DecidableEq

/-- The types that the instances of a class answer for. -/
structure Descriptor where
  owner : ClassId
  supported : List ClassId
deriving Repr, DecidableEq

/-- Whether a descriptor lists a type. -/
def Descriptor.supports (d : Descriptor) (candidate : ClassId) : Bool :=
  decide (candidate ∈ d.supported)

/-- What is said about a class when it is registered. -/
structure Declaration (β : Type) where
  name : String
  modifiers : UInt16 := 0
  superclass : Option ClassId := none
  interfaces : List ClassId := []
  /-- The methods by their keys; of two with one key the later counts. -/
  methods : List (String × Method β) := []
  statics : List (String × Value) := []

/-- A registered class. Its descriptor and its class object are made when they are first needed. -/
structure ClassRecord (β : Type) where
  name : String
  modifiers : UInt16
  superclass : Option ClassId
  interfaces : List ClassId
  methods : Dict String (Method β)
  statics : Dict String Value
  origin : Origin
  descriptor : Option Descriptor
  mirror : Option Ref

/-- The modifier bit of interfaces. -/
def interfaceBit : UInt16 := 0x0200

/-- The modifier bit of abstract classes. -/
def abstractBit : UInt16 := 0x0400

/-- The static field that holds the constants of an enumeration. -/
def enumConstantsField : String := "$VALUES"

/-- The number of the root class. -/
def rootClass : ClassId := 0

namespace ClassRecord

variable {β : Type}

/-- Whether a class carries the interface modifier. -/
def isInterface (c : ClassRecord β) : Bool := c.modifiers &&& interfaceBit != 0

/-- Whether a class carries the abstract modifier. -/
def isAbstract (c : ClassRecord β) : Bool := c.modifiers &&& abstractBit != 0

/-- A static field, null if it was never set. -/
def static (c : ClassRecord β) (name : String) : Value := (c.statics.get? name).getD .null

/-- The method of a key, if it is declared with the given kind. -/
def method? (c : ClassRecord β) (key : String) (kind : MethodKind) : Option (Method β) :=
  (c.methods.get? key).filter fun m => decide (m.kind = kind)

end ClassRecord

/-- The record of a declared class. Interfaces have a superclass only if they name one; every other
class extends `root?` if it names none. -/
def Declaration.record {β : Type} (d : Declaration β) (root? : Option ClassId) (origin : Origin) :
    ClassRecord β where
  name := d.name
  modifiers := d.modifiers
  superclass := if d.modifiers &&& interfaceBit != 0 then d.superclass else d.superclass <|> root?
  interfaces := d.interfaces
  methods := .ofList d.methods
  statics := .ofList d.statics
  origin := origin
  descriptor := none
  mirror := none

/-- The registered classes, their numbers by name, and the adapters by kind and interface. -/
structure Registry (β : Type) where
  classes : Array (ClassRecord β)
  numbers : Dict String ClassId
  adapters : Dict (AdapterKind × ClassId) ClassId

namespace Registry

variable {β : Type}

/-- The registry that holds the root class alone. -/
def initial : Registry β where
  classes := #[({ name := "java.lang.Object" } : Declaration β).record none .declared]
  numbers := Dict.empty.set "java.lang.Object" rootClass
  adapters := .empty

instance : Inhabited (Registry β) := ⟨initial⟩

/-- Number of classes. -/
def size (r : Registry β) : Nat := r.classes.size

/-- The class with a number. -/
def get? (r : Registry β) (id : ClassId) : Option (ClassRecord β) := r.classes[id]?

/-- The class that must have a number. -/
def get (r : Registry β) (id : ClassId) : Except Fault (ClassRecord β) :=
  match r.get? id with
  | some c => .ok c
  | none => .error (.reference (.classNumber id))

/-- The number of the class with a name. -/
def number? (r : Registry β) (name : String) : Option ClassId := r.numbers.get? name

/-- The number of the class that must have a name. -/
def number (r : Registry β) (name : String) : Except Fault ClassId :=
  match r.number? name with
  | some id => .ok id
  | none => .error (.reference (.className name))

/-- Replaces the record of a class. -/
def update (r : Registry β) (id : ClassId) (f : ClassRecord β → ClassRecord β) : Registry β :=
  { r with classes := r.classes.modify id f }

/-- The first class number of a list that is not registered. -/
def firstUnknown? (r : Registry β) (ids : List ClassId) : Option ClassId :=
  ids.find? fun id => (r.get? id).isNone

/-- Registers a class with a given origin. Its name must be new, and its superclass and interfaces
must be registered. -/
def registerAs (r : Registry β) (d : Declaration β) (origin : Origin) :
    Except Fault (ClassId × Registry β) :=
  if r.numbers.contains d.name then .error (.argument (.alreadyRegistered d.name))
  else
    let c := d.record (some rootClass) origin
    match r.firstUnknown? (c.superclass.toList ++ c.interfaces) with
    | some id => .error (.reference (.classNumber id))
    | none =>
      .ok (r.size,
        { r with classes := r.classes.push c, numbers := r.numbers.set d.name r.size })

/-- Registers a class that guest code declares. -/
def register (r : Registry β) (d : Declaration β) : Except Fault (ClassId × Registry β) :=
  r.registerAs d .declared

/-- The adapter of a kind for an interface; it is registered when first asked for. -/
def adapter (r : Registry β) (kind : AdapterKind) (target : ClassId) :
    Except Fault (ClassId × Registry β) :=
  match r.adapters.get? (kind, target) with
  | some id => .ok (id, r)
  | none =>
    match r.get target with
    | .error fault => .error fault
    | .ok c =>
      if c.isInterface then
        let name := c.name ++ "$" ++ kind.suffix
        let d : Declaration β := { name, superclass := some rootClass, interfaces := [target] }
        match r.registerAs d (.adapter kind) with
        | .error fault => .error fault
        | .ok (id, r') => .ok (id, { r' with adapters := r'.adapters.set (kind, target) id })
      else .error (.argument (.notInterface c.name))

/-- Number of adapters. -/
def adapterCount (r : Registry β) : Nat := r.adapters.size

end Registry

end GuestHost
