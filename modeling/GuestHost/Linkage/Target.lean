import GuestHost.Fault
import GuestHost.Value

/-!
# Method handles and what is built from them

A method handle names a method of a class and the way it is invoked. Binding arguments to a handle
gives a target; fixing the interface that instances implement gives a factory; a factory together with
bound arguments gives a call site.
-/

namespace GuestHost

/-- Number of a class in the registry. -/
abbrev ClassId := Nat

/-- How a method handle reaches its method. -/
inductive InvocationKind
  /-- Without a receiver. -/
  | static
  /-- On the receiver's class. -/
  | virtual
  /-- On the receiver's class, through an interface. -/
  | interface
  /-- By running an initializer on a new instance, which is the result. -/
  | constructor
  /-- As a private or inherited method of the receiver. -/
  | special
deriving Repr, DecidableEq

namespace InvocationKind

/-- The number of a kind in compiled guest code. -/
def code : InvocationKind → UInt8
  | .static => 1
  | .virtual => 2
  | .interface => 3
  | .constructor => 4
  | .special => 5

/-- The kind with a number. -/
def ofCode (n : UInt8) : Except Fault InvocationKind :=
  if n = 1 then .ok .static
  else if n = 2 then .ok .virtual
  else if n = 3 then .ok .interface
  else if n = 4 then .ok .constructor
  else if n = 5 then .ok .special
  else .error (.unsupportedKind n)

/-- The name of a kind. -/
def name : InvocationKind → String
  | .static => "Static"
  | .virtual => "Virtual"
  | .interface => "Interface"
  | .constructor => "Constructor"
  | .special => "Special"

end InvocationKind

/-- A method of a class and the way it is invoked. -/
structure MethodHandle where
  owner : ClassId
  method : String
  kind : InvocationKind
deriving Repr, DecidableEq

/-- A method handle with its first arguments bound. -/
structure Target where
  handle : MethodHandle
  linking : List Value
deriving Repr, DecidableEq

/-- The linkage of one site: the interface asked for, the class of the instances, and the handle. -/
structure Factory where
  interface : ClassId
  implementing : ClassId
  handle : MethodHandle
deriving Repr, DecidableEq

/-- A linked call site: the instance handed to guest code, its interface, and its target. -/
structure CallSite where
  receiver : Ref
  interface : ClassId
  target : Target
deriving Repr, DecidableEq

end GuestHost
