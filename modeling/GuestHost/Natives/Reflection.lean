import GuestHost.Host.Linking
import GuestHost.Natives.Arguments

/-!
# Natives on classes, on call sites and on host values
-/

namespace GuestHost.ReflectionNative

open GuestHost.Action (ofResult)

/-- The record of the class that the first argument stands for. -/
def classArgument (args : List Value) : Action (ClassRecord Body) := do
  let v ← ofResult (Args.get args 0)
  let cls ← Action.view fun h => h.mirroredClass v
  Action.getClassRecord cls

/-- What a native on class objects does. -/
def run (native : ReflectionNative) (args : List Value) : Action Value :=
  match native with
  | .getClass => do Action.getClass (← ofResult (Args.get args 0))
  | .enumConstants => do return (← classArgument args).static enumConstantsField
  | .className => do Action.newString (← classArgument args).name
  | .forName => do
    let name ← Action.text (← ofResult (Args.get args 0))
    Action.fail (.unsupported (.classLoading name))
  | .newArray => do
    let length ← ofResult (Args.int args 1)
    let length ← ofResult (Args.natOf length .negativeArrayLength)
    Action.newArray (List.replicate length .null)

end GuestHost.ReflectionNative

namespace GuestHost.LinkageNative

open GuestHost.Action (ofResult)

/-- The payload of the object that an argument refers to. -/
def payloadArgument (args : List Value) (i : Nat) : Action Payload := do
  let v ← ofResult (Args.get args i)
  let r ← ofResult v.expectObject
  return (← Action.view fun h => h.heap.object r).payload

/-- Bootstraps a site of its own for a lambda expression: the third argument is the type it has, the
fifth the handle of its method. -/
def runMetafactory (args : List Value) : Action Value := do
  let v ← ofResult (Args.get args 2)
  let interface ← Action.view fun h => h.mirroredClass v
  match ← payloadArgument args 4 with
  | .methodHandle handle =>
    let site ← Action.anonymousSite
    let f ← Action.bootstrapSite site interface handle
    return .ref (← Action.allocObject CoreClass.callSite (.factory f))
  | _ => Action.fail (.mismatch "java.lang.invoke.MethodHandle" "object")

/-- The handle that instantiates the lambda expression of a call site. -/
def runSiteTarget (args : List Value) : Action Value := do
  match ← payloadArgument args 0 with
  | .factory f => return .ref (← Action.allocObject CoreClass.methodHandle (.factory f))
  | _ => Action.fail (.mismatch "bootstrapped call site" "object")

/-- What a native that links does. -/
def run (native : LinkageNative) (args : List Value) : Action Value :=
  match native with
  | .metafactory => runMetafactory args
  | .siteTarget => runSiteTarget args

end GuestHost.LinkageNative

namespace GuestHost.WrapperNative

open GuestHost.Action (ofResult)

/-- Wraps a host array whose length is the first argument. -/
def newArray (cls : ClassId) (make : Nat → HostData) (args : List Value) : Action Value := do
  Action.wrap cls (make (← ofResult (Args.index args 0)))

/-- What a native that hands out host values does. -/
def run (native : WrapperNative) (args : List Value) : Action Value :=
  match native with
  | .console => Action.wrap CoreClass.console .console
  | .window => Action.wrap CoreClass.window .window
  | .document => Action.wrap CoreClass.document .document
  | .floats => newArray CoreClass.floats (fun n => .floats (List.replicate n 0)) args
  | .ints => newArray CoreClass.ints (fun n => .ints (List.replicate n 0)) args
  | .shorts => newArray CoreClass.shorts (fun n => .shorts (List.replicate n 0)) args
  | .bytes => newArray CoreClass.bytes (fun n => .bytes (List.replicate n 0)) args
  | .references => Action.wrap CoreClass.references (.references [])

end GuestHost.WrapperNative
