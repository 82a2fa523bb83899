import GuestHost.Host.Operations
import GuestHost.Natives.Charset
import GuestHost.Natives.Numbers
import GuestHost.Natives.Reflection
import GuestHost.Natives.Streams
import GuestHost.Signature

/-!
# Dispatch

How calls find what they run. A static call looks for a declared method along the ancestry of its
class, then for a native of a class of the ancestry; a call with a receiver does the same with methods
called on instances and then, if the receiver forwards to a target, calls the target.

Methods and some natives enter guest code again. Each definition is therefore given the way in which
the calls within are made; `enter` ties the knot with a bound on how deep calls may nest.
-/

namespace GuestHost

/-- The way in which calls are made. -/
abbrev Caller := Call → Process Value

namespace Dispatch

/-! ## Programs and natives -/

/-- The process that ends with an outcome. -/
def outcome {α : Type} (r : Except Fault α) : Process α := (Action.ofResult r).toProcess

/-- Runs a program. -/
def runProgram (call : Caller) : Program → Process Value
  | .done r => outcome r
  | .perform op next => ExceptT.mk fun h =>
    let (reply, h') := op.apply.apply h
    (runProgram call (next reply)).apply h'
  | .call c next => ExceptT.mk fun h =>
    match (call c).apply h with
    | none => none
    | some (result, h') => (runProgram call (next result)).apply h'

/-- Makes a new instance of the class that a class object stands for. -/
def runNewInstance (call : Caller) (args : List Value) : Process Value := do
  let v ← outcome (Args.get args 0)
  let cls ← (Action.view fun h => h.mirroredClass v).toProcess
  call (.newInstance cls)

/-- The elements of the array that is the second argument; null stands for none. -/
def handleArguments (args : List Value) : Action (List Value) := do
  match ← Action.ofResult (Args.get args 1) with
  | .null => return []
  | array => Action.arrayValues array

/-- Calls what a method handle leads to: a method, or the making of a lambda's instance. -/
def runInvokeHandle (call : Caller) (args : List Value) : Process Value := do
  let handle ← outcome (Args.get args 0)
  let r ← outcome handle.expectObject
  let values ← (handleArguments args).toProcess
  let o ← (Action.view fun h => h.heap.object r).toProcess
  match o.payload with
  | .factory f => (do return .ref (← Action.instantiate f values).receiver : Action Value).toProcess
  | .methodHandle handle => call (.target ⟨handle, []⟩ values)
  | _ => outcome (.error (.mismatch "java.lang.invoke.MethodHandle" "object"))

/-- Runs a native that the host provides. -/
def runBuiltin (call : Caller) (native : Builtin) (args : List Value) : Process Value :=
  match native with
  | .constant v => outcome (.ok v)
  | .clock => (do return .long (← get).surroundings.millis : Action Value).toProcess
  | .text n => (n.run args).toProcess
  | .character n => (n.run args).toProcess
  | .number n => (n.run args).toProcess
  | .math n => (n.run args).toProcess
  | .reflection n => (n.run args).toProcess
  | .stream n => (n.run args).toProcess
  | .linkage n => (n.run args).toProcess
  | .charset n => (n.run args).toProcess
  | .wrapper n => (n.run args).toProcess
  | .newInstance => runNewInstance call args
  | .invokeHandle => runInvokeHandle call args

/-- Runs the code of a native. -/
def runCode (call : Caller) (code : NativeCode) (args : List Value) : Process Value :=
  match code with
  | .builtin native => runBuiltin call native args
  | .body body => runProgram call (body args)

/-- The arguments that a native is run with. In exported mode a native without a receiver is called
with a placeholder in front of its arguments, which is dropped. -/
def nativeArguments (mode : Mode) (kind : MethodKind) (args : List Value) : List Value :=
  match mode, kind with
  | .exported, .static => args.drop 1
  | _, _ => args

/-- Calls a native as compiled guest code or a module does. -/
def callNative (call : Caller) (owner key : String) (args : List Value) : Process Value := do
  let e ← (Action.view fun h => h.imports.resolve owner key).toProcess
  let h ← get
  runCode call e.code (nativeArguments h.mode e.kind args)

/-- Calls a native with an argument list that has no placeholder. -/
def callPlainNative (call : Caller) (owner key : String) (args : List Value) : Process Value := do
  let e ← (Action.view fun h => h.imports.resolve owner key).toProcess
  runCode call e.code args

/-! ## Methods -/

/-- The name of the first class along an ancestry that owns a native for a key. -/
def nativeOwner? (h : Host) (cls : ClassId) (key : String) : Option String :=
  ((h.registry.ancestry cls).filterMap fun c => (h.registry.get? c).map (·.name)).find?
    fun name => h.imports.contains name key

/-- The fault of a method that a class lacks. -/
def missing {α : Type} (cls : ClassId) (key : String) : Action α := do
  Action.fail (.missingMethod (← Action.getClassRecord cls).name key)

/-- Calls a method without a receiver. -/
def callStatic (call : Caller) (cls : ClassId) (key : String) (args : List Value) :
    Process Value := do
  let h ← get
  match h.registry.findMethod? cls key .static with
  | some m => runProgram call (m.body args)
  | none =>
    match nativeOwner? h cls key with
    | some owner => callPlainNative call owner key args
    | none => (missing cls key).toProcess

/-- The target that the instance behind a value forwards to. -/
def target? (h : Host) (receiver : Value) : Except Fault (Option Target) :=
  match receiver with
  | .ref r => do
    match (← h.heap.object r).payload with
    | .lambda t => return some t
    | _ => return none
  | _ => .ok none

/-- Calls a method of a receiver that is looked for from a class. -/
def callOn (call : Caller) (cls : ClassId) (receiver : Value) (key : String) (args : List Value) :
    Process Value := do
  let h ← get
  match h.registry.findMethod? cls key .onInstance with
  | some m => runProgram call (m.body (receiver :: args))
  | none =>
    match nativeOwner? h cls key with
    | some owner => callPlainNative call owner key (receiver :: args)
    | none =>
      match ← outcome (target? h receiver) with
      | some t => call (.target t args)
      | none => (missing cls key).toProcess

/-- Calls a method of a receiver that is looked for from its class. -/
def callVirtual (call : Caller) (receiver : Value) (key : String) (args : List Value) :
    Process Value := do
  let cls ← (Action.view fun h => h.classOf receiver).toProcess
  callOn call cls receiver key args

/-- Calls a target: its method, with the bound arguments before those of the call. -/
def callTarget (call : Caller) (target : Target) (capture : List Value) : Process Value := do
  let handle := target.handle
  let all := target.linking ++ capture
  match handle.kind with
  | .static => call (.static handle.owner handle.method all)
  | .constructor =>
    let v ← (Action.allocate handle.owner).toProcess
    let _ ← call (.special handle.owner v handle.method all)
    return v
  | kind =>
    match all with
    | receiver :: rest => call (.virtual receiver handle.method rest)
    | [] => outcome (.error (.argument (.noReceiver kind.name handle.method)))

/-- The initializer without arguments of a class that may have new instances. -/
def initializer (h : Host) (cls : ClassId) : Except Fault (Method Body) := do
  let c ← h.registry.get cls
  if c.isInterface || c.isAbstract then .error (.instantiation c.name .abstract)
  else
    match h.registry.findMethod? cls Signature.defaultInitializer .onInstance with
    | some m => .ok m
    | none => .error (.instantiation c.name .noInitializer)

/-- Makes a new instance of a class and runs its initializer without arguments. -/
def makeInstance (call : Caller) (cls : ClassId) : Process Value := do
  let init ← (Action.view fun h => initializer h cls).toProcess
  let v ← (Action.allocate cls).toProcess
  let _ ← runProgram call (init.body [v])
  return v

/-! ## Calls -/

/-- Makes a call, given the way in which the calls within are made. -/
def step (call : Caller) : Caller
  | .native owner key args => callNative call owner key args
  | .plainNative owner key args => callPlainNative call owner key args
  | .static cls key args => callStatic call cls key args
  | .virtual receiver key args => callVirtual call receiver key args
  | .special cls receiver key args => callOn call cls receiver key args
  | .target target capture => callTarget call target capture
  | .newInstance cls => makeInstance call cls

/-- Makes a call within which calls nest less than `depth` deep. -/
def enter : (depth : Nat) → Caller
  | 0 => fun _ => Process.tooDeep
  | depth + 1 => step (enter depth)

end Dispatch

namespace Host

/-- How deep calls may nest. -/
def depth : Nat := 10000

/-- Makes a call. -/
def call (c : Call) : Process Value := Dispatch.enter depth c

/-- Runs a program. -/
def runProgram (p : Program) : Process Value := Dispatch.runProgram call p

end Host

end GuestHost
