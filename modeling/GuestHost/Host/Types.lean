import GuestHost.Host.Access
import GuestHost.Registry.Ancestry

/-!
# Types at run time

The class of a heap value, class objects, the instance test, allocation and wrappers. Every class has
at most one class object, which is made when it is first asked for.
-/

namespace GuestHost

/-- The class of a heap value. Arrays answer with the root class. -/
def Host.classOf (h : Host) (v : Value) : Except Fault ClassId :=
  match v with
  | .ref r =>
    match h.heap.get? r with
    | some (.object o) => .ok o.cls
    | some (.array _) => .ok rootClass
    | none => .error (.reference (.heap r.index))
  | .null => .error (.reference .null)
  | v => .error (.mismatch "object" v.kindName)

/-- The class that a class object or a method type stands for. -/
def Host.mirroredClass (h : Host) (v : Value) : Except Fault ClassId := do
  let o ← h.heap.object (← v.expectObject)
  match o.payload with
  | .mirror cls => .ok cls
  | .methodType cls => .ok cls
  | _ => .error (.mismatch "java.lang.Class" "object")

/-- The host value behind a wrapper. -/
def Host.hostData (h : Host) (v : Value) : Except Fault HostData := do
  let o ← h.heap.object (← v.expectObject)
  match o.payload with
  | .host data => .ok data
  | _ => .error (.mismatch "opaque wrapper" "object")

/-- The constants of an enumeration; none for any other class. -/
def Host.enumConstants (h : Host) (cls : ClassId) : Except Fault (Option (List Value)) := do
  let values := (← h.registry.get cls).static enumConstantsField
  if values.isNull then return none else return some (← h.arrayValues values)

namespace Action

/-- Applies an operation of the registry. -/
def onRegistry {α : Type} (f : Registry Body → Except Fault (α × Registry Body)) : Action α := do
  let (a, registry) ← ofResult (f (← get).registry)
  modify fun h => { h with registry }
  return a

/-- The record of a class. -/
def getClassRecord (cls : ClassId) : Action (ClassRecord Body) := view fun h => h.registry.get cls

/-- Registers a class. -/
def define (d : Declaration Body) : Action ClassId := onRegistry fun r => r.register d

/-- The adapter of a kind for an interface. -/
def adapter (kind : AdapterKind) (cls : ClassId) : Action ClassId :=
  onRegistry fun r => r.adapter kind cls

/-- The descriptor of a class. -/
def describe (cls : ClassId) : Action Descriptor := onRegistry fun r => r.describe cls

/-- Sets a static field; answers whether the class is registered. -/
def setStatic (cls : ClassId) (name : String) (v : Value) : Action Bool :=
  modifyGet fun h =>
    ((h.registry.get? cls).isSome,
      { h with registry :=
          h.registry.update cls fun c => { c with statics := c.statics.set name v } })

/-- The class object of a class. -/
def classMirror (cls : ClassId) : Action Value := do
  let c ← getClassRecord cls
  match c.mirror with
  | some r => return .ref r
  | none =>
    let r ← allocObject CoreClass.classObject (.mirror cls)
    modify fun h =>
      { h with registry := h.registry.update cls fun c => { c with mirror := some r } }
    return .ref r

/-- The class object of the class of a value. -/
def getClass (v : Value) : Action Value := do classMirror (← view fun h => h.classOf v)

/-- Whether the class of a value answers for a type. Null answers for none. -/
def instanceOf (v : Value) (cls : ClassId) : Action Bool :=
  modifyGet fun h =>
    if v.isNull then (false, h)
    else
      match h.classOf v with
      | .error _ => (false, h)
      | .ok c =>
        match h.registry.describe c with
        | .error _ => (false, h)
        | .ok (d, registry) => (d.supports cls, { h with registry })

/-- A new instance of a class, without running an initializer. -/
def allocate (cls : ClassId) : Action Value := do
  let _ ← getClassRecord cls
  return .ref (← allocObject cls .empty)

/-- Wraps a host value as an instance of a type: for an interface, of its adapter. -/
def wrap (cls : ClassId) (data : HostData) : Action Value := do
  let c ← getClassRecord cls
  let concrete ← if c.isInterface then adapter .wrapper cls else pure cls
  return .ref (← allocObject concrete (.host data))

/-- Replaces the host value behind a wrapper. -/
def setHostData (v : Value) (data : HostData) : Action HostData := do
  let _ ← view fun h => h.hostData v
  let r ← ofResult v.expectObject
  updateHeap fun heap => do
    let o ← heap.object r
    return heap.put r (.object { o with payload := .host data })
  return data

end Action

end GuestHost
