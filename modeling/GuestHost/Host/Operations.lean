import GuestHost.Host.Linking

/-!
# Operations

What each operation that guest code may ask for does to the host. None of them enters guest code.
-/

namespace GuestHost

namespace Action

/-- The field of the object that a value refers to. -/
def getField (v : Value) (name : String) : Action Value := do
  let r ← ofResult v.expectObject
  view fun h => h.heap.field r name

/-- Sets a field of the object that a value refers to. -/
def setField (v : Value) (name : String) (value : Value) : Action Unit := do
  let r ← ofResult v.expectObject
  updateHeap fun heap => heap.setField r name value

/-- Creates a file stream inside the module, which must be one in memory. -/
def newStream : Action Value := onModule fun m =>
  match m with
  | .arena a => let (v, a') := a.alloc (.stream (-1)); (.ok v, .arena a')
  | .library l => (.error (.inModule .notAttached), .library l)

end Action

open GuestHost.Action (view onFiles)

/-- What an operation does. -/
def Op.apply : Op Body → Action Reply
  -- classes
  | .lookup name => do return .cls (← view fun h => h.registry.number name)
  | .define d => do return .cls (← Action.define d)
  | .adapter kind cls => do return .cls (← Action.adapter kind cls)
  | .describe cls => do return .descriptor (← Action.describe cls)
  | .getStatic cls name => do return .value ((← Action.getClassRecord cls).static name)
  | .setStatic cls name v => do return .truth (← Action.setStatic cls name v)
  | .enumConstants cls => do return .values (← view fun h => h.enumConstants cls)
  -- objects and class objects
  | .classOf v => do return .cls (← view fun h => h.classOf v)
  | .getClass v => do return .value (← Action.getClass v)
  | .classMirror cls => do return .value (← Action.classMirror cls)
  | .mirroredClass v => do return .cls (← view fun h => h.mirroredClass v)
  | .instanceOf v cls => do return .truth (← Action.instanceOf v cls)
  | .allocate cls => do return .value (← Action.allocate cls)
  | .getField v name => do return .value (← Action.getField v name)
  | .setField v name value => do
    Action.setField v name value
    return .done
  | .wrap cls data => do return .value (← Action.wrap cls data)
  | .hostData v => do return .host (← view fun h => h.hostData v)
  | .setHostData v data => do return .host (← Action.setHostData v data)
  -- texts and arrays
  | .newText kind contents => do return .value (← Action.newText kind contents)
  | .text v => do return .text (← Action.text v)
  | .setText v contents => do
    Action.setText v contents
    return .done
  | .newArray items => do return .value (← Action.newArray items)
  | .arrayLength v => do return .number (← Action.arrayLength v)
  | .arrayValues v => do return .values (some (← Action.arrayValues v))
  | .arrayGet v i => do return .value (← Action.arrayGet v i)
  | .arraySet v i value => do
    Action.arraySet v i value
    return .done
  -- files
  | .descriptor v => do return .number (← Action.descriptor v).toInt
  | .setDescriptor v number => do
    Action.setDescriptor v number
    return .done
  | .newStream => do return .value (← Action.newStream)
  | .enableFiles => do
    onFiles fun t => ((), t.enable)
    return .done
  | .openFile path => do return .number (← Action.openFile path).toInt
  | .fileExists path => do return .truth (← Action.fileExists path)
  | .skip number amount => do return .number (← onFiles fun t => t.skip number amount).toInt
  | .available number => do return .number ((← get).files.available number).toInt
  | .readByte number => do return .number (← onFiles fun t => t.readByte number).toInt
  | .readBytes number length => onFiles fun t =>
    let (answer, bytes, t') := t.readBytes number length
    (.bytes answer bytes, t')
  | .write number bytes => do return .truth (← onFiles fun t => t.write number bytes)
  | .flush => do
    onFiles fun t => ((), t.flush)
    return .done
  | .release number => do return .truth (← onFiles fun t => t.release number)
  -- linkage
  | .methodHandle cls method kind => do return .value (← Action.methodHandle cls method kind)
  | .methodType cls => do return .value (← Action.methodType cls)
  | .link site request => do return .site (← Action.link site request)
  | .bootstrapSite site interface handle => do
    return .factory (← Action.bootstrapSite site interface handle)
  | .instantiate f linking => do return .site (← Action.instantiate f linking)

end GuestHost
