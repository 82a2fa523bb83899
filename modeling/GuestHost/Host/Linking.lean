import GuestHost.Host.Types

/-!
# Linking sites

A site is bootstrapped once: its factory fixes the method and the class of the instances. Each
instantiation of a factory binds arguments and allocates an instance that forwards to the method.
-/

namespace GuestHost.Action

/-- An object that stands for a method and the way it is invoked. -/
def methodHandle (cls : ClassId) (method : String) (kind : UInt8) : Action Value := do
  let kind ← ofResult (InvocationKind.ofCode kind)
  let _ ← getClassRecord cls
  return .ref (← allocObject CoreClass.methodHandle (.methodHandle ⟨cls, method, kind⟩))

/-- An object that stands for the type of methods returning a class. -/
def methodType (cls : ClassId) : Action Value := do
  let _ ← getClassRecord cls
  return .ref (← allocObject CoreClass.methodType (.methodType cls))

/-- The factory of a site; it is made when the site is first bootstrapped. Instances of an interface
are instances of its adapter. -/
def bootstrapSite (site : SiteId) (interface : ClassId) (handle : MethodHandle) :
    Action Factory := do
  match (← get).linkage.factories.get? site with
  | some f => return f
  | none =>
    let _ ← getClassRecord handle.owner
    let c ← getClassRecord interface
    let implementing ← if c.isInterface then adapter .lambda interface else pure interface
    let f : Factory := { interface, implementing, handle }
    modify fun h =>
      { h with linkage := { h.linkage with factories := h.linkage.factories.set site f } }
    return f

/-- Binds arguments to a factory's method, and allocates an instance that forwards to it. -/
def instantiate (f : Factory) (linking : List Value) : Action CallSite := do
  let target : Target := ⟨f.handle, linking⟩
  let receiver ← allocObject f.implementing (.lambda target)
  return { receiver, interface := f.interface, target }

/-- The call site of a site; it is made when the site is first linked. -/
def link (site : SiteId) (request : LinkRequest) : Action CallSite := do
  match (← get).linkage.callSites.get? site with
  | some s => return s
  | none =>
    let f ← bootstrapSite site request.interface request.handle
    let s ← instantiate f request.linking
    modify fun h =>
      { h with linkage := { h.linkage with callSites := h.linkage.callSites.set site s } }
    return s

/-- Takes a number for a site that has none. -/
def anonymousSite : Action SiteId :=
  modifyGet fun h =>
    let (site, linkage) := h.linkage.anonymousSite
    (site, { h with linkage })

end GuestHost.Action
