import GuestHost.Proofs.Dispatch.Kinds
import GuestHost.Proofs.Linkage.CallSites

/-!
# Lambda expressions that are linked by a native

The native that links a lambda expression takes a number of its own for the site, and bootstraps it. The
numbers come from those that sites have anyway, so the site may have a factory already.

* `Host.HasObject` — an object with a class and a payload, which stays unless the payload may be replaced;
* `apply_metafactory`, `apply_siteTarget`, `Dispatch.apply_invokeHandle` — what the natives do;
* `Host.Instantiates`, `Host.Carries` — what a handle and a call site with a factory are good for;
* `metafactory_faithful_iff` — when the call site is for what was asked for.
-/

namespace GuestHost

/-! ## Objects that keep their payload -/

namespace Host

variable {h h' : Host} {made : List SiteId} {v : Value} {cls : ClassId} {payload : Payload}

/-- A value refers to an object of a class with a payload. -/
def HasObject (h : Host) (v : Value) (cls : ClassId) (payload : Payload) : Prop :=
  ∃ r o, v = .ref r ∧ h.heap.get? r = some (.object o) ∧ o.cls = cls ∧ o.payload = payload

namespace HasObject

/-- A new object, in a heap that has room for it. -/
theorem allocObject (hroom : h.heap.size < 2 ^ 32) (cls : ClassId) (payload : Payload) :
    HasObject { h with heap := (h.heap.allocObject cls payload).2 }
      (.ref (h.heap.allocObject cls payload).1) cls payload :=
  ⟨_, _, rfl, Heap.get?_alloc_self hroom _, rfl, rfl⟩

theorem alloc (hv : h.HasObject v cls payload) (e : Entry) :
    HasObject { h with heap := (h.heap.alloc e).2 } v cls payload := by
  obtain ⟨r, o, hr, ho, hcls, hpayload⟩ := hv
  exact ⟨r, o, hr, Heap.get?_alloc_of_some ho e, hcls, hpayload⟩

theorem write (hkept : ¬ payload.IsReplaceable) (hv : h.HasObject v cls payload) {heap : Heap}
    (hwrites : h.heap.Writes heap) : HasObject { h with heap } v cls payload := by
  obtain ⟨r, o, hr, ho, hcls, hpayload⟩ := hv
  obtain ⟨r', e, e', he, hbecomes, rfl⟩ := hwrites
  by_cases heq : r' = r
  · subst heq
    obtain rfl : e = .object o := Option.some.inj (he.symm.trans ho)
    cases hbecomes with
    | object hcls' hpayload' =>
      have hsame := hpayload'.resolve_right (hpayload ▸ hkept)
      exact ⟨r', _, hr, Heap.get?_put_self he _, hcls'.trans hcls, hsame.trans hpayload⟩
  · exact ⟨r, o, hr, (Heap.get?_put_of_ne heq e').trans ho, hcls, hpayload⟩

theorem bootstraps {site : SiteId} {f : Factory} (hv : h.HasObject v cls payload)
    (hf : Action.Bootstraps h site f h') : h'.HasObject v cls payload := by
  cases hf with
  | before | made => exact hv

/-- One change keeps the object. -/
theorem change (hkept : ¬ payload.IsReplaceable) (hv : h.HasObject v cls payload)
    (hchange : Change h made h') : h'.HasObject v cls payload := by
  cases hchange with
  | alloc e => exact hv.alloc e
  | write hwrites => exact hv.write hkept hwrites
  | bootstrap hf => exact hv.bootstraps (Action.bootstraps_of_ok hf)
  | link hs =>
    cases Action.links_of_ok hs with
    | before => exact hv
    | made hnew hf hmade => exact (hv.bootstraps hf).alloc _
  | registry | number | rest => exact hv

/-- **A run keeps the object.** -/
theorem evolves (hkept : ¬ payload.IsReplaceable) (hv : h.HasObject v cls payload)
    (hrun : h.Evolves made h') : h'.HasObject v cls payload := by
  induction hrun with
  | refl => exact hv
  | tail _ hchange ih => exact ih.change hkept hchange

/-- What an object with a payload is an instance of. -/
theorem instanceOf_iff (hv : h.HasObject v cls payload) {type : ClassId} :
    ((Action.instanceOf v type).apply h).1 = .ok true ↔ h.registry.Supports cls type := by
  obtain ⟨r, o, rfl, ho, rfl, -⟩ := hv
  exact Action.instanceOf_object_iff ho

end HasObject

/-! ## Instances that forward -/

/-- A value forwards to a target: it has it, and a call on it of a method that its class does not have is
a call of the target. -/
def ForwardsTo (h : Host) (v : Value) (t : Target) : Prop :=
  Dispatch.target? h v = .ok (some t) ∧
    ∀ cls key, h.classOf v = .ok cls → Dispatch.found? h cls key .onInstance = none →
      ∀ call args, (Dispatch.step call (.virtual v key args)).apply h = (call (.target t args)).apply h

theorem HasObject.forwardsTo {t : Target} (hv : h.HasObject v cls (.lambda t)) : h.ForwardsTo v t := by
  have htarget : Dispatch.target? h v = .ok (some t) := by
    obtain ⟨r, o, rfl, ho, -, hpayload⟩ := hv
    unfold Dispatch.target?
    simp only [Heap.object_eq_ok.2 ho, bind, Except.bind, hpayload]
    rfl
  refine ⟨htarget, fun cls' key hcls hnone call args => ?_⟩
  have hvirtual : (Dispatch.step call (.virtual v key args)).apply h
      = (Dispatch.forward call cls' v key args).apply h := by
    rw [Dispatch.apply_virtual, hcls]
    simp only [Dispatch.apply_special, hnone]
  have hread : (Dispatch.outcome (Dispatch.target? h v)).apply h = some (.ok (some t), h) := by
    rw [htarget]
    rfl
  rw [hvirtual]
  unfold Dispatch.forward
  rw [Process.apply_bind_of_ok Process.apply_get, Process.apply_bind_of_ok hread]

end Host

/-! ## The natives -/

namespace LinkageNative

open GuestHost.Action Host

variable {h h' : Host} {args : List Value} {v : Value} {cls interface : ClassId} {handle : MethodHandle}
  {f : Factory}

theorem apply_payloadArgument {i : Nat} {payload : Payload} (hi : args[i]? = some v)
    (hv : h.HasObject v cls payload) : (payloadArgument args i).apply h = (.ok payload, h) := by
  obtain ⟨r, o, rfl, ho, -, rfl⟩ := hv
  have hget : Args.get args i = .ok (.ref r) := by
    unfold Args.get
    rw [hi]
  have hr : (Value.ref r).expectObject = .ok r := rfl
  have hobject : (view fun h => h.heap.object r).apply h = (.ok o, h) :=
    apply_view_of_ok (Heap.object_eq_ok.2 ho)
  unfold payloadArgument
  rw [hget, apply_bind_of_ok (apply_ofResult _), hr, apply_bind_of_ok (apply_ofResult _),
    apply_bind_of_ok hobject]
  rfl

/-- Arguments that ask for a lambda expression: the class that it is to be an instance of, and the
handle of its method. -/
def Asks (h : Host) (args : List Value) (interface : ClassId) (handle : MethodHandle) : Prop :=
  (∃ type, args[2]? = some type ∧ h.mirroredClass type = .ok interface) ∧
    ∃ v cls, args[4]? = some v ∧ h.HasObject v cls (.methodHandle handle)

/-- The host after a number was taken. -/
def numbered (h : Host) : Host := { h with linkage := h.linkage.anonymousSite.2 }

/-- The native takes a number, bootstraps the site with the number, and makes a call site with its
factory. -/
theorem apply_metafactory (hasks : Asks h args interface handle) :
    (runMetafactory args).apply h
      = (do
          let f ← bootstrapSite h.linkage.nextAnonymous interface handle
          return .ref (← allocObject CoreClass.callSite (.factory f)) : Action Value).apply
        (numbered h) := by
  obtain ⟨⟨type, htype, hinterface⟩, v, cls, hv, hhandle⟩ := hasks
  have hget : Args.get args 2 = .ok type := by
    unfold Args.get
    rw [htype]
  have hclass : (view fun h => h.mirroredClass type).apply h = (.ok interface, h) :=
    apply_view_of_ok hinterface
  unfold runMetafactory
  rw [hget, apply_bind_of_ok (apply_ofResult _), apply_bind_of_ok hclass,
    apply_bind_of_ok (apply_payloadArgument hv hhandle)]
  rfl

/-- The native makes a handle with the factory of a call site. -/
theorem apply_siteTarget (hv : h.HasObject v cls (.factory f)) :
    (runSiteTarget [v]).apply h
      = (.ok (.ref (h.heap.allocObject CoreClass.methodHandle (.factory f)).1),
          { h with heap := (h.heap.allocObject CoreClass.methodHandle (.factory f)).2 }) := by
  unfold runSiteTarget
  rw [apply_bind_of_ok (apply_payloadArgument rfl hv)]
  rfl

end LinkageNative

/-- Invoking a handle with a factory makes an instance of the factory. -/
theorem Dispatch.apply_invokeHandle {h : Host} {v array : Value} {values : List Value} {cls : ClassId}
    {f : Factory} (hv : h.HasObject v cls (.factory f))
    (hvalues : (handleArguments [v, array]).apply h = (.ok values, h)) (call : Caller) :
    (runInvokeHandle call [v, array]).apply h
      = some ((do return .ref (← Action.instantiate f values).receiver : Action Value).apply h) := by
  obtain ⟨r, o, rfl, ho, -, hpayload⟩ := hv
  have hread : (outcome (Args.get [.ref r, array] 0)).apply h = some (.ok (.ref r), h) := rfl
  have hobject : (outcome (Value.ref r).expectObject).apply h = some (.ok r, h) := rfl
  have hargs : ((handleArguments [.ref r, array]).toProcess).apply h = some (.ok values, h) := by
    rw [Process.apply_toProcess, hvalues]
  have hentry : ((Action.view fun h => h.heap.object r).toProcess).apply h = some (.ok o, h) := by
    rw [Process.apply_toProcess, Action.apply_view_of_ok (Heap.object_eq_ok.2 ho)]
  unfold runInvokeHandle
  rw [Process.apply_bind_of_ok hread, Process.apply_bind_of_ok hobject, Process.apply_bind_of_ok hargs,
    Process.apply_bind_of_ok hentry]
  simp only [hpayload]
  rfl

/-! ## What call sites and handles are good for -/

namespace Host

variable {h h' : Host} {made : List SiteId} {site : SiteId} {v : Value} {cls : ClassId} {f : Factory}

/-- From a host on, whatever it becomes, invoking a value with arguments makes an instance of a factory:
it is an instance of the factory's interface and forwards to the factory's handle, with the arguments
bound. -/
def Instantiates (h : Host) (v : Value) (f : Factory) : Prop :=
  ∀ made later, h.Evolves made later → later.heap.size < 2 ^ 32 →
    ∀ array values, (Dispatch.handleArguments [v, array]).apply later = (.ok values, later) →
      ∀ call, ∃ x next, (Dispatch.runInvokeHandle call [v, array]).apply later = some (.ok x, next) ∧
        ((Action.instanceOf x f.interface).apply next).1 = .ok true ∧
          next.ForwardsTo x ⟨f.handle, values⟩

/-- From a host on, whatever it becomes, a value carries a factory: the target that is taken from it
instantiates the factory. -/
def Carries (h : Host) (v : Value) (f : Factory) : Prop :=
  ∀ made later, h.Evolves made later → later.heap.size < 2 ^ 32 →
    ∃ target next, (LinkageNative.runSiteTarget [v]).apply later = (.ok target, next) ∧
      next.Instantiates target f

/-- An object with the factory of a site instantiates it when it is invoked. -/
theorem HasObject.instantiates (hv : h.HasObject v cls (.factory f)) (hs : Settled made h)
    (hf : h.linkage.factories.get? site = some f) : h.Instantiates v f := by
  intro made' later hrun hroom array values hvalues call
  have hv' : later.HasObject v cls (.factory f) := hv.evolves id hrun
  let next : Host := { later with
    heap := (later.heap.allocObject f.implementing (.lambda ⟨f.handle, values⟩)).2 }
  have hx : next.HasObject (.ref (later.heap.allocObject f.implementing _).1) f.implementing
      (.lambda ⟨f.handle, values⟩) := .allocObject hroom _ _
  have hrun' : h.Evolves (made' ++ []) next := hrun.tail (.alloc later _)
  refine ⟨_, next, Dispatch.apply_invokeHandle hv' hvalues call, ?_, hx.forwardsTo⟩
  exact hx.instanceOf_iff.2 ((hs.run hrun').supports (hrun'.keeps.factories hf))

/-- An object with the factory of a site carries it. -/
theorem HasObject.carries (hv : h.HasObject v cls (.factory f)) (hs : Settled made h)
    (hf : h.linkage.factories.get? site = some f) : h.Carries v f := by
  intro made' later hrun hroom
  have hrun' := hrun.tail (.alloc later (.object ⟨CoreClass.methodHandle, .empty, .factory f⟩))
  refine ⟨_, _, LinkageNative.apply_siteTarget (hv.evolves id hrun), ?_⟩
  exact (HasObject.allocObject hroom _ _).instantiates (hs.run hrun') (hrun'.keeps.factories hf)

end Host

/-! ## When the call site is for what was asked for -/

namespace LinkageNative

open GuestHost.Action Host

variable {h h' : Host} {made : List SiteId} {args : List Value} {site : Value} {interface : ClassId}
  {handle : MethodHandle}

/-- The factory that a number gets is the one that it has, or else for what was asked for. -/
theorem exists_factory_of_metafactory (hs : Settled made h) (hasks : Asks h args interface handle)
    (hsite : (runMetafactory args).apply h = (.ok site, h')) (hroom : h'.heap.size ≤ 2 ^ 32) :
    ∃ f, h'.HasObject site CoreClass.callSite (.factory f) ∧ h'.Carries site f ∧
      (h.linkage.nextAnonymous ∉ made → f.interface = interface ∧ f.handle = handle) ∧
        ∀ g, h.linkage.factories.get? h.linkage.nextAnonymous = some g → f = g := by
  rw [apply_metafactory hasks] at hsite
  obtain ⟨f, h₁, hf, hsite⟩ := apply_bind_eq_ok.1 hsite
  cases hsite
  have hs₀ : Settled (made ++ []) (numbered h) := hs.change (.number h)
  rw [List.append_nil] at hs₀
  obtain ⟨hs₁, hf₁⟩ := hs₀.bootstraps (bootstraps_of_ok hf)
  have hobject : HasObject { h₁ with heap := (h₁.heap.allocObject CoreClass.callSite (.factory f)).2 }
      (.ref (h₁.heap.allocObject CoreClass.callSite (.factory f)).1) CoreClass.callSite (.factory f) := by
    refine .allocObject ?_ _ _
    have hsize : (h₁.heap.alloc (.object ⟨CoreClass.callSite, .empty, .factory f⟩)).2.size ≤ 2 ^ 32 :=
      hroom
    rwa [Heap.size_alloc] at hsize
  refine ⟨f, hobject, hobject.carries (hs₁.run (.single (.alloc h₁ _))) hf₁, fun hnew => ?_,
    fun g hg => ?_⟩
  · have hnone : h.linkage.factories.get? h.linkage.nextAnonymous = none :=
      Option.eq_none_iff_forall_ne_some.2 fun g hg => hnew ((hs.sites _).1 ⟨g, hg⟩)
    exact asked_of_bootstrapSite (h := numbered h) hnone hf
  · rw [bootstrapSite_of_factory (h := numbered h) hg] at hf
    cases hf
    rfl

/-- **When a lambda expression is linked as asked for.** Take a host that was built and then used in any
way, and a successful call of the native for an interface and a handle. The call site has a factory, and
carries it whatever becomes of the host: the target that is taken from it makes instances of the factory's
interface, which forward to the factory's handle with the arguments bound. The factory is for the
interface and the handle that were asked for exactly if the number that is next was not bootstrapped
before, or was for just these; otherwise the factory is that of the site with this number. -/
theorem metafactory_faithful_iff {s : Setup} {start : Host} (hbuild : s.build = .ok start)
    (hrun : start.Evolves made h) (hasks : Asks h args interface handle)
    (hsite : (runMetafactory args).apply h = (.ok site, h')) (hroom : h'.heap.size ≤ 2 ^ 32) :
    ∃ f, h'.HasObject site CoreClass.callSite (.factory f) ∧ h'.Carries site f ∧
      ((f.interface = interface ∧ f.handle = handle) ↔
        h.linkage.nextAnonymous ∉ made ∨
          ∃ g, h.linkage.factories.get? h.linkage.nextAnonymous = some g ∧
            g.interface = interface ∧ g.handle = handle) ∧
      ∀ g, h.linkage.factories.get? h.linkage.nextAnonymous = some g → f = g := by
  have hs : Settled made h := (Settled.of_build hbuild).run hrun
  obtain ⟨f, hobject, hcarries, hnew, hbefore⟩ := exists_factory_of_metafactory hs hasks hsite hroom
  refine ⟨f, hobject, hcarries, ⟨fun hasked => ?_, ?_⟩, hbefore⟩
  · by_cases hmade : h.linkage.nextAnonymous ∈ made
    · obtain ⟨g, hg⟩ := (hs.sites _).2 hmade
      obtain rfl := hbefore g hg
      exact .inr ⟨f, hg, hasked⟩
    · exact .inl hmade
  · rintro (hmade | ⟨g, hg, hasked⟩)
    · exact hnew hmade
    · obtain rfl := hbefore g hg
      exact hasked

/-- Declares an interface, and makes arguments that ask for an instance of it that forwards to the length
of a text. -/
def askSupplier : Action (List Value) := do
  let interface ← onRegistry fun r =>
    r.register { name := "Supplier", modifiers := interfaceBit ||| abstractBit }
  let type ← methodType interface
  let handle ← methodHandle CoreClass.string "length" 2
  return [.null, .null, type, .null, handle]

theorem evolves_askSupplier : Action.Evolves askSupplier :=
  Acts.evolves ((acts_define _).bind fun _ => (acts_methodType _).bind fun _ =>
    (acts_methodHandle _ _ _).bind fun _ => acts_pure _)

theorem asks_supplier {h : Host} (htype : h.mirroredClass (.ref ⟨0⟩) = .ok 19)
    (hhandle : h.heap.get? ⟨1⟩ = some (.object
      ⟨CoreClass.methodHandle, .empty, .methodHandle ⟨CoreClass.string, "length", .virtual⟩⟩)) :
    Asks h [.null, .null, .ref ⟨0⟩, .null, .ref ⟨1⟩] 19 ⟨CoreClass.string, "length", .virtual⟩ :=
  ⟨⟨_, rfl, htype⟩, _, _, rfl, _, _, rfl, hhandle, rfl, rfl⟩

/-- On a host without linked sites, the call site is for what was asked for. -/
theorem metafactory_faithful_for_supplier :
    let setup : Setup :=
      { config := {}, source := some (.staged (.ofList [])), imports := .standard, attached := none,
        outside := .nothing, surroundings := { millis := 0, seed := 0 } }
    let args : List Value := [.null, .null, .ref ⟨0⟩, .null, .ref ⟨1⟩]
    ∃ start made h h', setup.build = .ok start ∧ start.Evolves made h ∧
      Asks h args 19 ⟨CoreClass.string, "length", .virtual⟩ ∧
        (runMetafactory args).apply h = (.ok (.ref ⟨2⟩), h') ∧
          ∃ f, f.interface = 19 ∧ f.handle = ⟨CoreClass.string, "length", .virtual⟩ ∧
            h'.Carries (.ref ⟨2⟩) f := by
  intro setup args
  let start : Host :=
    { config := {}, heap := .empty, registry := CoreClass.registry, linkage := .empty,
      files := FileTable.empty.enable, source := .staged (.ofList []), imports := .standard,
      attached := none, surroundings := { millis := 0, seed := 0 } }
  let h : Host := (askSupplier.apply start).2
  have hbuild : setup.build = .ok start := rfl
  obtain ⟨made, hrun⟩ : ∃ made, start.Evolves made h := evolves_askSupplier start
  have hasks : Asks h args 19 ⟨CoreClass.string, "length", .virtual⟩ :=
    asks_supplier (by decide +kernel) (by decide +kernel)
  have hsite := apply_eq_of_ok
    (show ((runMetafactory args).apply h).1 = .ok (.ref ⟨2⟩) by decide +kernel)
  have hsize : ((runMetafactory args).apply h).2.heap.size = 3 := by decide +kernel
  have hroom : ((runMetafactory args).apply h).2.heap.size ≤ 2 ^ 32 := by omega
  have hnew : h.linkage.nextAnonymous ∉ made := by
    intro hmade
    obtain ⟨g, hg⟩ := (((Settled.of_build hbuild).run hrun).sites _).2 hmade
    have hnone : h.linkage.factories.get? h.linkage.nextAnonymous = none := by decide +kernel
    rw [hnone] at hg
    cases hg
  obtain ⟨f, -, hcarries, hiff, -⟩ := metafactory_faithful_iff hbuild hrun hasks hsite hroom
  obtain ⟨hinterface, hhandle⟩ := hiff.2 (.inl hnew)
  exact ⟨start, made, h, _, hbuild, hrun, hasks, hsite, f, hinterface, hhandle, hcarries⟩

/-- Where the site with the topmost number was linked to another method, the call site is for that one. -/
theorem metafactory_reuses_site :
    let setup : Setup :=
      { config := {}, source := some (.staged (.ofList [])), imports := .standard, attached := none,
        outside := .nothing, surroundings := { millis := 0, seed := 0 } }
    let args : List Value := [.null, .null, .ref ⟨0⟩, .null, .ref ⟨1⟩]
    ∃ start made h h', setup.build = .ok start ∧ start.Evolves made h ∧
      (h.registry.get? 19).map (·.isInterface) = some true ∧
      Asks h args 19 ⟨CoreClass.string, "length", .virtual⟩ ∧
        (runMetafactory args).apply h = (.ok (.ref ⟨3⟩), h') ∧
          ∃ f, h'.HasObject (.ref ⟨3⟩) CoreClass.callSite (.factory f) ∧
            f.handle = ⟨CoreClass.string, "isEmpty", .virtual⟩ := by
  intro setup args
  let start : Host :=
    { config := {}, heap := .empty, registry := CoreClass.registry, linkage := .empty,
      files := FileTable.empty.enable, source := .staged (.ofList []), imports := .standard,
      attached := none, surroundings := { millis := 0, seed := 0 } }
  let other : LinkRequest := ⟨19, ⟨CoreClass.string, "isEmpty", .virtual⟩, []⟩
  let h : Host := ((askSupplier >>= fun _ => link 0xFFFFFFFF other).apply start).2
  obtain ⟨made, hrun⟩ : ∃ made, start.Evolves made h :=
    (evolves_askSupplier.bind fun _ => evolves_link _ _) start
  have hasks : Asks h args 19 ⟨CoreClass.string, "length", .virtual⟩ :=
    asks_supplier (by decide +kernel) (by decide +kernel)
  have hsite := apply_eq_of_ok
    (show ((runMetafactory args).apply h).1 = .ok (.ref ⟨3⟩) by decide +kernel)
  have hface : (h.registry.get? 19).map (·.isInterface) = some true := by decide +kernel
  have hentry : ((runMetafactory args).apply h).2.heap.get? ⟨3⟩
      = some (.object ⟨CoreClass.callSite, .empty, .factory ⟨19, 20, other.handle⟩⟩) := by
    decide +kernel
  exact ⟨start, made, h, _, rfl, hrun, hface, hasks, hsite, ⟨19, 20, other.handle⟩,
    ⟨_, _, rfl, hentry, rfl, rfl⟩, rfl⟩

end LinkageNative

end GuestHost
