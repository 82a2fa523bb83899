import GuestHost.Host.Startup
import GuestHost.Proofs.Linkage.Evolution
import GuestHost.Proofs.Registry.WellFormed

/-!
# The names of adapters

Adapters are registered in the same table of names as the classes that guest code declares, each under
the name of its interface and of its kind. Two adapters never meet there, but an adapter and a declared
class may, and then the one that comes second is refused.

* `adapterName_injective` — adapters of different kinds or interfaces have different names;
* `exists_adapter_iff` — an adapter is to be had unless a declared class has its name;
* `exists_register_iff` — a class is registered unless a declared class or an adapter has its name;
* `linking_iff_name_free` — what this means for wrapping, bootstrapping and linking.
-/

namespace GuestHost

/-- Adapters of different kinds or interfaces have different names. -/
theorem AdapterKind.adapterName_injective {kind kind' : AdapterKind} {name name' : String}
    (h : kind.adapterName name = kind'.adapterName name') : kind = kind' ∧ name = name' := by
  have hlist : name.toList ++ ("$" ++ kind.suffix).toList
      = name'.toList ++ ("$" ++ kind'.suffix).toList := by
    have := congrArg String.toList h
    simpa [adapterName, String.toList_append] using this
  -- The endings are of equal length, so they are equal.
  have hlength : ∀ kind : AdapterKind, ("$" ++ kind.suffix).toList.length = 7 := by
    intro kind
    cases kind <;> decide +kernel
  obtain ⟨hname, hsuffix⟩ := List.append_inj' hlist ((hlength kind).trans (hlength kind').symm)
  refine ⟨?_, String.toList_inj.1 hname⟩
  cases kind <;> cases kind'
  · rfl
  · exact absurd hsuffix (by decide +kernel)
  · exact absurd hsuffix (by decide +kernel)
  · rfl

namespace Registry

variable {β : Type} {r r' : Registry β} {id target : ClassId} {kind : AdapterKind} {name : String}

/-! ## Who has a name -/

/-- Guest code declared a class with a name. -/
def Declares (r : Registry β) (name : String) : Prop :=
  ∃ id, r.origin? id = some .declared ∧ r.name? id = some name

/-- An adapter has a name. -/
def Adapts (r : Registry β) (name : String) : Prop :=
  ∃ kind id, r.origin? id = some (.adapter kind) ∧ r.name? id = some name

/-- A number is that of an interface with a name. -/
def HasInterface (r : Registry β) (target : ClassId) (name : String) : Prop :=
  r.isInterface? target = some true ∧ r.name? target = some name

/-- A name is new if neither a declared class nor an adapter has it. -/
theorem Filed.number?_eq_none_iff (h : r.Filed) :
    r.number? name = none ↔ ¬ r.Declares name ∧ ¬ r.Adapts name := by
  rw [← not_or, Option.eq_none_iff_forall_not_mem, ← not_exists, not_congr]
  constructor
  · rintro ⟨id, hnumber⟩
    have hname := h.named.1 hnumber
    obtain ⟨record, hget⟩ := lt_size_iff.1 (lt_size_of_name? hname)
    cases horigin : record.origin with
    | declared => exact .inl ⟨id, by simp [origin?, hget, horigin], hname⟩
    | adapter kind => exact .inr ⟨kind, id, by simp [origin?, hget, horigin], hname⟩
  · rintro (⟨id, -, hname⟩ | ⟨-, id, -, hname⟩)
    · exact ⟨id, h.named.2 hname⟩
    · exact ⟨id, h.named.2 hname⟩

/-! ## When an adapter is to be had -/

/-- An adapter that was not made yet has a name that no other adapter has. -/
theorem Filed.not_adapts (h : r.Filed) (htarget : r.name? target = some name)
    (hnew : r.adapters.get? (kind, target) = none) : ¬ r.Adapts (kind.adapterName name) := by
  rintro ⟨kind', id, horigin, hname⟩
  obtain ⟨target', hmade⟩ := h.memoized horigin
  obtain ⟨-, -, name', htarget', hname'⟩ := h.adapted hmade
  obtain ⟨rfl, rfl⟩ := AdapterKind.adapterName_injective
    (Option.some.inj (hname.symm.trans hname'))
  obtain rfl := h.unique htarget htarget'
  rw [hnew] at hmade
  cases hmade

/-- An adapter that was made has its name, so no declared class has it. -/
theorem Filed.not_declares (h : r.Filed) (htarget : r.name? target = some name)
    (hmade : r.adapters.get? (kind, target) = some id) : ¬ r.Declares (kind.adapterName name) := by
  rintro ⟨id', horigin', hname'⟩
  obtain ⟨horigin, -, name', htarget', hname⟩ := h.adapted hmade
  obtain rfl := Option.some.inj (htarget.symm.trans htarget')
  obtain rfl := h.unique hname hname'
  rw [horigin] at horigin'
  cases horigin'

/-- **The adapter of an interface is to be had exactly if no declared class has its name.** -/
theorem exists_adapter_iff (h : r.Reachable) (ht : r.HasInterface target name) :
    (∃ id r', r.adapter kind target = .ok (id, r')) ↔ ¬ r.Declares (kind.adapterName name) := by
  have hfiled := h.filed
  obtain ⟨hface, hname⟩ := ht
  constructor
  · rintro ⟨id, r', hmade⟩
    rcases adapter_eq_ok_iff.1 hmade with ⟨hmade, -⟩ | ⟨-, -, name', made, hname', hregister, -⟩
    · exact hfiled.not_declares hname hmade
    · obtain rfl := Option.some.inj (hname.symm.trans hname')
      obtain ⟨hnew, -⟩ := registerAs_eq_ok_iff.1 hregister
      exact (hfiled.number?_eq_none_iff.1 hnew).1
  · intro hfree
    cases hmade : r.adapters.get? (kind, target) with
    | some id => exact ⟨id, r, adapter_eq_ok_iff.2 (.inl ⟨hmade, rfl⟩)⟩
    | none =>
      have hnew : r.number? (kind.adapterName name) = none :=
        hfiled.number?_eq_none_iff.2 ⟨hfree, hfiled.not_adapts hname hmade⟩
      have hknown : r.KnowsLinks
          ((adapterDeclaration kind target name : Declaration β).record (some rootClass)
            (.adapter kind)) := by
        rintro b (hb | hb)
        · rw [superclass_adapterDeclaration, Option.some.injEq] at hb
          exact hb ▸ h.sound.root
        · obtain rfl := List.mem_singleton.1 hb
          exact lt_size_of_name? hname
      exact ⟨_, _, adapter_eq_ok_iff.2 (.inr ⟨hmade, hface, name, _, hname,
        registerAs_eq_ok_iff.2 ⟨hnew, hknown, rfl, rfl⟩, rfl⟩)⟩

/-- **A class whose links are known is registered exactly if neither a declared class nor an adapter has
its name.** -/
theorem exists_register_iff (h : r.Reachable) {d : Declaration β}
    (hknown : r.KnowsLinks (d.record (some rootClass) .declared)) :
    (∃ id r', r.register d = .ok (id, r')) ↔ ¬ r.Declares d.name ∧ ¬ r.Adapts d.name := by
  rw [← h.filed.number?_eq_none_iff]
  constructor
  · rintro ⟨id, r', hmade⟩
    exact (registerAs_eq_ok_iff.1 hmade).1
  · exact fun hnew => ⟨_, _, registerAs_eq_ok_iff.2 ⟨hnew, hknown, rfl, rfl⟩⟩

end Registry

/-! ## Wrapping and linking -/

namespace Action

open Registry (KnowsLinks)

variable {α β : Type} {h : Host} {target : ClassId} {name : String}

/-- The action has a result. -/
def Succeeds (a : Action α) (h : Host) : Prop := ∃ x h', a.apply h = (.ok x, h')

theorem succeeds_onRegistry {f : Registry Body → Except Fault (α × Registry Body)} :
    (onRegistry f).Succeeds h ↔ ∃ x r, f h.registry = .ok (x, r) := by
  unfold Succeeds
  rw [apply_onRegistry]
  cases f h.registry with
  | error fault => simp
  | ok result => simp [Prod.ext_iff]

theorem succeeds_adapter {kind : AdapterKind} : (adapter kind target).Succeeds h ↔
    ∃ id r, h.registry.adapter kind target = .ok (id, r) := succeeds_onRegistry

theorem succeeds_define {d : Declaration Body} : (define d).Succeeds h ↔
    ∃ id r, h.registry.register d = .ok (id, r) := succeeds_onRegistry

/-- Nothing but the first of two actions fails if the second never does. -/
theorem succeeds_bind {a : Action α} {f : α → Action β} (hf : ∀ x h', (f x).Succeeds h') :
    (a >>= f).Succeeds h ↔ a.Succeeds h := by
  constructor
  · rintro ⟨y, h', hy⟩
    obtain ⟨x, h₁, hx, -⟩ := apply_bind_eq_ok.1 hy
    exact ⟨x, h₁, hx⟩
  · rintro ⟨x, h₁, hx⟩
    obtain ⟨y, h', hy⟩ := hf x h₁
    exact ⟨y, h', apply_bind_eq_ok.2 ⟨x, h₁, hx, hy⟩⟩

theorem succeeds_pure (x : α) : (pure x : Action α).Succeeds h := ⟨x, h, rfl⟩

theorem succeeds_allocObject (cls : ClassId) (payload : Payload) :
    (allocObject cls payload).Succeeds h := ⟨_, _, rfl⟩

/-- Wrapping a value as an instance of an interface fails only with its adapter. -/
theorem succeeds_wrap (ht : h.registry.HasInterface target name) (data : HostData) :
    (wrap target data).Succeeds h ↔ (adapter .wrapper target).Succeeds h := by
  obtain ⟨record, hget, hface⟩ := Registry.exists_get?_of_isInterface? ht.1
  have hrecord : (getClassRecord target).apply h = (.ok record, h) := by
    unfold getClassRecord Registry.get
    rw [apply_view, hget]
  have heq : (wrap target data).apply h
      = (adapter .wrapper target >>= fun concrete => do
          return Value.ref (← allocObject concrete (.host data))).apply h := by
    unfold wrap
    rw [apply_bind_of_ok hrecord]
    simp only [hface, if_true]
  unfold Succeeds
  rw [heq]
  exact succeeds_bind fun concrete h' =>
    (succeeds_bind fun _ _ => succeeds_pure _).2 (succeeds_allocObject _ _)

/-- Bootstrapping a site that has no factory for an interface fails only with its adapter. -/
theorem succeeds_bootstrapSite {site : SiteId} {handle : MethodHandle}
    (hnew : h.linkage.factories.get? site = none) (howner : handle.owner < h.registry.size)
    (ht : h.registry.HasInterface target name) :
    (bootstrapSite site target handle).Succeeds h ↔ (adapter .lambda target).Succeeds h := by
  obtain ⟨record, hget, hface⟩ := Registry.exists_get?_of_isInterface? ht.1
  obtain ⟨owner, hgetOwner⟩ := Registry.lt_size_iff.1 howner
  have hrecord : ∀ {cls c}, h.registry.get? cls = some c →
      (getClassRecord cls).apply h = (.ok c, h) := by
    intro cls c hc
    unfold getClassRecord Registry.get
    rw [apply_view, hc]
  unfold Succeeds bootstrapSite
  rw [apply_bind_of_ok apply_get]
  simp only [hnew]
  rw [apply_bind_of_ok (hrecord hgetOwner), apply_bind_of_ok (hrecord hget)]
  simp only [hface, if_true]
  exact succeeds_bind fun implementing h' => ⟨_, _, rfl⟩

/-- Linking a site that has no call site fails only with bootstrapping it. -/
theorem succeeds_link {site : SiteId} (hnew : h.linkage.callSites.get? site = none)
    (request : LinkRequest) :
    (link site request).Succeeds h ↔
      (bootstrapSite site request.interface request.handle).Succeeds h := by
  unfold Succeeds link
  rw [apply_bind_of_ok apply_get]
  simp only [hnew]
  exact succeeds_bind fun f h' => ⟨_, _, rfl⟩

end Action

namespace Host

open GuestHost.Action

/-- **Linking and wrapping fail exactly over names that are taken.** On a host whose classes came to be
in any way, take an interface. Its adapter of a kind is to be had, and host values are wrapped as
instances of it, exactly if no declared class has the name of the adapter; a site is bootstrapped for it
exactly if the site has a factory already or no declared class has the name of the lambda adapter; and
it is linked exactly if it has a call site already or is bootstrapped. In turn, a class whose name no
declared class has is registered exactly if no adapter has that name. -/
theorem linking_iff_name_free {h : Host} (hreachable : h.registry.Reachable) :
    (∀ target name, h.registry.HasInterface target name →
      (∀ kind, (adapter kind target).Succeeds h ↔
        ¬ h.registry.Declares (kind.adapterName name)) ∧
      (∀ data, (wrap target data).Succeeds h ↔
        ¬ h.registry.Declares (AdapterKind.wrapper.adapterName name)) ∧
      (∀ site handle, handle.owner < h.registry.size →
        ((bootstrapSite site target handle).Succeeds h ↔
          h.linkage.isLinked site = true ∨
            ¬ h.registry.Declares (AdapterKind.lambda.adapterName name)) ∧
        ∀ linking, (link site ⟨target, handle, linking⟩).Succeeds h ↔
          h.linkage.callSites.contains site = true ∨ h.linkage.isLinked site = true ∨
            ¬ h.registry.Declares (AdapterKind.lambda.adapterName name))) ∧
    ∀ d : Declaration Body, h.registry.KnowsLinks (d.record (some rootClass) .declared) →
      ¬ h.registry.Declares d.name →
        ((define d).Succeeds h ↔ ¬ h.registry.Adapts d.name) := by
  refine ⟨fun target name ht => ?_, fun d hknown hfree => ?_⟩
  · have hadapter : ∀ kind, (adapter kind target).Succeeds h ↔
        ¬ h.registry.Declares (kind.adapterName name) := fun kind =>
      succeeds_adapter.trans (Registry.exists_adapter_iff hreachable ht)
    refine ⟨hadapter, fun data => (succeeds_wrap ht data).trans (hadapter .wrapper),
      fun site handle howner => ?_⟩
    have hbootstrap : (bootstrapSite site target handle).Succeeds h ↔
        h.linkage.isLinked site = true ∨
          ¬ h.registry.Declares (AdapterKind.lambda.adapterName name) := by
      unfold Linkage.isLinked Dict.contains
      cases hf : h.linkage.factories.get? site with
      | some f => simpa using ⟨f, h, bootstrapSite_of_factory hf target handle⟩
      | none => simpa using (succeeds_bootstrapSite hf howner ht).trans (hadapter .lambda)
    refine ⟨hbootstrap, fun linking => ?_⟩
    unfold Dict.contains
    cases hs : h.linkage.callSites.get? site with
    | some s => simpa using ⟨s, h, link_of_callSite hs ⟨target, handle, linking⟩⟩
    | none => simpa using (succeeds_link hs ⟨target, handle, linking⟩).trans hbootstrap
  · exact succeeds_define.trans
      ((Registry.exists_register_iff hreachable hknown).trans (and_iff_right hfree))

/-- The declaration of an interface. -/
def supplier : Declaration Body := { name := "Supplier", modifiers := interfaceBit ||| abstractBit }

/-- The declaration of a class that is named like the lambda adapter of the interface. -/
def supplierLambda : Declaration Body := { name := "Supplier$Lambda" }

/-- The host's own classes and both of these. -/
def declaredFirst : Registry Body :=
  CoreClass.registry.run [.register supplier, .register supplierLambda]

/-- The host's own classes, the interface, and its lambda adapter. -/
def adaptedFirst : Registry Body := CoreClass.registry.run [.register supplier, .adapter .lambda 19]

theorem reachable_core : CoreClass.registry.Reachable := by
  have hrun : CoreClass.registry = Registry.initial.run (CoreClass.declarations.map .register) := by
    unfold CoreClass.registry Registry.run
    rw [List.foldl_map]
    rfl
  exact hrun ▸ Registry.Reachable.run .refl _

theorem reachable_declaredFirst : declaredFirst.Reachable := reachable_core.run _

theorem declaredFirst_names : declaredFirst.HasInterface 19 "Supplier" ∧
    declaredFirst.Declares (AdapterKind.lambda.adapterName "Supplier") ∧
      ¬ declaredFirst.Declares (AdapterKind.wrapper.adapterName "Supplier") := by
  have hclasses : declaredFirst.isInterface? 19 = some true ∧ declaredFirst.name? 19 = some "Supplier" ∧
      declaredFirst.origin? 20 = some .declared ∧
      declaredFirst.name? 20 = some (AdapterKind.lambda.adapterName "Supplier") ∧
      declaredFirst.number? (AdapterKind.wrapper.adapterName "Supplier") = none := by decide +kernel
  obtain ⟨hface, hname, horigin, hlambda, hwrapper⟩ := hclasses
  exact ⟨⟨hface, hname⟩, ⟨20, horigin, hlambda⟩,
    (reachable_declaredFirst.filed.number?_eq_none_iff.1 hwrapper).1⟩

/-- Where the class was declared first, host values are wrapped for the interface, but no site is
linked. -/
theorem linking_iff_name_free_declaredFirst :
    let setup : Setup :=
      { config := {}, source := some (.staged (.ofList [])), imports := .standard, attached := none,
        outside := .nothing, surroundings := { millis := 0, seed := 0 } }
    ∃ start h : Host, setup.build = .ok start ∧ h = { start with registry := declaredFirst } ∧
      h.registry.Reachable ∧ (wrap 19 .console).Succeeds h ∧
      ¬ (link 7 ⟨19, ⟨CoreClass.string, "log", .virtual⟩, []⟩).Succeeds h := by
  intro setup
  let start : Host :=
    { config := {}, heap := .empty, registry := CoreClass.registry, linkage := .empty,
      files := FileTable.empty.enable, source := .staged (.ofList []), imports := .standard,
      attached := none, surroundings := { millis := 0, seed := 0 } }
  obtain ⟨h, hh⟩ : ∃ h : Host, h = { start with registry := declaredFirst } := ⟨_, rfl⟩
  have hregistry : h.registry = declaredFirst := by rw [hh]
  have hlinkage : h.linkage = .empty := by rw [hh]
  have hreachable : h.registry.Reachable := hregistry ▸ reachable_declaredFirst
  obtain ⟨ht, hdeclared, hfree⟩ := hregistry ▸ declaredFirst_names
  obtain ⟨-, hwrap, hsite⟩ := (linking_iff_name_free hreachable).1 19 "Supplier" ht
  have howner : CoreClass.string < h.registry.size := by
    rw [hregistry]
    decide +kernel
  obtain ⟨-, hlink⟩ := hsite 7 ⟨CoreClass.string, "log", .virtual⟩ howner
  refine ⟨start, h, rfl, hh, hreachable, (hwrap .console).2 hfree, fun hlinked => ?_⟩
  rcases (hlink []).1 hlinked with hsite | hsite | hname
  · rw [hlinkage] at hsite
    cases hsite
  · rw [hlinkage] at hsite
    cases hsite
  · exact hname hdeclared

/-- **Linking and wrapping do depend on the names of declared classes**: where the class is declared
first, the interface has no lambda adapter; where the adapter is made first, the class is refused,
although no declared class has its name. -/
theorem names_clash :
    (¬ ∀ (r : Registry Body) (kind : AdapterKind) (target : ClassId), r.Reachable →
      r.isInterface? target = some true → ∃ id r', r.adapter kind target = .ok (id, r')) ∧
    ¬ ∀ (r : Registry Body) (d : Declaration Body), r.Reachable →
      r.KnowsLinks (d.record (some rootClass) .declared) → ¬ r.Declares d.name →
        ∃ id r', r.register d = .ok (id, r') := by
  constructor
  · intro hclaim
    obtain ⟨ht, hdeclared, -⟩ := declaredFirst_names
    exact (Registry.exists_adapter_iff reachable_declaredFirst ht).1
      (hclaim _ .lambda 19 reachable_declaredFirst ht.1) hdeclared
  · intro hclaim
    have hreachable : adaptedFirst.Reachable := reachable_core.run _
    have hknown : adaptedFirst.KnowsLinks (supplierLambda.record (some rootClass) .declared) := by
      rintro b (hb | hb)
      · cases hb
        exact hreachable.sound.root
      · cases hb
    have hadapter : adaptedFirst.name? 20 = some "Supplier$Lambda" ∧
        adaptedFirst.origin? 20 = some (.adapter .lambda) := by decide +kernel
    obtain ⟨hname, horigin⟩ := hadapter
    have hfree : ¬ adaptedFirst.Declares "Supplier$Lambda" := by
      rintro ⟨id, horigin', hname'⟩
      obtain rfl := hreachable.filed.unique hname hname'
      rw [horigin] at horigin'
      cases horigin'
    exact ((Registry.exists_register_iff hreachable hknown).1
      (hclaim _ supplierLambda hreachable hknown hfree)).2 ⟨.lambda, 20, horigin, hname⟩

end Host

end GuestHost
