import GuestHost.Host.Operations
import GuestHost.Proofs.Registry.Subtyping

/-!
# How a host evolves

Whatever runs on a host, the host changes by few kinds of small changes: an entry is added to the heap
or written to, the registry takes a step, a site takes a number, is bootstrapped or is linked, and the
rest of the host may become anything.

* `Host.Change`, `Host.Evolves` — one change and a run of them, with the sites that were bootstrapped;
* `Action.Evolves` — the action changes a host by such changes only, whether it meets a fault or not;
* `Action.Bootstraps`, `Action.Links` — what bootstrapping and linking a site do: `bootstrapSite_spec`,
  `link_spec`.
-/

namespace GuestHost

/-! ## Writes -/

/-- The payloads that a write may replace; any other is the payload of its object for good. -/
def Payload.IsReplaceable : Payload → Prop
  | .empty | .text _ | .host _ => True
  | _ => False

/-- What a write may make of an entry: an object keeps its class, and an array stays one. -/
inductive Entry.Becomes : Entry → Entry → Prop
  | object {o o' : Object} (hcls : o'.cls = o.cls)
    (hpayload : o'.payload = o.payload ∨ o.payload.IsReplaceable) : Becomes (.object o) (.object o')
  | array (items items' : List Value) : Becomes (.array items) (.array items')

/-- A heap after a write to one of its entries. -/
def Heap.Writes (heap heap' : Heap) : Prop :=
  ∃ r e e', heap.get? r = some e ∧ e.Becomes e' ∧ heap' = heap.put r e'

/-! ## Changes -/

namespace Host

/-- One change of a host, with the site that was bootstrapped by it. A site that is linked is
bootstrapped, now or before. -/
inductive Change : Host → List SiteId → Host → Prop
  | alloc (h : Host) (e : Entry) : Change h [] { h with heap := (h.heap.alloc e).2 }
  | write {h : Host} {heap : Heap} (hwrites : h.heap.Writes heap) : Change h [] { h with heap }
  | registry {h : Host} {registry : Registry Body} (hstep : Registry.Step h.registry registry) :
    Change h [] { h with registry }
  | number (h : Host) : Change h [] { h with linkage := h.linkage.anonymousSite.2 }
  | bootstrap {h h' : Host} {site : SiteId} {interface : ClassId} {handle : MethodHandle} {f : Factory}
    (hf : (Action.bootstrapSite site interface handle).apply h = (.ok f, h')) : Change h [site] h'
  | link {h h' : Host} {site : SiteId} {request : LinkRequest} {s : CallSite}
    (hs : (Action.link site request).apply h = (.ok s, h')) : Change h [site] h'
  | rest (h : Host) (files : FileTable) (attached : Option Module) (surroundings : Surroundings) :
    Change h [] { h with files, attached, surroundings }

/-- A run of changes, with the sites that were bootstrapped, in order. -/
inductive Evolves : Host → List SiteId → Host → Prop
  | refl (h : Host) : Evolves h [] h
  | tail {h h' h'' : Host} {made now : List SiteId} (hrun : Evolves h made h')
    (hchange : Change h' now h'') : Evolves h (made ++ now) h''

variable {h h' h'' : Host} {made made' : List SiteId}

theorem Evolves.single (hchange : Change h made h') : h.Evolves made h' := by
  simpa using Evolves.tail (.refl h) hchange

theorem Evolves.trans (hrun : h.Evolves made h') (hrun' : h'.Evolves made' h'') :
    h.Evolves (made ++ made') h'' := by
  induction hrun' with
  | refl => simpa using hrun
  | tail _ hchange ih => simpa using ih.tail hchange

end Host

/-! ## Actions -/

namespace Action

variable {α β : Type} {h h' : Host}

/-- The action changes a host by a run of changes, whether it has a result or meets a fault. -/
def Evolves (a : Action α) : Prop := ∀ h : Host, ∃ made, h.Evolves made (a.apply h).2

theorem Evolves.bind {a : Action α} {f : α → Action β} (ha : Evolves a) (hf : ∀ x, Evolves (f x)) :
    Evolves (a >>= f) := by
  intro h
  obtain ⟨made, hrun⟩ := ha h
  rw [apply_bind]
  rcases hx : a.apply h with ⟨fault | x, h'⟩ <;> rw [hx] at hrun
  · exact ⟨made, hrun⟩
  · obtain ⟨made', hrun'⟩ := hf x h'
    exact ⟨made ++ made', hrun.trans hrun'⟩

/-! ## Parts of the host -/

theorem apply_onRegistry (f : Registry Body → Except Fault (α × Registry Body)) :
    (onRegistry f).apply h = match f h.registry with
      | .ok (a, registry) => (.ok a, { h with registry })
      | .error fault => (.error fault, h) := by
  unfold onRegistry
  rw [apply_bind, apply_get]
  show (ofResult (f h.registry) >>= _).apply h = _
  rw [apply_bind, apply_ofResult]
  cases f h.registry <;> rfl

/-- A wrapper is an object with a host value for its payload. -/
theorem object_of_hostData {v : Value} {data : HostData} (hdata : h.hostData v = .ok data) :
    ∃ r o, v.expectObject = .ok r ∧ h.heap.object r = .ok o ∧ o.payload = .host data := by
  unfold Host.hostData at hdata
  cases hr : v.expectObject with
  | error fault => simp [hr, bind, Except.bind] at hdata
  | ok r =>
    cases ho : h.heap.object r with
    | error fault => simp [hr, ho, bind, Except.bind] at hdata
    | ok o =>
      simp only [hr, ho, bind, Except.bind] at hdata
      split at hdata
      · next hpayload =>
        cases hdata
        exact ⟨r, o, rfl, ho, hpayload⟩
      · cases hdata

/-! ## Linkage -/

/-- What bootstrapping a site does: nothing, if the site has a factory; otherwise it gets one, whose
instances are of the interface itself, or of its adapter. -/
inductive Bootstraps (h : Host) (site : SiteId) (f : Factory) : Host → Prop
  | before (hf : h.linkage.factories.get? site = some f) : Bootstraps h site f h
  | made {registry : Registry Body} (hnew : h.linkage.factories.get? site = none)
    (himplementing : f.implementing = f.interface ∧ f.interface < h.registry.size ∧
        registry = h.registry ∨
      h.registry.adapter .lambda f.interface = .ok (f.implementing, registry)) :
    Bootstraps h site f
      { h with registry, linkage := { h.linkage with factories := h.linkage.factories.set site f } }

/-- A class that is there has a record. -/
theorem apply_getClassRecord (cls : ClassId) (h : Host) :
    (∃ c, h.registry.get? cls = some c ∧ (getClassRecord cls).apply h = (.ok c, h)) ∨
      ∃ fault, (getClassRecord cls).apply h = (.error fault, h) := by
  unfold getClassRecord Registry.get
  rw [apply_view]
  cases h.registry.get? cls with
  | none => exact .inr ⟨_, rfl⟩
  | some c => exact .inl ⟨c, rfl, rfl⟩

/-- **What bootstrapping a site does**, with a result and with a fault. -/
theorem bootstrapSite_spec (site : SiteId) (interface : ClassId) (handle : MethodHandle) (h : Host) :
    (∃ f h', (bootstrapSite site interface handle).apply h = (.ok f, h') ∧ Bootstraps h site f h') ∨
      ∃ fault, (bootstrapSite site interface handle).apply h = (.error fault, h) := by
  unfold bootstrapSite
  rw [apply_bind_of_ok apply_get]
  cases hf : h.linkage.factories.get? site with
  | some f => exact .inl ⟨f, h, rfl, .before hf⟩
  | none =>
    rcases apply_getClassRecord handle.owner h with ⟨_, -, howner⟩ | ⟨fault, howner⟩
    · rw [apply_bind_of_ok howner]
      rcases apply_getClassRecord interface h with ⟨c, hget, hc⟩ | ⟨fault, hc⟩
      · rw [apply_bind_of_ok hc]
        by_cases hface : c.isInterface = true
        · simp only [hface, if_true]
          unfold adapter
          rw [apply_bind, apply_onRegistry]
          cases hadapter : h.registry.adapter .lambda interface with
          | error fault => exact .inr ⟨fault, rfl⟩
          | ok result => exact .inl ⟨_, _, rfl, .made hf (.inr hadapter)⟩
        · simp only [hface]
          have hsize : interface < h.registry.size := Registry.lt_size_iff.2 ⟨c, hget⟩
          exact .inl ⟨_, _, rfl, .made hf (.inl ⟨rfl, hsize, rfl⟩)⟩
      · exact .inr ⟨fault, apply_bind_of_error hc _⟩
    · exact .inr ⟨fault, apply_bind_of_error howner _⟩

theorem bootstraps_of_ok {site : SiteId} {interface : ClassId} {handle : MethodHandle} {f : Factory}
    (hf : (bootstrapSite site interface handle).apply h = (.ok f, h')) : Bootstraps h site f h' := by
  rcases bootstrapSite_spec site interface handle h with ⟨f', h'', hf', hboots⟩ | ⟨fault, hf'⟩
  · rw [hf] at hf'
    cases hf'
    exact hboots
  · rw [hf] at hf'
    cases hf'

/-- What linking a site does: nothing, if it has a call site; otherwise it is bootstrapped, and gets a
new instance of its factory. -/
inductive Links (h : Host) (site : SiteId) (s : CallSite) : Host → Prop
  | before (hs : h.linkage.callSites.get? site = some s) : Links h site s h
  | made {h' : Host} {f : Factory} {linking : List Value}
    (hnew : h.linkage.callSites.get? site = none) (hf : Bootstraps h site f h')
    (hs : s = ⟨(h'.heap.allocObject f.implementing (.lambda ⟨f.handle, linking⟩)).1, f.interface,
      ⟨f.handle, linking⟩⟩) :
    Links h site s
      { h' with
        heap := (h'.heap.allocObject f.implementing (.lambda s.target)).2
        linkage := { h'.linkage with callSites := h'.linkage.callSites.set site s } }

/-- **What linking a site does**, with a result and with a fault. -/
theorem link_spec (site : SiteId) (request : LinkRequest) (h : Host) :
    (∃ s h', (link site request).apply h = (.ok s, h') ∧ Links h site s h') ∨
      ∃ fault, (link site request).apply h = (.error fault, h) := by
  unfold link
  rw [apply_bind_of_ok apply_get]
  cases hs : h.linkage.callSites.get? site with
  | some s => exact .inl ⟨s, h, rfl, .before hs⟩
  | none =>
    rcases bootstrapSite_spec site request.interface request.handle h with
      ⟨f, h', hf, hboots⟩ | ⟨fault, hf⟩
    · rw [apply_bind_of_ok hf]
      exact .inl ⟨_, _, rfl, .made hs hboots rfl⟩
    · exact .inr ⟨fault, apply_bind_of_error hf _⟩

theorem links_of_ok {site : SiteId} {request : LinkRequest} {s : CallSite}
    (hs : (link site request).apply h = (.ok s, h')) : Links h site s h' := by
  rcases link_spec site request h with ⟨s', h'', hs', hlinks⟩ | ⟨fault, hs'⟩
  · rw [hs] at hs'
    cases hs'
    exact hlinks
  · rw [hs] at hs'
    cases hs'

theorem evolves_link (site : SiteId) (request : LinkRequest) : Evolves (link site request) := by
  intro h
  rcases link_spec site request h with ⟨s, h', hs, -⟩ | ⟨fault, hs⟩
  · rw [hs]
    exact ⟨[site], .single (.link hs)⟩
  · rw [hs]
    exact ⟨[], .refl h⟩

/-- A site that is bootstrapped has its factory from then on, whatever is asked for. -/
theorem bootstrapSite_of_factory {site : SiteId} {f : Factory}
    (hf : h.linkage.factories.get? site = some f) (interface : ClassId) (handle : MethodHandle) :
    (bootstrapSite site interface handle).apply h = (.ok f, h) := by
  unfold bootstrapSite
  rw [apply_bind_of_ok apply_get]
  simp only [hf]
  rfl

/-- A site without a factory gets one of the interface and the handle that are asked for. -/
theorem asked_of_bootstrapSite {site : SiteId} {interface : ClassId} {handle : MethodHandle}
    {f : Factory} (hnew : h.linkage.factories.get? site = none)
    (hf : (bootstrapSite site interface handle).apply h = (.ok f, h')) :
    f.interface = interface ∧ f.handle = handle := by
  unfold bootstrapSite at hf
  rw [apply_bind_of_ok apply_get] at hf
  simp only [hnew] at hf
  obtain ⟨_, _, -, hf⟩ := apply_bind_eq_ok.1 hf
  obtain ⟨c, _, -, hf⟩ := apply_bind_eq_ok.1 hf
  -- With and without an adapter, the factory is made in the same way.
  split at hf
  all_goals
    obtain ⟨_, _, -, hf⟩ := apply_bind_eq_ok.1 hf
    cases hf
    exact ⟨rfl, rfl⟩

/-- A site that is linked has its call site from then on, whatever is asked for. -/
theorem link_of_callSite {site : SiteId} {s : CallSite} (hs : h.linkage.callSites.get? site = some s)
    (request : LinkRequest) : (link site request).apply h = (.ok s, h) := by
  unfold link
  rw [apply_bind_of_ok apply_get]
  simp only [hs]
  rfl

end Action

end GuestHost
