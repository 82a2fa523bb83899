import Mathlib.Data.Finset.Card
import GuestHost.Proofs.Linkage.Calls
import GuestHost.Proofs.Modes.Equivalence

/-!
# Sites are linked once

A site gets a factory when it is first bootstrapped and a call site when it is first linked. Both stay,
whatever is asked for later and whatever guest code does in between.

* `Host.Keeps` — what is never lost: classes, factories, call sites, and instances that forward to a
  target;
* `Host.Settled` — what holds of the factories and call sites of a host that was built and then used;
* `Evolves.keeps`, `Settled.run` — both over a whole run;
* `Host.sites_link_once` — what this means for those who link sites.
-/

namespace GuestHost

/-! ## Maps that get new keys -/

namespace Dict

variable {κ α : Type} [DecidableEq κ] {d : Dict κ α} {k j : κ} {a b : α}

theorem get?_set_of_new (hnew : d.get? k = none) (a : α) (hj : d.get? j = some b) :
    (d.set k a).get? j = some b := by
  have hne : k ≠ j := by
    rintro rfl
    rw [hnew] at hj
    cases hj
  rw [get?_set_of_ne d a hne]
  exact hj

theorem mem_keys_iff : k ∈ d.keys ↔ ∃ a, d.get? k = some a := by
  obtain ⟨entries⟩ := d
  unfold keys get?
  induction entries with
  | nil => simp [findValue?]
  | cons e rest ih =>
    by_cases he : e.1 = k
    · simp [findValue?, he]
    · simp only [List.map_cons, List.mem_cons, findValue?, if_neg he]
      rw [← ih, or_iff_right fun heq => he heq.symm]

theorem keys_set_of_new (hnew : d.get? k = none) (a : α) : (d.set k a).keys = d.keys ++ [k] := by
  obtain ⟨entries⟩ := d
  unfold keys set get? at *
  induction entries with
  | nil => rfl
  | cons e rest ih =>
    have he : e.1 ≠ k := by
      intro he
      simp [findValue?, he] at hnew
    simp only [findValue?, if_neg he] at hnew
    simp only [setEntry, if_neg he, List.map_cons, List.cons_append, ih hnew]

end Dict

namespace Host

variable {h h' h'' : Host} {made made' : List SiteId} {site : SiteId} {f : Factory}

/-! ## What is never lost -/

/-- What one host has, a later one has too. -/
structure Keeps (h h' : Host) : Prop where
  size : h.heap.size ≤ h'.heap.size
  registry : h.registry.Grows h'.registry
  factories : ∀ {site f}, h.linkage.factories.get? site = some f →
    h'.linkage.factories.get? site = some f
  callSites : ∀ {site s}, h.linkage.callSites.get? site = some s →
    h'.linkage.callSites.get? site = some s
  lambdas : ∀ {r o t}, h.heap.get? r = some (.object o) → o.payload = .lambda t →
    ∃ o', h'.heap.get? r = some (.object o') ∧ o'.cls = o.cls ∧ o'.payload = .lambda t

namespace Keeps

theorem refl (h : Host) : h.Keeps h where
  size := Nat.le_refl _
  registry := .refl _
  factories := id
  callSites := id
  lambdas ho ht := ⟨_, ho, rfl, ht⟩

theorem trans (hk : h.Keeps h') (hk' : h'.Keeps h'') : h.Keeps h'' where
  size := Nat.le_trans hk.size hk'.size
  registry := hk.registry.trans hk'.registry
  factories hf := hk'.factories (hk.factories hf)
  callSites hs := hk'.callSites (hk.callSites hs)
  lambdas ho ht := by
    obtain ⟨o', ho', hcls, ht'⟩ := hk.lambdas ho ht
    obtain ⟨o'', ho'', hcls', ht''⟩ := hk'.lambdas ho' ht'
    exact ⟨o'', ho'', hcls'.trans hcls, ht''⟩

theorem alloc (h : Host) (e : Entry) : h.Keeps { h with heap := (h.heap.alloc e).2 } where
  size := by simp
  registry := .refl _
  factories := id
  callSites := id
  lambdas ho ht := ⟨_, Heap.get?_alloc_of_some ho e, rfl, ht⟩

theorem write {heap : Heap} (hwrites : h.heap.Writes heap) : h.Keeps { h with heap } := by
  obtain ⟨r, e, e', he, hbecomes, rfl⟩ := hwrites
  refine ⟨by simp, .refl _, id, id, fun {r' o t} ho ht => ?_⟩
  by_cases hr : r = r'
  · subst hr
    obtain rfl : e = .object o := Option.some.inj (he.symm.trans ho)
    cases hbecomes with
    | object hcls hpayload =>
      refine ⟨_, Heap.get?_put_self he _, hcls, ?_⟩
      rcases hpayload with hsame | hreplaceable
      · exact hsame.trans ht
      · rw [ht] at hreplaceable
        cases hreplaceable
  · exact ⟨o, (Heap.get?_put_of_ne hr e').trans ho, rfl, ht⟩

theorem bootstraps (hf : Action.Bootstraps h site f h') : h.Keeps h' := by
  cases hf with
  | before => exact .refl h
  | made hnew himplementing =>
    refine ⟨Nat.le_refl _, ?_, fun hf => Dict.get?_set_of_new hnew _ hf, id,
      fun ho ht => ⟨_, ho, rfl, ht⟩⟩
    rcases himplementing with ⟨-, -, rfl⟩ | hadapter
    · exact .refl _
    · exact (Registry.grows_of_adapter hadapter).1

theorem links {s : CallSite} (hs : Action.Links h site s h') : h.Keeps h' := by
  cases hs with
  | before => exact .refl h
  | @made h₁ f linking hnew hf hs =>
    -- The call sites are the same after the site was bootstrapped.
    have hnew' : h₁.linkage.callSites.get? site = none := by
      cases hf with
      | before => exact hnew
      | made => exact hnew
    have hrest : h₁.Keeps { h₁ with
        heap := (h₁.heap.allocObject f.implementing (.lambda s.target)).2
        linkage := { h₁.linkage with callSites := h₁.linkage.callSites.set site s } } :=
      { alloc h₁ _ with callSites := fun hs => Dict.get?_set_of_new hnew' _ hs }
    exact (bootstraps hf).trans hrest

end Keeps

/-- One change loses nothing. -/
theorem Change.keeps (hchange : Change h made h') : h.Keeps h' := by
  cases hchange with
  | alloc e => exact .alloc h e
  | write hwrites => exact .write hwrites
  | registry hstep => exact { Keeps.refl h with registry := hstep.grows }
  | bootstrap hf => exact .bootstraps (Action.bootstraps_of_ok hf)
  | link hs => exact .links (Action.links_of_ok hs)
  | number | rest => exact ⟨Nat.le_refl _, .refl _, id, id, fun ho ht => ⟨_, ho, rfl, ht⟩⟩

/-- **A run loses nothing.** -/
theorem Evolves.keeps (hrun : h.Evolves made h') : h.Keeps h' := by
  induction hrun with
  | refl => exact .refl _
  | tail _ hchange ih => exact ih.trans hchange.keeps

/-! ## What holds of factories and call sites -/

/-- The instance of a call site is there, is of a given class, and forwards to the target. -/
def HoldsInstance (h : Host) (s : CallSite) (cls : ClassId) : Prop :=
  ∃ o, h.heap.get? s.receiver = some (.object o) ∧ o.cls = cls ∧ o.payload = .lambda s.target

/-- A host whose factories belong to the sites that were bootstrapped, and whose call sites belong to
its factories. -/
structure Settled (made : List SiteId) (h : Host) : Prop where
  registry : h.registry.Sound
  sites : ∀ site, (∃ f, h.linkage.factories.get? site = some f) ↔ site ∈ made
  nodup : h.linkage.factories.keys.Nodup
  supports : ∀ {site f}, h.linkage.factories.get? site = some f →
    h.registry.Supports f.implementing f.interface
  callSites : ∀ {site s}, h.linkage.callSites.get? site = some s →
    ∃ f, h.linkage.factories.get? site = some f ∧ s.interface = f.interface ∧
      s.target.handle = f.handle ∧ (h.heap.size ≤ 2 ^ 32 → h.HoldsInstance s f.implementing)

namespace Settled

/-- Changes that do not touch the linkage keep it settled. -/
theorem of_keeps (hs : Settled made h) (hkeeps : h.Keeps h') (hregistry : h'.registry.Sound)
    (hfactories : h'.linkage.factories = h.linkage.factories)
    (hcallSites : h'.linkage.callSites = h.linkage.callSites) : Settled made h' where
  registry := hregistry
  sites := by
    rw [hfactories]
    exact hs.sites
  nodup := by
    rw [hfactories]
    exact hs.nodup
  supports hf := by
    rw [hfactories] at hf
    exact hs.registry.supports_of_grows hregistry hkeeps.registry (hs.supports hf)
  callSites hcall := by
    rw [hcallSites] at hcall
    obtain ⟨f, hf, hinterface, hhandle, hinstance⟩ := hs.callSites hcall
    refine ⟨f, hkeeps.factories hf, hinterface, hhandle, fun hroom => ?_⟩
    obtain ⟨o, ho, hcls, ht⟩ := hinstance (Nat.le_trans hkeeps.size hroom)
    obtain ⟨o', ho', hcls', ht'⟩ := hkeeps.lambdas ho ht
    exact ⟨o', ho', hcls'.trans hcls, ht'⟩

/-- The factory that a site gets makes instances of its interface. -/
theorem supports_of_bootstraps (hs : Settled made h) (hf : Action.Bootstraps h site f h') :
    h'.registry.Sound ∧ h'.registry.Supports f.implementing f.interface := by
  cases hf with
  | before hf => exact ⟨hs.registry, hs.supports hf⟩
  | made hnew himplementing =>
    rcases himplementing with ⟨hself, hsize, rfl⟩ | hadapter
    · refine ⟨hs.registry, (Registry.supports_iff hs.registry).2 ?_⟩
      rw [hself]
      exact ⟨hsize, .inr ⟨_, .refl, .refl⟩⟩
    · have hsound := hs.registry.step (.adapter hadapter)
      exact ⟨hsound, (hsound.supports_adapted (Registry.grows_of_adapter hadapter).2).2
        (.inr (.inr .refl))⟩

/-- Bootstrapping a site keeps a host settled, and the site has its factory. -/
theorem bootstraps (hs : Settled made h) (hf : Action.Bootstraps h site f h') :
    Settled (made ++ [site]) h' ∧ h'.linkage.factories.get? site = some f := by
  obtain ⟨hregistry, hsupports⟩ := hs.supports_of_bootstraps hf
  have hkeeps := Keeps.bootstraps hf
  cases hf with
  | before hf =>
    refine ⟨{ hs with sites := fun other => ?_ }, hf⟩
    -- The site is one that was bootstrapped before.
    have hsite : site ∈ made := (hs.sites site).1 ⟨f, hf⟩
    rw [hs.sites, List.mem_append, List.mem_singleton]
    exact ⟨.inl, fun hother => hother.elim id fun heq => heq ▸ hsite⟩
  | made hnew =>
    refine ⟨⟨hregistry, fun other => ?_, ?_, fun {other g} hg => ?_, fun {other s} hcall => ?_⟩,
      Dict.get?_set_self _ _ _⟩
    · rw [List.mem_append, List.mem_singleton, ← hs.sites other]
      by_cases hother : site = other
      · simp [hother]
      · simp [Dict.get?_set_of_ne _ _ hother, Ne.symm hother]
    · rw [Dict.keys_set_of_new hnew, List.nodup_append]
      refine ⟨hs.nodup, List.nodup_singleton site, fun other hother x hx => ?_⟩
      rintro rfl
      obtain rfl := List.mem_singleton.1 hx
      obtain ⟨g, hg⟩ := Dict.mem_keys_iff.1 hother
      rw [hnew] at hg
      cases hg
    · rw [Dict.get?_set] at hg
      split at hg
      · cases hg
        exact hsupports
      · exact hs.registry.supports_of_grows hregistry hkeeps.registry (hs.supports hg)
    · obtain ⟨g, hg, hrest⟩ := hs.callSites hcall
      exact ⟨g, hkeeps.factories hg, hrest⟩

/-- Linking a site keeps a host settled. -/
theorem links {s : CallSite} (hs : Settled made h) (hlinks : Action.Links h site s h') :
    Settled (made ++ [site]) h' := by
  cases hlinks with
  | before hcall =>
    obtain ⟨f, hf, -⟩ := hs.callSites hcall
    exact (hs.bootstraps (.before hf)).1
  | @made h₁ f linking hnew hf hmade =>
    obtain ⟨hs₁, hf₁⟩ := hs.bootstraps hf
    have hkeeps := Keeps.alloc h₁ (.object ⟨f.implementing, .empty, .lambda s.target⟩)
    have hs₂ := hs₁.of_keeps hkeeps hs₁.registry rfl rfl
    refine { hs₂ with callSites := fun {other c} hcall => ?_ }
    rw [Dict.get?_set] at hcall
    split at hcall
    · next heq =>
      cases hcall
      subst heq
      refine ⟨f, hf₁, by rw [hmade], by rw [hmade], fun hroom => ?_⟩
      -- The instance is the entry that was just added.
      have hsize : h₁.heap.size < 2 ^ 32 := by
        have hroom' : (h₁.heap.alloc (.object ⟨f.implementing, .empty, .lambda s.target⟩)).2.size
          ≤ 2 ^ 32 := hroom
        rwa [Heap.size_alloc] at hroom'
      have hnewest := Heap.get?_alloc_self hsize (.object ⟨f.implementing, .empty, .lambda s.target⟩)
      refine ⟨⟨f.implementing, .empty, .lambda s.target⟩, ?_, rfl, rfl⟩
      have hreceiver : s.receiver
          = (h₁.heap.alloc (.object ⟨f.implementing, .empty, .lambda s.target⟩)).1 := by
        rw [hmade]
        rfl
      rw [hreceiver]
      exact hnewest
    · exact hs₂.callSites hcall

/-- **One change keeps a host settled.** -/
theorem change (hs : Settled made h) (hchange : Change h made' h') : Settled (made ++ made') h' := by
  have hkeeps := hchange.keeps
  cases hchange with
  | bootstrap hf => exact (hs.bootstraps (Action.bootstraps_of_ok hf)).1
  | link hlink => exact hs.links (Action.links_of_ok hlink)
  | registry hstep =>
    rw [List.append_nil]
    exact hs.of_keeps hkeeps (hs.registry.step hstep) rfl rfl
  | alloc | write | number | rest =>
    rw [List.append_nil]
    exact hs.of_keeps hkeeps hs.registry rfl rfl

/-- **A run keeps a host settled.** -/
theorem run (hs : Settled made h) (hrun : h.Evolves made' h') : Settled (made ++ made') h' := by
  induction hrun with
  | refl =>
    rw [List.append_nil]
    exact hs
  | tail _ hchange ih =>
    rw [← List.append_assoc]
    exact ih.change hchange

/-- A host that was just built is settled: no site is bootstrapped. -/
theorem of_build {s : Setup} (hbuild : s.build = .ok h) : Settled [] h := by
  obtain ⟨source, -, rfl⟩ := exists_of_build hbuild
  exact
    { registry := (Registry.reachable_foldl CoreClass.declarations .refl).sound
      sites := fun site => by
        refine ⟨?_, fun hsite => absurd hsite List.not_mem_nil⟩
        rintro ⟨f, hf⟩
        cases hf
      nodup := List.nodup_nil
      supports := fun hf => by cases hf
      callSites := fun hcall => by cases hcall }

/-- There are as many factories as sites that were bootstrapped. -/
theorem size_eq (hs : Settled made h) : h.linkage.size = made.toFinset.card := by
  have hkeys : h.linkage.factories.keys.toFinset = made.toFinset := by
    ext site
    rw [List.mem_toFinset, List.mem_toFinset, Dict.mem_keys_iff]
    exact hs.sites site
  rw [← hkeys, List.toFinset_card_of_nodup hs.nodup]
  exact (List.length_map _).symm

/-- The instance of a call site is an instance of the interface, then and later. -/
theorem instanceOf (hs : Settled made h) (hs' : Settled made' h') (hkeeps : h.Keeps h')
    (hroom : h.heap.size ≤ 2 ^ 32) {s : CallSite} (hcall : h.linkage.callSites.get? site = some s) :
    ∃ o, h'.heap.get? s.receiver = some (.object o) ∧ o.payload = .lambda s.target ∧
      ((Action.instanceOf (.ref s.receiver) s.interface).apply h').1 = .ok true := by
  obtain ⟨f, hf, hinterface, -, hinstance⟩ := hs.callSites hcall
  obtain ⟨o, ho, hcls, ht⟩ := hinstance hroom
  obtain ⟨o', ho', hcls', ht'⟩ := hkeeps.lambdas ho ht
  refine ⟨o', ho', ht', (Action.instanceOf_object_iff ho').2 ?_⟩
  rw [hcls', hcls, hinterface]
  exact hs'.supports (hkeeps.factories hf)

end Settled

/-! ## Sites are linked once -/

/-- **Sites are linked once.** Take a host that was built and then used in any way, and what becomes of
it when it is used on. A site that has a factory keeps it: it stays linked, and whatever bootstraps it
gets this factory. A site that has a call site keeps it: whatever links it gets this call site. Each
call site belongs to a factory of the same site, interface and handle. There are as many factories as
sites that were bootstrapped. The instance of a call site, if 32-bit references sufficed for it, is and
stays in the heap, forwards to the target, and is an instance of the interface. Programs, and with them
operations and calls, are such uses. -/
theorem sites_link_once {s : Setup} {start : Host} (hbuild : s.build = .ok start)
    (hrun : start.Evolves made h) (hlater : h.Evolves made' h') :
    (∀ site f, h.linkage.factories.get? site = some f →
      h'.linkage.factories.get? site = some f ∧ h'.linkage.isLinked site = true ∧
        ∀ interface handle,
          (Action.bootstrapSite site interface handle).apply h' = (.ok f, h')) ∧
    (∀ site c, h.linkage.callSites.get? site = some c →
      ∀ request, (Action.link site request).apply h' = (.ok c, h')) ∧
    (∀ site c, h.linkage.callSites.get? site = some c →
      ∃ f, h.linkage.factories.get? site = some f ∧ c.interface = f.interface ∧
        c.target.handle = f.handle) ∧
    h.linkage.size = made.toFinset.card ∧
    (h.heap.size ≤ 2 ^ 32 → ∀ site c, h.linkage.callSites.get? site = some c →
      ∃ o, h'.heap.get? c.receiver = some (.object o) ∧ o.payload = .lambda c.target ∧
        ((Action.instanceOf (.ref c.receiver) c.interface).apply h').1 = .ok true) ∧
    ∀ p result next, (Host.runProgram p).apply h = some (result, next) →
      ∃ now, h.Evolves now next := by
  have hsettled : Settled made h := (Settled.of_build hbuild).run hrun
  have hsettled' : Settled (made ++ made') h' := hsettled.run hlater
  have hkeeps : h.Keeps h' := hlater.keeps
  refine ⟨fun site f hf => ?_, fun site c hcall request => ?_, fun site c hcall => ?_,
    hsettled.size_eq, fun hroom site c hcall => hsettled.instanceOf hsettled' hkeeps hroom hcall,
    fun p => evolves_runProgram p h⟩
  · have hf' := hkeeps.factories hf
    refine ⟨hf', ?_, Action.bootstrapSite_of_factory hf'⟩
    unfold Linkage.isLinked Dict.contains
    rw [hf']
    rfl
  · exact Action.link_of_callSite (hkeeps.callSites hcall) request
  · obtain ⟨f, hf, hinterface, hhandle, -⟩ := hsettled.callSites hcall
    exact ⟨f, hf, hinterface, hhandle⟩

/-- A site that is linked, as a run. -/
theorem Evolves.of_link {request : LinkRequest} {s : CallSite}
    (hs : ((Action.link site request).apply h).1 = .ok s) :
    h.Evolves [site] ((Action.link site request).apply h).2 :=
  .single (.link (Prod.ext hs rfl))

/-- A site that is linked to the console of the host's library, and then linked anew. -/
theorem sites_link_once_for_console :
    let setup : Setup :=
      { config := {}, source := some (.staged (.ofList [])), imports := .standard, attached := none,
        outside := .nothing, surroundings := { millis := 0, seed := 0 } }
    let request : LinkRequest := ⟨CoreClass.console, ⟨CoreClass.string, "log", .virtual⟩, [.int 7]⟩
    ∃ start next, setup.build = .ok start ∧ start.Evolves [7] next ∧ next.linkage.size = 1 ∧
      ∃ c, next.linkage.callSites.get? 7 = some c ∧ c.target = ⟨request.handle, [.int 7]⟩ ∧
        (∀ other, (Action.link 7 other).apply next = (.ok c, next)) ∧
        ∃ o, next.heap.get? c.receiver = some (.object o) ∧ o.payload = .lambda c.target ∧
          ((Action.instanceOf (.ref c.receiver) c.interface).apply next).1 = .ok true := by
  intro setup request
  let start : Host :=
    { config := {}, heap := .empty, registry := CoreClass.registry, linkage := .empty,
      files := FileTable.empty.enable, source := .staged (.ofList []), imports := .standard,
      attached := none, surroundings := { millis := 0, seed := 0 } }
  let next : Host := ((Action.link 7 request).apply start).2
  let c : CallSite := ⟨⟨0⟩, CoreClass.console, ⟨request.handle, [.int 7]⟩⟩
  have hbuild : setup.build = .ok start := rfl
  have hrun : start.Evolves [7] next := Evolves.of_link (s := c) (by decide +kernel)
  have hcall : next.linkage.callSites.get? 7 = some c := by decide +kernel
  have hroom : next.heap.size ≤ 2 ^ 32 := by decide +kernel
  obtain ⟨-, hsame, -, hsize, hinstance, -⟩ := sites_link_once hbuild hrun (.refl next)
  exact ⟨start, next, hbuild, hrun, hsize, c, hcall, rfl, hsame 7 c hcall,
    hinstance hroom 7 c hcall⟩

end Host

end GuestHost
