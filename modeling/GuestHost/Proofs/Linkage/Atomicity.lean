import Mathlib.Control.Monad.Basic
import GuestHost.Proofs.Linkage.AdapterNames

/-!
# Requests that fail

The operations that make classes, objects and links check all that they are asked for before they change
anything. A request that one of them refuses leaves the host as it was, so everything that is asked for
later goes as if it had not been made.

* `Action.Atomic` — an action that meets a fault leaves the host as it was;
* `ReadsOnly.bind_atomic`, `Atomic.bind_succeeds` — checks first, and then what cannot fail;
* `Op.atomic` — the operations that make and link are such actions;
* `serve_kept` — over any number of operations, requests in vain may be left out;
* `failed_requests_leave_no_trace` — all of this for any host.
-/

namespace GuestHost

namespace Action

variable {α β : Type} {h : Host}

/-! ## Actions that happen as a whole or not at all -/

/-- If the action meets a fault, the host is as it was before. -/
def Atomic (a : Action α) : Prop := ∀ h fault h', a.apply h = (.error fault, h') → h' = h

theorem ReadsOnly.atomic {a : Action α} (ha : ReadsOnly a) : Atomic a := by
  intro h fault h' hfail
  have hsame := ha h
  rw [hfail] at hsame
  exact hsame

theorem atomic_of_succeeds {a : Action α} (ha : ∀ h, a.Succeeds h) : Atomic a := by
  intro h fault h' hfail
  obtain ⟨x, h'', hx⟩ := ha h
  rw [hx] at hfail
  cases hfail

/-- What only reads may come before. -/
theorem ReadsOnly.bind_atomic {a : Action α} {f : α → Action β} (ha : ReadsOnly a)
    (hf : ∀ x, Atomic (f x)) : Atomic (a >>= f) := by
  intro h fault h' hfail
  have hsame := ha h
  rw [apply_bind] at hfail
  rcases hx : a.apply h with ⟨fault' | x, h₁⟩
  · rw [hx] at hfail hsame
    cases hfail
    exact hsame
  · rw [hx] at hfail hsame
    subst hsame
    exact hf x h₁ fault h' hfail

/-- What cannot fail may come after. -/
theorem Atomic.bind_succeeds {a : Action α} {f : α → Action β} (ha : Atomic a)
    (hf : ∀ x h, (f x).Succeeds h) : Atomic (a >>= f) := by
  intro h fault h' hfail
  rw [apply_bind] at hfail
  rcases hx : a.apply h with ⟨fault' | x, h₁⟩
  · rw [hx] at hfail
    cases hfail
    exact ha h fault h' hx
  · rw [hx] at hfail
    obtain ⟨y, h₂, hy⟩ := hf x h₁
    have hok : (f x).apply h₁ = (.error fault, h') := hfail
    rw [hy] at hok
    cases hok

/-- A result that is only wrapped up adds no failure. -/
theorem Atomic.map {a : Action α} (ha : Atomic a) (f : α → β) :
    Atomic (do return f (← a) : Action β) :=
  ha.bind_succeeds fun x _ => succeeds_pure (f x)

theorem succeeds_allocated (cls : ClassId) (payload : Payload) :
    (do return .ref (← allocObject cls payload) : Action Value).Succeeds h :=
  ⟨_, _, rfl⟩

/-! ## Making classes and objects -/

theorem readsOnly_getClassRecord (cls : ClassId) : ReadsOnly (getClassRecord cls) := readsOnly_view _

/-- The registry is replaced only if its operation has a result. -/
theorem atomic_onRegistry (f : Registry Body → Except Fault (α × Registry Body)) :
    Atomic (onRegistry f) := by
  intro h fault h' hfail
  rw [apply_onRegistry] at hfail
  cases hf : f h.registry with
  | error fault' =>
    rw [hf] at hfail
    cases hfail
    rfl
  | ok result =>
    rw [hf] at hfail
    cases hfail

theorem atomic_define (d : Declaration Body) : Atomic (define d) := atomic_onRegistry _

theorem atomic_adapter (kind : AdapterKind) (cls : ClassId) : Atomic (adapter kind cls) :=
  atomic_onRegistry _

theorem atomic_classMirror (cls : ClassId) : Atomic (classMirror cls) := by
  apply (readsOnly_getClassRecord cls).bind_atomic
  intro c
  cases c.mirror with
  | some r => exact (readsOnly_pure _).atomic
  | none => exact atomic_of_succeeds fun h => ⟨_, _, rfl⟩

theorem atomic_allocate (cls : ClassId) : Atomic (allocate cls) := by
  apply (readsOnly_getClassRecord cls).bind_atomic
  intro c
  exact atomic_of_succeeds fun h => succeeds_allocated _ _

theorem atomic_wrap (cls : ClassId) (data : HostData) : Atomic (wrap cls data) := by
  apply (readsOnly_getClassRecord cls).bind_atomic
  intro c
  -- The adapter may be refused; the wrapper itself is not.
  by_cases hc : c.isInterface = true
  · simp only [hc, if_true]
    exact (atomic_adapter _ _).bind_succeeds fun concrete h => succeeds_allocated _ _
  · simp only [hc]
    exact (readsOnly_pure cls).atomic.bind_succeeds fun concrete h => succeeds_allocated _ _

theorem atomic_methodHandle (cls : ClassId) (method : String) (kind : UInt8) :
    Atomic (methodHandle cls method kind) := by
  apply (readsOnly_ofResult _).bind_atomic
  intro kind
  apply (readsOnly_getClassRecord cls).bind_atomic
  intro c
  exact atomic_of_succeeds fun h => succeeds_allocated _ _

theorem atomic_methodType (cls : ClassId) : Atomic (methodType cls) := by
  apply (readsOnly_getClassRecord cls).bind_atomic
  intro c
  exact atomic_of_succeeds fun h => succeeds_allocated _ _

/-! ## Linking -/

theorem atomic_bootstrapSite (site : SiteId) (interface : ClassId) (handle : MethodHandle) :
    Atomic (bootstrapSite site interface handle) := by
  intro h fault h' hfail
  rcases bootstrapSite_spec site interface handle h with ⟨f, h₁, hf, -⟩ | ⟨fault', hf⟩
  · rw [hf] at hfail
    cases hfail
  · rw [hf] at hfail
    cases hfail
    rfl

theorem atomic_link (site : SiteId) (request : LinkRequest) : Atomic (link site request) := by
  intro h fault h' hfail
  rcases link_spec site request h with ⟨s, h₁, hs, -⟩ | ⟨fault', hs⟩
  · rw [hs] at hfail
    cases hfail
  · rw [hs] at hfail
    cases hfail
    rfl

/-- A site that is refused a factory has none. -/
theorem factory_eq_none_of_bootstrapSite {site : SiteId} {interface : ClassId} {handle : MethodHandle}
    {fault : Fault} {h' : Host}
    (hfail : (bootstrapSite site interface handle).apply h = (.error fault, h')) :
    h.linkage.factories.get? site = none := by
  cases hf : h.linkage.factories.get? site with
  | none => rfl
  | some f =>
    rw [bootstrapSite_of_factory hf] at hfail
    cases hfail

/-- A site that is refused a call site has neither a call site nor a factory: with a factory, nothing
that comes then could fail. -/
theorem unlinked_of_link {site : SiteId} {request : LinkRequest} {fault : Fault} {h' : Host}
    (hfail : (link site request).apply h = (.error fault, h')) :
    h.linkage.callSites.get? site = none ∧ h.linkage.factories.get? site = none := by
  have hcall : h.linkage.callSites.get? site = none := by
    cases hs : h.linkage.callSites.get? site with
    | none => rfl
    | some s =>
      rw [link_of_callSite hs] at hfail
      cases hfail
  refine ⟨hcall, ?_⟩
  cases hf : h.linkage.factories.get? site with
  | none => rfl
  | some f =>
    have hboot : (bootstrapSite site request.interface request.handle).Succeeds h :=
      ⟨f, h, bootstrapSite_of_factory hf _ _⟩
    obtain ⟨s, h₁, hs⟩ := (succeeds_link hcall request).2 hboot
    rw [hs] at hfail
    cases hfail

end Action

open GuestHost.Action

/-! ## Requests in vain -/

namespace Op

variable {β : Type}

/-- Whether an operation makes a class or an object, or links a site. -/
def makesOrLinks : Op β → Bool
  | .define _ | .adapter _ _ | .classMirror _ | .allocate _ | .wrap _ _ | .methodHandle _ _ _
  | .methodType _ | .bootstrapSite _ _ _ | .link _ _ => true
  | _ => false

/-- The site that an operation links. -/
def site? : Op β → Option SiteId
  | .bootstrapSite site _ _ | .link site _ => some site
  | _ => none

/-- **The operations that make and link happen as a whole or not at all.** -/
theorem atomic {op : Op Body} (hop : op.makesOrLinks = true) : Atomic op.apply := by
  cases op with
  | define d => exact (atomic_define d).map Reply.cls
  | adapter kind cls => exact (atomic_adapter kind cls).map Reply.cls
  | classMirror cls => exact (atomic_classMirror cls).map Reply.value
  | allocate cls => exact (atomic_allocate cls).map Reply.value
  | wrap cls data => exact (atomic_wrap cls data).map Reply.value
  | methodHandle cls method kind => exact (atomic_methodHandle cls method kind).map Reply.value
  | methodType cls => exact (atomic_methodType cls).map Reply.value
  | bootstrapSite site interface handle =>
    exact (atomic_bootstrapSite site interface handle).map Reply.factory
  | link site request => exact (atomic_link site request).map Reply.site
  | _ => cases hop

/-- A site that an operation is refused to link has no factory and no call site. -/
theorem unlinked_of_fault {op : Op Body} {site : SiteId} {h h' : Host} {fault : Fault}
    (hsite : op.site? = some site) (hfail : op.apply.apply h = (.error fault, h')) :
    h.linkage.isLinked site = false := by
  have hnone : h.linkage.factories.get? site = none := by
    cases op with
    | bootstrapSite site' interface handle =>
      obtain rfl : site' = site := Option.some.inj hsite
      rw [Op.apply, apply_bind] at hfail
      rcases hf : (Action.bootstrapSite site' interface handle).apply h with ⟨fault' | f, h₁⟩
      · exact factory_eq_none_of_bootstrapSite hf
      · rw [hf] at hfail
        cases hfail
    | link site' request =>
      obtain rfl : site' = site := Option.some.inj hsite
      rw [Op.apply, apply_bind] at hfail
      rcases hs : (Action.link site' request).apply h with ⟨fault' | s, h₁⟩
      · exact (unlinked_of_link hs).2
      · rw [hs] at hfail
        cases hfail
    | _ => cases hsite
  simp [Linkage.isLinked, Dict.contains, hnone]

end Op

namespace Host

/-- Serves operations one after the other: all of them with their answers, and the host in the end. -/
def serve (h : Host) : List (Op Body) → List (Op Body × Except Fault Reply) × Host
  | [] => ([], h)
  | op :: rest =>
    let (answer, h') := op.apply.apply h
    let (served, h'') := h'.serve rest
    ((op, answer) :: served, h'')

/-- Whether an operation with its answer is a request to make or to link something that was refused. -/
def isRefusal : Op Body × Except Fault Reply → Bool
  | (op, .error _) => op.makesOrLinks
  | (_, .ok _) => false

/-- What was served, without what was refused. -/
def kept (served : List (Op Body × Except Fault Reply)) : List (Op Body × Except Fault Reply) :=
  served.filter fun e => !isRefusal e

theorem serve_cons (h : Host) (op : Op Body) (rest : List (Op Body)) :
    h.serve (op :: rest) = ((op, (op.apply.apply h).1) :: ((op.apply.apply h).2.serve rest).1,
      ((op.apply.apply h).2.serve rest).2) := rfl

/-- **Requests in vain may be left out**: everything else is answered as before, and the host in the end
is the same. -/
theorem serve_kept (h : Host) (ops : List (Op Body)) :
    h.serve ((kept (h.serve ops).1).map Prod.fst) = (kept (h.serve ops).1, (h.serve ops).2) := by
  induction ops generalizing h with
  | nil => rfl
  | cons op rest ih =>
    rw [serve_cons]
    by_cases hrefused : isRefusal (op, (op.apply.apply h).1) = true
    · -- The request is left out, and the host for the others is the one that it was made to.
      have hsame : (op.apply.apply h).2 = h := by
        rcases hx : op.apply.apply h with ⟨fault | reply, h'⟩
        · rw [hx] at hrefused
          exact Op.atomic hrefused h fault h' hx
        · rw [hx] at hrefused
          cases hrefused
      rw [hsame]
      simpa [kept, hrefused] using ih h
    · have hkept : kept ((op, (op.apply.apply h).1) :: ((op.apply.apply h).2.serve rest).1)
          = (op, (op.apply.apply h).1) :: kept ((op.apply.apply h).2.serve rest).1 := by
        simp [kept, hrefused]
      rw [hkept, List.map_cons, serve_cons, ih]

/-- **Requests that fail leave no trace.** On any host, an operation that makes a class or an object or
links a site and meets a fault leaves the host as it was: its classes, names, adapters, heap, factories
and call sites; and the site that it was to link is unlinked. Whatever is asked for one after the other,
the requests of this kind that were refused may be left out: all others are answered as they were, and
the host in the end is the same. -/
theorem failed_requests_leave_no_trace (h : Host) :
    (∀ (op : Op Body) (fault : Fault) (h' : Host), op.makesOrLinks = true →
      op.apply.apply h = (.error fault, h') →
        h' = h ∧ ∀ site, op.site? = some site → h'.linkage.isLinked site = false) ∧
    ∀ ops : List (Op Body), h.serve ((kept (h.serve ops).1).map Prod.fst)
      = (kept (h.serve ops).1, (h.serve ops).2) := by
  refine ⟨?_, serve_kept h⟩
  intro op fault h' hop hfail
  obtain rfl := Op.atomic hop h fault h' hfail
  refine ⟨rfl, ?_⟩
  intro site hsite
  exact Op.unlinked_of_fault hsite hfail

/-- Where a class has the name of the lambda adapter, the link of a site is refused. The host is as it
was, and the site can be linked for another interface as if nothing had been asked for. -/
theorem failed_requests_leave_no_trace_for_supplier :
    let setup : Setup :=
      { config := {}, source := some (.staged (.ofList [])), imports := .standard, attached := none,
        outside := .nothing, surroundings := { millis := 0, seed := 0 } }
    let handle : MethodHandle := ⟨CoreClass.string, "log", .virtual⟩
    let refused : Op Body := .link 7 ⟨19, handle, []⟩
    let corrected : Op Body := .link 7 ⟨CoreClass.console, handle, []⟩
    ∃ start h : Host, setup.build = .ok start ∧ h = { start with registry := declaredFirst } ∧
      refused.apply.apply h
        = (.error (.argument (.alreadyRegistered "Supplier$Lambda")), h) ∧
      h.linkage.isLinked 7 = false ∧
      h.serve [corrected] = ([(corrected, (corrected.apply.apply h).1)],
        (h.serve [refused, corrected]).2) := by
  intro setup handle refused corrected
  let start : Host :=
    { config := {}, heap := .empty, registry := CoreClass.registry, linkage := .empty,
      files := FileTable.empty.enable, source := .staged (.ofList []), imports := .standard,
      attached := none, surroundings := { millis := 0, seed := 0 } }
  obtain ⟨h, hh⟩ : ∃ h : Host, h = { start with registry := declaredFirst } := ⟨_, rfl⟩
  have hfault : (refused.apply.apply h).1
      = .error (.argument (.alreadyRegistered "Supplier$Lambda")) := by
    rw [hh]
    decide +kernel
  have hreply : (corrected.apply.apply h).1
      = .ok (.site ⟨⟨0⟩, CoreClass.console, ⟨handle, []⟩⟩) := by
    rw [hh]
    decide +kernel
  obtain ⟨hatomic, hserve⟩ := failed_requests_leave_no_trace h
  rcases hrefused : refused.apply.apply h with ⟨answer, h'⟩
  rw [hrefused] at hfault
  obtain rfl : answer = _ := hfault
  obtain ⟨rfl, hsite⟩ := hatomic refused _ _ rfl hrefused
  have hkept : kept (h'.serve [refused, corrected]).1
      = [(corrected, (corrected.apply.apply h').1)] := by
    rw [serve_cons, hrefused, serve_cons, hreply]
    rfl
  have hplay := hserve [refused, corrected]
  rw [hkept] at hplay
  exact ⟨start, h', rfl, hh, hrefused, hsite 7 rfl, hplay⟩

end Host

end GuestHost
