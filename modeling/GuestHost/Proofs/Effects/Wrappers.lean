import GuestHost.Proofs.Effects.Allocation
import GuestHost.Proofs.Effects.Histories
import GuestHost.Proofs.Registry.Adapters

/-!
# Wrappers of host values

A host value that is wrapped as an instance of a type becomes a new object of the heap. It answers for the
type, for what the type reaches, and for nothing else but its own class; for an interface that is the
adapter, which is made for the first wrapper and shared by all others, and otherwise the type itself. The
host value stays behind the wrapper until it is replaced through it.

* `Action.wrap_eq_ok` — what wrapping does: it takes a concrete class, and adds an object of it;
* `Heap.HasWrapper`, `Host.Effects.hasWrapper` — the host value behind a wrapper, over a run;
* `Host.wrappers_stand_in` — all of it, over any history.
-/

namespace GuestHost

open Relation (ReflTransGen)

/-! ## Wrapping -/

namespace Action

variable {h h' : Host} {target : ClassId} {data : HostData} {v : Value}

/-- The adapter that is answered with is that of the registry. -/
theorem adapter_eq_ok {kind : AdapterKind} {cls : ClassId}
    (hcls : (adapter kind target).apply h = (.ok cls, h')) :
    ∃ registry, h.registry.adapter kind target = .ok (cls, registry) ∧ h' = { h with registry } := by
  unfold adapter at hcls
  rw [apply_onRegistry] at hcls
  cases hmade : h.registry.adapter kind target with
  | error fault => simp [hmade] at hcls
  | ok result =>
    obtain ⟨id, registry⟩ := result
    simp only [hmade] at hcls
    cases hcls
    exact ⟨registry, rfl, rfl⟩

/-- **What wrapping does**: it takes the concrete class of the type, and adds an object of it to the heap. -/
theorem wrap_eq_ok (hwrap : (wrap target data).apply h = (.ok v, h')) :
    ∃ cls registry, h.registry.Concrete target cls registry ∧
      v = .ref (h.heap.allocObject cls (.host data)).1 ∧
      h' = { h with registry, heap := (h.heap.allocObject cls (.host data)).2 } := by
  unfold wrap at hwrap
  obtain ⟨record, h₀, hrecord, hwrap⟩ := apply_bind_eq_ok.1 hwrap
  rcases apply_getClassRecord target h with ⟨record', hget, hrecord'⟩ | ⟨fault, hrecord'⟩
  · rw [hrecord'] at hrecord
    cases hrecord
    have hface : h.registry.isInterface? target = some record.isInterface := by
      unfold Registry.isInterface?
      rw [hget]
      rfl
    cases hinterface : record.isInterface with
    | true =>
      rw [hinterface] at hwrap hface
      simp only [if_true] at hwrap
      obtain ⟨cls, h₁, hcls, hwrap⟩ := apply_bind_eq_ok.1 hwrap
      obtain ⟨registry, hmade, rfl⟩ := adapter_eq_ok hcls
      obtain ⟨rfl, rfl⟩ := allocated_eq_ok hwrap
      exact ⟨cls, registry, .adapter hface hmade, rfl, rfl⟩
    | false =>
      rw [hinterface] at hwrap hface
      simp only [Bool.false_eq_true, if_false] at hwrap
      obtain ⟨cls, h₁, hcls, hwrap⟩ := apply_bind_eq_ok.1 hwrap
      cases hcls
      obtain ⟨rfl, rfl⟩ := allocated_eq_ok hwrap
      exact ⟨target, h.registry, .itself hface, rfl, rfl⟩
  · rw [hrecord'] at hrecord
    cases hrecord

end Action

/-! ## What is behind a wrapper -/

namespace Heap

variable {heap : Heap} {w : Ref} {cls : ClassId} {data : HostData}

/-- A reference is that of a wrapper of a class, with a host value behind it. -/
def HasWrapper (heap : Heap) (w : Ref) (cls : ClassId) (data : HostData) : Prop :=
  ∃ fields, heap.get? w = some (.object ⟨cls, fields, .host data⟩)

/-- A wrapper that is added is there, as long as 32-bit references suffice. -/
theorem hasWrapper_allocObject (hroom : (heap.allocObject cls (.host data)).2.size ≤ 2 ^ 32) :
    (heap.allocObject cls (.host data)).2.HasWrapper (heap.allocObject cls (.host data)).1 cls data := by
  have hsize : heap.size + 1 ≤ 2 ^ 32 := by
    rw [← size_alloc]
    exact hroom
  exact ⟨.empty, get?_alloc_self hsize _⟩

/-- What is added leaves wrappers as they are. -/
theorem HasWrapper.alloc (hw : heap.HasWrapper w cls data) (e : Entry) :
    (heap.alloc e).2.HasWrapper w cls data := by
  obtain ⟨fields, hget⟩ := hw
  exact ⟨fields, get?_alloc_of_some hget e⟩

/-- A write leaves the host value behind a wrapper as it is: it may only set a field. -/
theorem HasWrapper.write (hw : heap.HasWrapper w cls data) {r : Ref} {e e' : Entry}
    (he : heap.get? r = some e) (hturns : e.Turns e') : (heap.put r e').HasWrapper w cls data := by
  obtain ⟨fields, hget⟩ := hw
  by_cases heq : r = w
  · subst heq
    obtain rfl : e = .object ⟨cls, fields, .host data⟩ := Option.some.inj (he.symm.trans hget)
    cases hturns with
    | field _ name v => exact ⟨fields.set name v, get?_put_self hget _⟩
    | text htakes => cases htakes
  · exact ⟨fields, (get?_put_of_ne heq e').trans hget⟩

/-- A wrapper stays one of its class, whatever host value comes to be behind it. -/
theorem HasWrapper.of_grows {heap' : Heap} (hw : heap.HasWrapper w cls data)
    (hgrows : heap.Grows heap') : ∃ data', heap'.HasWrapper w cls data' := by
  obtain ⟨fields, hget⟩ := hw
  obtain ⟨e', hget', hstays⟩ := hgrows.entries hget
  obtain ⟨⟨cls', fields', payload⟩, rfl, rfl, data', rfl⟩ := hstays.object
  exact ⟨data', fields', hget'⟩

end Heap

namespace Host

variable {h h' : Host} {w : Ref} {cls : ClassId} {data : HostData}

theorem classOf_of_hasWrapper (hw : h.heap.HasWrapper w cls data) : h.classOf (.ref w) = .ok cls := by
  obtain ⟨fields, hget⟩ := hw
  exact classOf_of_object hget

theorem hostData_of_hasWrapper (hw : h.heap.HasWrapper w cls data) :
    h.hostData (.ref w) = .ok data := by
  obtain ⟨fields, hget⟩ := hw
  have hobject : h.heap.object w = .ok ⟨cls, fields, .host data⟩ := Heap.object_eq_ok.2 hget
  have href : (Value.ref w).expectObject = .ok w := rfl
  unfold hostData
  simp [href, hobject, bind, Except.bind]

/-- **One effect** leaves the host value behind a wrapper as it is, unless it is replaced. -/
theorem Effect.hasWrapper (heffect : Effect (· ≠ .replace w) h h')
    (hw : h.heap.HasWrapper w cls data) : h'.heap.HasWrapper w cls data := by
  cases heffect with
  | array | object | mirror => exact hw.alloc _
  | write he hturns => exact hw.write he hturns
  | @replace r o old hmay ho hold data' =>
    obtain ⟨fields, hget⟩ := hw
    have hne : r ≠ w := by
      rintro rfl
      exact hmay rfl
    exact ⟨fields, (Heap.get?_put_of_ne hne _).trans hget⟩
  | bootstrap hf =>
    cases Action.bootstraps_of_ok hf with
    | before | made => exact hw
  | link hs =>
    cases Action.links_of_ok hs with
    | before => exact hw
    | made hnew hf hmade =>
      cases hf with
      | before | made => exact hw.alloc _
  | registry | number | files | module | surroundings => exact hw

/-- **So does a run of effects.** -/
theorem Effects.hasWrapper (heffects : h.Effects (· ≠ .replace w) h')
    (hw : h.heap.HasWrapper w cls data) : h'.heap.HasWrapper w cls data := by
  induction heffects with
  | refl => exact hw
  | tail _ heffect ih => exact heffect.hasWrapper ih

/-! ## Wrappers over a history -/

/-- A wrapper answers for what its class answers for. -/
theorem instanceOf_iff_of_hasWrapper (hw : h.heap.HasWrapper w cls data) {type : ClassId} :
    ((Action.instanceOf (.ref w) type).apply h).1 = .ok true ↔ h.registry.Supports cls type := by
  obtain ⟨fields, hget⟩ := hw
  exact Action.instanceOf_object_iff hget

/-- An instance test that does not answer with yes answers with no. -/
theorem instanceOf_of_not (v : Value) {type : ClassId}
    (hnot : ¬ ((Action.instanceOf v type).apply h).1 = .ok true) :
    ((Action.instanceOf v type).apply h).1 = .ok false := by
  cases hclass : h.classOf v with
  | error fault => exact Action.instanceOf_of_error hclass type
  | ok cls =>
    rw [Action.instanceOf_of_class hclass] at hnot ⊢
    cases hmade : h.registry.describe cls with
    | error fault => rfl
    | ok result =>
      obtain ⟨made, registry⟩ := result
      simp only [hmade, Except.ok.injEq, Bool.not_eq_true] at hnot ⊢
      exact hnot

/-- What a wrapper of a type, of a given class, answers for: the type and the root class, and nothing that
the type does not reach but for the class itself. -/
structure AnswersFor (h : Host) (w : Ref) (target cls : ClassId) : Prop where
  classOf : h.classOf (.ref w) = .ok cls
  type : ((Action.instanceOf (.ref w) target).apply h).1 = .ok true
  root : ((Action.instanceOf (.ref w) rootClass).apply h).1 = .ok true
  others : ∀ type, type ∉ h.registry.ancestry target → type ≠ rootClass → type ≠ cls →
    ((Action.instanceOf (.ref w) type).apply h).1 = .ok false

theorem answersFor_of_standsIn {target : ClassId} (hw : h.heap.HasWrapper w cls data)
    (hstands : h.registry.StandsIn cls target) : h.AnswersFor w target cls where
  classOf := classOf_of_hasWrapper hw
  type := (instanceOf_iff_of_hasWrapper hw).2 hstands.type
  root := (instanceOf_iff_of_hasWrapper hw).2 hstands.root
  others type hancestry hroot hself := by
    apply instanceOf_of_not
    intro hyes
    rcases hstands.only type ((instanceOf_iff_of_hasWrapper hw).1 hyes) with hmem | heq | heq
    · exact hancestry hmem
    · exact hroot heq
    · exact hself heq

/-- The class of the wrappers of an interface, from now on: all of them have it, it is no interface, and it is
the adapter of no other kind and of no other interface. -/
structure SharesAdapter (h : Host) (target cls : ClassId) : Prop where
  concrete : ∀ h', h.History (fun _ => True) h' → h'.registry.isInterface? cls = some false
  shared : ∀ h' next data v, h.History (fun _ => True) h' →
    (Action.wrap target data).apply h' = (.ok v, next) → next.heap.size ≤ 2 ^ 32 →
    next.classOf v = .ok cls
  apart : ∀ h' next kind type id, h.History (fun _ => True) h' →
    (Action.adapter kind type).apply h' = (.ok id, next) → (kind, type) ≠ (.wrapper, target) → id ≠ cls

theorem sharesAdapter_of_get? (hreachable : h.registry.Reachable) {target : ClassId}
    (hface : h.registry.isInterface? target = some true)
    (hmade : h.registry.adapters.get? (.wrapper, target) = some cls) : h.SharesAdapter target cls := by
  have hlater : ∀ {h'}, h.History (fun _ => True) h' →
      h'.registry.Reachable ∧ h'.registry.adapters.get? (.wrapper, target) = some cls := by
    intro h' hhistory
    have hsteps := hhistory.effects.steps
    exact ⟨hreachable.trans hsteps, (Registry.grows_of_run hsteps).adapters hmade⟩
  refine ⟨fun h' hhistory => ?_, fun h' next data v hhistory hwrap hroom => ?_,
    fun h' next kind type id hhistory hadapter hne heq => ?_⟩
  · obtain ⟨hreachable', hmade'⟩ := hlater hhistory
    exact hreachable'.isInterface?_of_adapter hmade'
  · obtain ⟨-, hmade'⟩ := hlater hhistory
    obtain ⟨record, hget, -⟩ := Registry.exists_get?_of_isInterface? hface
    have hface' : h'.registry.isInterface? target = some true :=
      (Registry.isInterface?_of_run hhistory.effects.steps (Registry.lt_size_iff.2 ⟨record, hget⟩)).trans
        hface
    obtain ⟨cls', registry, hconcrete, rfl, rfl⟩ := Action.wrap_eq_ok hwrap
    have hcls : cls' = cls := by
      cases hconcrete with
      | itself hnot =>
        rw [hface'] at hnot
        cases hnot
      | adapter _ hadapter =>
        have hsame := (Registry.grows_of_adapter hadapter).2
        have hkept := (Registry.grows_of_adapter hadapter).1.adapters hmade'
        exact Option.some.inj (hsame.symm.trans hkept)
    exact hcls ▸ classOf_of_hasWrapper (Heap.hasWrapper_allocObject hroom)
  · obtain ⟨hreachable', hmade'⟩ := hlater hhistory
    obtain ⟨registry, hanswer, rfl⟩ := Action.adapter_eq_ok hadapter
    obtain ⟨hgrows, hother⟩ := Registry.grows_of_adapter hanswer
    have hreachable'' : registry.Reachable := hreachable'.tail (.adapter hanswer)
    exact hne (hreachable''.wellFormed.distinct _ _ _ hother (heq ▸ hgrows.adapters hmade'))

/-- **Wrappers stand in for host values.** Take a host that was built, after any history, in the midst of guest
code too, and suppose that a host value is wrapped as an instance of a type. Then there is a new reference,
as long as 32-bit references suffice, and every entry that the heap had is as it was.

After any further history, the host value is behind the reference unless it was replaced through it, and the
reference is an instance of the type and of the root class; of other types it is one only if the type
reaches them or if they are its own class.

The class of a wrapper of an interface is the same for all wrappers of the interface, is no interface, and
is not the adapter of a lambda or of any other interface. The class of any other wrapper is the type
itself. -/
theorem wrappers_stand_in {s : Setup} {start : Host} (hbuild : s.build = .ok start)
    (hpast : start.History (fun _ => True) h) {target : ClassId} {v : Value}
    (hwrap : (Action.wrap target data).apply h = (.ok v, h')) (hroom : h'.heap.size ≤ 2 ^ 32) :
    ∃ w cls, v = .ref w ∧ h.heap.IsNew h'.heap w ∧
      (∀ r e, h.heap.get? r = some e → h'.heap.get? r = some e) ∧
      (∀ later, h'.History (· ≠ .replace w) later → later.hostData (.ref w) = .ok data) ∧
      (∀ later, h'.History (fun _ => True) later → later.AnswersFor w target cls) ∧
      (h.registry.isInterface? target = some true ∧ h'.SharesAdapter target cls ∨
        h.registry.isInterface? target = some false ∧ cls = target) := by
  obtain ⟨cls, registry, hconcrete, rfl, rfl⟩ := Action.wrap_eq_ok hwrap
  have hreachable : registry.Reachable :=
    ((reachable_of_build hbuild).trans hpast.effects.steps).trans hconcrete.steps
  have hwrapper := Heap.hasWrapper_allocObject hroom
  refine ⟨_, cls, rfl, Heap.isNew_alloc hroom, fun r e hr => Heap.get?_alloc_of_some hr _,
    fun later hlater => ?_, fun later hlater => ?_, ?_⟩
  · exact hostData_of_hasWrapper (hlater.effects.hasWrapper hwrapper)
  · have hsteps : ReflTransGen Registry.Step registry later.registry := hlater.effects.steps
    obtain ⟨data', hwrapper'⟩ := hwrapper.of_grows hlater.effects.grows
    exact answersFor_of_standsIn hwrapper'
      (hconcrete.standsIn (Registry.grows_of_run hsteps) (hreachable.sound.run hsteps))
  · cases hconcrete with
    | itself hface => exact .inr ⟨hface, rfl⟩
    | adapter hface hmade =>
      have hsize := Registry.Concrete.lt_size (.adapter hface hmade)
      have hface' : registry.isInterface? target = some true :=
        (Registry.isInterface?_of_run (.single (.adapter hmade)) hsize).trans hface
      exact .inl ⟨hface, sharesAdapter_of_get? hreachable hface' (Registry.grows_of_adapter hmade).2⟩

/-- The console, wrapped for its interface after a string was made. -/
theorem wrappers_stand_in_for_console :
    let setup : Setup :=
      { config := {}, source := some (.staged (.ofList [])), imports := .standard, attached := none,
        outside := .nothing, surroundings := { millis := 0, seed := 0 } }
    let made : Op Body := .newText .string "log"
    ∃ start h h' : Host, setup.build = .ok start ∧ h = (made.apply.apply start).2 ∧
      (Action.wrap CoreClass.console .console).apply h = (.ok (.ref ⟨1⟩), h') ∧
      ∃ cls, h'.AnswersFor ⟨1⟩ CoreClass.console cls ∧ h'.SharesAdapter CoreClass.console cls := by
  intro setup made
  let start : Host :=
    { config := {}, heap := .empty, registry := CoreClass.registry, linkage := .empty,
      files := FileTable.empty.enable, source := .staged (.ofList []), imports := .standard,
      attached := none, surroundings := { millis := 0, seed := 0 } }
  obtain ⟨h, hh, hface, hwrap, hroom⟩ : ∃ h : Host, h = (made.apply.apply start).2 ∧
      h.registry.isInterface? CoreClass.console = some true ∧
      ((Action.wrap CoreClass.console .console).apply h).1 = .ok (.ref ⟨1⟩) ∧
      ((Action.wrap CoreClass.console .console).apply h).2.heap.size ≤ 2 ^ 32 :=
    ⟨_, rfl, by decide +kernel, by decide +kernel, by decide +kernel⟩
  have hpast : start.History (fun _ => True) h := hh ▸ history_of_use (.op start made)
  obtain ⟨w, cls, hw, -, -, -, hstands, hclass⟩ :=
    wrappers_stand_in (s := setup) rfl hpast (Action.apply_eq_of_ok hwrap) hroom
  cases hw
  refine ⟨start, h, _, rfl, hh, Action.apply_eq_of_ok hwrap, cls, hstands _ .refl, ?_⟩
  rcases hclass with ⟨-, hshared⟩ | ⟨hnot, -⟩
  · exact hshared
  · rw [hface] at hnot
    cases hnot

end Host

end GuestHost
