import GuestHost.Proofs.Dispatch.Listings
import GuestHost.Proofs.Effects.Heap
import GuestHost.Proofs.Linkage.Atomicity
import GuestHost.Proofs.Registry.Overriding

/-!
# Which initializer a new instance gets

A new instance is made for a class that is neither an interface nor abstract, and its initializer without
arguments is looked up like any other method. So a class that declares none is not refused if something
above it declares one: the new instance is then run through the initializer of another class.

* `Instantiable`, `OwnsInitializer`, `BorrowsInitializer` — what a class may have to do with an initializer;
* `refused_of_not_instantiable`, `refused_of_none`, `initialized_of_found` — what a request for a new instance
  does, in each case;
* `not_refused_of_initialized` — the two answers exclude each other, since the heap only grows;
* `instances_need_initializer_iff` — the classes for which only their own initializer counts.
-/

namespace GuestHost.Dispatch

open GuestHost.Action (allocate)

variable {call : Caller} {h : Host} {cls : ClassId} {record : ClassRecord Body} {init : Method Body}

/-! ## Classes and initializers -/

/-- The class is neither an interface nor abstract. -/
def Instantiable (h : Host) (cls : ClassId) : Prop :=
  ∃ record, h.registry.get? cls = some record ∧ record.isInterface = false ∧ record.isAbstract = false

/-- The class itself declares an initializer without arguments. -/
def OwnsInitializer (h : Host) (cls : ClassId) : Prop :=
  ∃ init, h.registry.Defines cls Signature.defaultInitializer .onInstance init

/-- The class may have instances and declares no initializer without arguments, but something that it
extends or implements does. -/
structure BorrowsInitializer (h : Host) (cls : ClassId) : Prop where
  instantiable : Instantiable h cls
  lacks : ¬ OwnsInitializer h cls
  above : ∃ d ∈ h.registry.ancestry cls, OwnsInitializer h d

theorem instantiable_iff (hcls : h.registry.get? cls = some record) :
    Instantiable h cls ↔ record.isInterface = false ∧ record.isAbstract = false := by
  unfold Instantiable
  simp [hcls]

/-- The initializer that is looked up for a class is that of something on its ancestry. -/
theorem exists_findMethod?_iff :
    (∃ init, h.registry.findMethod? cls Signature.defaultInitializer .onInstance = some init) ↔
      ∃ d ∈ h.registry.ancestry cls, OwnsInitializer h d := by
  rw [← Option.isSome_iff_exists, Option.isSome_iff_ne_none, ne_eq, Registry.findMethod?_eq_none_iff]
  unfold OwnsInitializer
  simp only [not_forall, not_not, exists_prop]

/-! ## Requests for a new instance -/

/-- A request for a new instance that is refused: it meets a fault, and nothing is changed. -/
def Refused (call : Caller) (h : Host) (cls : ClassId) (why : NoInstance) : Prop :=
  ∃ record, h.registry.get? cls = some record ∧
    (step call (.newInstance cls)).apply h = some (.error (.instantiation record.name why), h)

/-- A request for a new instance that is granted: the instance is allocated, its initializer runs, and the
instance is the answer. -/
def Initialized (call : Caller) (h : Host) (cls : ClassId) (init : Method Body) : Prop :=
  ∃ v h', (allocate cls).apply h = (.ok v, h') ∧ h'.heap.size = h.heap.size + 1 ∧
    (step call (.newInstance cls)).apply h
      = (runProgram call (init.body [v]) >>= fun _ => pure v).apply h'

theorem makeInstance_of_error {fault : Fault} (hinit : initializer h cls = .error fault) :
    (step call (.newInstance cls)).apply h = some (.error fault, h) := by
  show (makeInstance call cls).apply h = _
  unfold makeInstance
  rw [Process.apply_bind, Process.apply_toProcess, Action.apply_view, hinit]

theorem makeInstance_of_ok {v : Value} {h' : Host} (hinit : initializer h cls = .ok init)
    (hv : (allocate cls).apply h = (.ok v, h')) :
    (step call (.newInstance cls)).apply h
      = (runProgram call (init.body [v]) >>= fun _ => pure v).apply h' := by
  show (makeInstance call cls).apply h = _
  unfold makeInstance
  have hinit' : (Action.view fun h => initializer h cls).toProcess.apply h = some (.ok init, h) :=
    congrArg some (Action.apply_view_of_ok hinit)
  have hv' : (allocate cls).toProcess.apply h = some (.ok v, h') := congrArg some hv
  rw [Process.apply_bind_of_ok hinit', Process.apply_bind_of_ok hv']

/-- An interface and an abstract class have no new instances. -/
theorem refused_of_not_instantiable (hcls : h.registry.get? cls = some record)
    (hnot : ¬ Instantiable h cls) : Refused call h cls .abstract := by
  have hbits : (record.isInterface || record.isAbstract) = true := by
    rw [instantiable_iff hcls] at hnot
    cases hface : record.isInterface <;> simp_all
  refine ⟨record, hcls, makeInstance_of_error ?_⟩
  unfold initializer Registry.get
  rw [hcls]
  show (if (record.isInterface || record.isAbstract) = true then _ else _) = _
  rw [if_pos hbits]

theorem initializer_of_instantiable (hcls : h.registry.get? cls = some record)
    (hmay : Instantiable h cls) : initializer h cls
      = match h.registry.findMethod? cls Signature.defaultInitializer .onInstance with
        | some m => .ok m
        | none => .error (.instantiation record.name .noInitializer) := by
  obtain ⟨hface, habstract⟩ := (instantiable_iff hcls).1 hmay
  unfold initializer Registry.get
  rw [hcls]
  show (if (record.isInterface || record.isAbstract) = true then _ else _) = _
  rw [hface, habstract]
  rfl

/-- Neither has a class for which no initializer is found. -/
theorem refused_of_none (hcls : h.registry.get? cls = some record) (hmay : Instantiable h cls)
    (hnone : ¬ ∃ d ∈ h.registry.ancestry cls, OwnsInitializer h d) :
    Refused call h cls .noInitializer := by
  rw [← exists_findMethod?_iff, not_exists] at hnone
  refine ⟨record, hcls, makeInstance_of_error ?_⟩
  rw [initializer_of_instantiable hcls hmay, Option.eq_none_iff_forall_ne_some.2 hnone]

/-- The allocation of an instance of a registered class adds one entry to the heap. -/
theorem exists_allocate (hcls : h.registry.get? cls = some record) :
    ∃ v h', (allocate cls).apply h = (.ok v, h') ∧ h'.heap.size = h.heap.size + 1 := by
  have hget : h.registry.get cls = .ok record := by
    unfold Registry.get
    rw [hcls]
  let made := h.heap.allocObject cls .empty
  refine ⟨.ref made.1, { h with heap := made.2 }, ?_, Heap.size_alloc _⟩
  unfold allocate Action.getClassRecord
  rw [Action.apply_bind_of_ok (Action.apply_view_of_ok hget)]
  rfl

/-- Every other class has new instances, with the initializer that is found. -/
theorem initialized_of_found (hcls : h.registry.get? cls = some record) (hmay : Instantiable h cls)
    (hinit : h.registry.findMethod? cls Signature.defaultInitializer .onInstance = some init) :
    Initialized call h cls init := by
  obtain ⟨v, h', hv, hsize⟩ := exists_allocate hcls
  refine ⟨v, h', hv, hsize, makeInstance_of_ok ?_ hv⟩
  rw [initializer_of_instantiable hcls hmay, hinit]

/-- What is initialized is not refused: the instance stays in the heap, whatever the initializer does. -/
theorem not_refused_of_initialized (hcall : ∀ c, Process.Acts (fun _ => True) (call c))
    (hmade : Initialized call h cls init) (why : NoInstance) : ¬ Refused call h cls why := by
  rintro ⟨record, -, hrefused⟩
  obtain ⟨v, h', -, hsize, hrun⟩ := hmade
  have hacts : Process.Acts (fun _ => True) (runProgram call (init.body [v]) >>= fun _ => pure v) :=
    (acts_runProgram (fun _ => trivial) hcall _).bind fun _ => Process.acts_pure v
  have hgrows : h'.heap.Grows h.heap := (hacts h' _ h (hrun.symm.trans hrefused)).grows
  have hle : h'.heap.size ≤ h.heap.size := hgrows.size
  omega

/-! ## Class objects -/

/-- The native of class objects asks for a new instance of the class that its receiver stands for. -/
theorem newInstance_of_mirror {mirror : Value} {rest : List Value}
    (hmirror : h.mirroredClass mirror = .ok cls) :
    (runBuiltin call .newInstance (mirror :: rest)).apply h = (call (.newInstance cls)).apply h := by
  have hget : (outcome (Args.get (mirror :: rest) 0)).apply h = some (.ok mirror, h) := rfl
  have hview : ((Action.view fun h => h.mirroredClass mirror).toProcess).apply h
      = some (.ok cls, h) := by
    rw [Process.apply_toProcess, Action.apply_view, hmirror]
  show (runNewInstance call (mirror :: rest)).apply h = _
  unfold runNewInstance
  rw [Process.apply_bind_of_ok hget, Process.apply_bind_of_ok hview]

theorem find?_newInstance :
    Imports.standard.find? "java.lang.Class" "Ljava$lang$Object$$newInstance$$"
      = some ⟨.onInstance, .builtin .newInstance⟩ :=
  Builtin.find?_of_mem_listings (by simp [Builtin.listings, Builtin.reflectionListings, Builtin.of])

/-! ## Which initializer counts -/

/-- Only its own initializer counts for a class: unless the class may have instances and has one, a new
instance is refused. -/
def NeedsOwnInitializer (call : Caller) (h : Host) (cls : ClassId) : Prop :=
  ¬ (Instantiable h cls ∧ OwnsInitializer h cls) → ∃ why, Refused call h cls why

theorem needsOwnInitializer_iff (hcall : ∀ c, Process.Acts (fun _ => True) (call c))
    (hcls : h.registry.get? cls = some record) :
    NeedsOwnInitializer call h cls ↔ ¬ BorrowsInitializer h cls := by
  constructor
  · intro hneeds hborrows
    obtain ⟨why, hrefused⟩ := hneeds fun howns => hborrows.lacks howns.2
    obtain ⟨init, hinit⟩ := exists_findMethod?_iff.2 hborrows.above
    exact not_refused_of_initialized hcall
      (initialized_of_found hcls hborrows.instantiable hinit) why hrefused
  · intro hnot hlacks
    by_cases hmay : Instantiable h cls
    · have howns : ¬ OwnsInitializer h cls := fun howns => hlacks ⟨hmay, howns⟩
      exact ⟨_, refused_of_none hcls hmay fun habove => hnot ⟨hmay, howns, habove⟩⟩
    · exact ⟨_, refused_of_not_instantiable hcls hmay⟩

/-- **Which classes have new instances.** An interface and an abstract class are refused, and so is a class
with no initializer without arguments on its ancestry; nothing changes then. Any other class has new
instances, with its own initializer if it has one, and with one from its ancestry if it has none. So only
its own initializer counts for a class exactly if it is not the case that the class may have instances and
has no initializer without arguments, while something that it extends or implements has one. The native of
class objects does just the same. -/
theorem instances_need_initializer_iff (h : Host) (depth : Nat) {cls : ClassId}
    {record : ClassRecord Body} (hcls : h.registry.get? cls = some record) :
    (¬ Instantiable h cls → Refused (enter depth) h cls .abstract) ∧
    (Instantiable h cls → (¬ ∃ d ∈ h.registry.ancestry cls, OwnsInitializer h d) →
      Refused (enter depth) h cls .noInitializer) ∧
    (Instantiable h cls → ∀ init,
      h.registry.Defines cls Signature.defaultInitializer .onInstance init →
        Initialized (enter depth) h cls init) ∧
    (BorrowsInitializer h cls → ∃ init,
      h.registry.findMethod? cls Signature.defaultInitializer .onInstance = some init ∧
        Initialized (enter depth) h cls init) ∧
    (NeedsOwnInitializer (enter depth) h cls ↔ ¬ BorrowsInitializer h cls) ∧
    Imports.standard.find? "java.lang.Class" "Ljava$lang$Object$$newInstance$$"
      = some ⟨.onInstance, .builtin .newInstance⟩ ∧
    ∀ mirror rest, h.mirroredClass mirror = .ok cls →
      (runBuiltin (enter (depth + 1)) .newInstance (mirror :: rest)).apply h
        = (step (enter depth) (.newInstance cls)).apply h := by
  refine ⟨refused_of_not_instantiable hcls, refused_of_none hcls, fun hmay init hinit => ?_,
    fun hborrows => ?_, needsOwnInitializer_iff (acts_enter (fun _ => trivial) depth) hcls,
    find?_newInstance, fun mirror rest hmirror => newInstance_of_mirror hmirror⟩
  · exact initialized_of_found hcls hmay (Registry.findMethod?_of_defines hinit)
  · obtain ⟨init, hinit⟩ := exists_findMethod?_iff.2 hborrows.above
    exact ⟨init, hinit, initialized_of_found hcls hborrows.instantiable hinit⟩

/-- A class with an initializer without arguments. -/
def base : Declaration Body where
  name := "Base"
  methods := [(Signature.defaultInitializer, ⟨.onInstance, fun _ => .done (.ok .null)⟩)]

/-- A class that extends it, and whose initializer has an argument. -/
def needsArgument : Declaration Body where
  name := "NeedsArgument"
  superclass := some 19
  methods := [("V$$init$$I", ⟨.onInstance, fun _ => .done (.ok .null)⟩)]

/-- The host's own classes and both of these. -/
def baseAndBelow : Registry Body := CoreClass.registry.run [.register base, .register needsArgument]

theorem reachable_baseAndBelow : baseAndBelow.Reachable := Host.reachable_core.run _

theorem ownsInitializer_iff : OwnsInitializer h cls ↔
    ((h.registry.get? cls).bind fun record =>
      record.method? Signature.defaultInitializer .onInstance).isSome = true := by
  unfold OwnsInitializer
  simp only [Registry.defines_iff, Option.isSome_iff_exists]

theorem extends_base (hregistry : h.registry = baseAndBelow) : h.registry.Extends 20 19 := by
  have hsuper : baseAndBelow.superclass? 20 = some 19 := by decide +kernel
  rw [hregistry]
  exact hsuper

theorem baseAndBelow_classes (hregistry : h.registry = baseAndBelow) :
    Instantiable h 19 ∧ OwnsInitializer h 19 ∧ BorrowsInitializer h 20 := by
  have hbits : ∀ cls, cls = 19 ∨ cls = 20 → (baseAndBelow.get? cls).map
      (fun record => (record.isInterface, record.isAbstract)) = some (false, false) := by
    rintro cls (rfl | rfl) <;> decide +kernel
  have hmay : ∀ cls, cls = 19 ∨ cls = 20 → Instantiable h cls := by
    intro cls hcls
    obtain ⟨record, hrecord, hnone⟩ := Option.map_eq_some_iff.1 (hbits cls hcls)
    obtain ⟨hface, habstract⟩ := Prod.mk.inj hnone
    exact ⟨record, hregistry ▸ hrecord, hface, habstract⟩
  have howns : OwnsInitializer h 19 := by
    rw [ownsInitializer_iff, hregistry]
    decide +kernel
  have hlacks : ¬ OwnsInitializer h 20 := by
    rw [ownsInitializer_iff, hregistry]
    decide +kernel
  exact ⟨hmay 19 (.inl rfl), howns, hmay 20 (.inr rfl), hlacks, 19,
    Registry.mem_ancestry_of_extends (.single (extends_base hregistry)), howns⟩

theorem instances_need_initializer_for_base :
    let setup : Setup :=
      { config := {}, source := some (.staged (.ofList [])), imports := .standard, attached := none,
        outside := .nothing, surroundings := { millis := 0, seed := 0 } }
    ∃ start h : Host, setup.build = .ok start ∧ h = { start with registry := baseAndBelow } ∧
      h.registry.Reachable ∧ (∃ record, h.registry.get? 19 = some record) ∧
      (∃ init, Initialized (enter 9999) h 19 init) ∧ NeedsOwnInitializer (enter 9999) h 19 := by
  intro setup
  let start : Host :=
    { config := {}, heap := .empty, registry := CoreClass.registry, linkage := .empty,
      files := FileTable.empty.enable, source := .staged (.ofList []), imports := .standard,
      attached := none, surroundings := { millis := 0, seed := 0 } }
  obtain ⟨h, hh⟩ : ∃ h : Host, h = { start with registry := baseAndBelow } := ⟨_, rfl⟩
  have hregistry : h.registry = baseAndBelow := by rw [hh]
  have hreachable : h.registry.Reachable := hregistry ▸ reachable_baseAndBelow
  obtain ⟨hmay, ⟨init, hinit⟩, -⟩ := baseAndBelow_classes hregistry
  have ⟨record, hrecord, _⟩ := hmay
  obtain ⟨-, -, hmade, -, hneeds, -⟩ := instances_need_initializer_iff h 9999 hrecord
  exact ⟨start, h, rfl, hh, hreachable, ⟨record, hrecord⟩, ⟨init, hmade hmay init hinit⟩,
    hneeds.2 fun hborrows => hborrows.lacks ⟨init, hinit⟩⟩

/-- The class below has new instances, although its own initializer needs an argument: they are run
through the initializer of the class above. -/
theorem inherited_initializer_runs :
    let setup : Setup :=
      { config := {}, source := some (.staged (.ofList [])), imports := .standard, attached := none,
        outside := .nothing, surroundings := { millis := 0, seed := 0 } }
    ∃ start h : Host, setup.build = .ok start ∧ h = { start with registry := baseAndBelow } ∧
      h.registry.Reachable ∧ ¬ OwnsInitializer h 20 ∧
      (∃ init, h.registry.Defines 19 Signature.defaultInitializer .onInstance init ∧
        Initialized (enter 9999) h 20 init) ∧
      ∀ why, ¬ Refused (enter 9999) h 20 why := by
  intro setup
  let start : Host :=
    { config := {}, heap := .empty, registry := CoreClass.registry, linkage := .empty,
      files := FileTable.empty.enable, source := .staged (.ofList []), imports := .standard,
      attached := none, surroundings := { millis := 0, seed := 0 } }
  obtain ⟨h, hh⟩ : ∃ h : Host, h = { start with registry := baseAndBelow } := ⟨_, rfl⟩
  have hregistry : h.registry = baseAndBelow := by rw [hh]
  have hreachable : h.registry.Reachable := hregistry ▸ reachable_baseAndBelow
  obtain ⟨-, ⟨init, hinit⟩, hborrows⟩ := baseAndBelow_classes hregistry
  have hnearest : h.registry.Nearest 20 19 Signature.defaultInitializer .onInstance init :=
    (hreachable.sound.down.nearest_self hinit).head (extends_base hregistry)
      (not_exists.1 hborrows.lacks)
  obtain ⟨record, hrecord, -⟩ := hborrows.instantiable
  have hmade : Initialized (enter 9999) h 20 init :=
    initialized_of_found hrecord hborrows.instantiable
      (hreachable.sound.down.findMethod?_of_nearest hnearest)
  exact ⟨start, h, rfl, hh, hreachable, hborrows.lacks, ⟨init, hinit, hmade⟩,
    not_refused_of_initialized (acts_enter (fun _ => trivial) 9999) hmade⟩

end GuestHost.Dispatch
