import GuestHost.Host.Startup
import GuestHost.Proofs.Effects.Heap
import GuestHost.Proofs.Modes.Equivalence
import GuestHost.Proofs.Registry.Descriptors

/-!
# Instances and their types

Over any run the registry takes steps of its own, so descriptors stay fresh. Objects keep their classes,
and what a class answers for does not change; so whether a value is an instance of a type is settled as
soon as the value is there. The class of an object is registered before the object is made, unless an
instance is made of a factory that the host did not make.

* `Effects.steps` — what a run of effects does to the registry;
* `Host.Operates` — operations and natives one after the other, with factories that the host made;
* `Host.Typed` — the classes of all objects are registered: `Typed.effect`, `Typed.run`;
* `descriptors_stay_fresh` — kept descriptors and instance tests, now and later.
-/

namespace GuestHost

open Relation (ReflTransGen)

/-- A deed other than making an instance. -/
def Deed.MakesNone : Deed → Prop
  | .instantiate _ => False
  | .enableFiles | .replace _ => True

/-- Only one operation makes instances of a factory that it is given. -/
theorem Op.eq_instantiate {op : Op Body} {f : Factory} (hop : op.deed? = some (.instantiate f)) :
    ∃ linking, op = .instantiate f linking := by
  cases op with
  | instantiate f' linking =>
    cases hop
    exact ⟨linking, rfl⟩
  | setHostData v data => cases v <;> cases hop
  | _ => cases hop

/-- The natives that enter guest code. -/
def Builtin.entersGuest : Builtin → Bool
  | .newInstance | .invokeHandle => true
  | _ => false

namespace Host

variable {h h' : Host} {may : Deed → Prop}

/-! ## The registry -/

theorem steps_of_bootstraps {site : SiteId} {f : Factory} (hf : Action.Bootstraps h site f h') :
    ReflTransGen Registry.Step h.registry h'.registry := by
  cases hf with
  | before => exact .refl
  | made hnew himplementing =>
    rcases himplementing with ⟨-, -, rfl⟩ | hadapter
    · exact .refl
    · exact .single (.adapter hadapter)

theorem Effect.steps (heffect : Effect may h h') :
    ReflTransGen Registry.Step h.registry h'.registry := by
  cases heffect with
  | mirror => exact .single (.setMirror _ _)
  | registry hstep => exact .single hstep
  | bootstrap hf => exact steps_of_bootstraps (Action.bootstraps_of_ok hf)
  | link hs =>
    cases Action.links_of_ok hs with
    | before => exact .refl
    | made hnew hf hmade => exact (steps_of_bootstraps hf :)
  | array | object | write | replace | number | files | module | surroundings => exact .refl

/-- **A run of effects** takes the registry from step to step. -/
theorem Effects.steps (heffects : h.Effects may h') :
    ReflTransGen Registry.Step h.registry h'.registry := by
  induction heffects with
  | refl => exact .refl
  | tail _ heffect ih => exact ih.trans heffect.steps

/-! ## Runs of operations -/

theorem acts_tooDeep {α : Type} : Process.Acts may (Process.tooDeep : Process α) := by
  intro h result h' hrun
  cases hrun

/-- One operation, or one native that does not enter guest code. An instance is made of a factory only if
the host made the factory. -/
inductive Operation : Host → Host → Prop
  | op {h : Host} (op : Op Body) (hknows : ∀ f, op.deed? = some (.instantiate f) → h.Knows f) :
    Operation h (op.apply.apply h).2
  | native {h h' : Host} (native : Builtin) (args : List Value) {result : Except Fault Value}
    (hplain : native.entersGuest = false)
    (hrun : (Dispatch.runBuiltin Host.call native args).apply h = some (result, h')) : Operation h h'

/-- Operations and natives, one after the other. -/
def Operates : Host → Host → Prop := ReflTransGen Operation

/-- An operation has its effects; one that makes an instance does so of a factory that is known. -/
theorem Operation.effects (hop : Operation h h') : h.Effects Deed.MakesNone h' := by
  cases hop with
  | op op hknows =>
    by_cases hmakes : ∃ f, op.deed? = some (.instantiate f)
    · obtain ⟨f, hf⟩ := hmakes
      obtain ⟨linking, rfl⟩ := Op.eq_instantiate hf
      apply Action.effects_bind (Action.effects_instantiate (.inl (hknows f hf)) linking)
      intro s h' _
      exact Action.acts_pure _ h'
    · apply op.acts
      intro d hd
      cases d with
      | instantiate f => exact absurd ⟨f, hd⟩ hmakes
      | enableFiles | replace => trivial
  | native native args hplain hrun =>
    -- What calls of guest code would do makes no difference.
    have hsame : Dispatch.runBuiltin (fun _ => Process.tooDeep) native args
        = Dispatch.runBuiltin Host.call native args := by
      cases native with
      | newInstance | invokeHandle => cases hplain
      | _ => rfl
    rw [← hsame] at hrun
    exact Dispatch.acts_runBuiltin (fun _ => acts_tooDeep) native args h _ h' hrun

theorem Operates.effects (hops : h.Operates h') : h.Effects Deed.MakesNone h' := by
  induction hops with
  | refl => exact .refl
  | tail _ hop ih => exact ih.trans hop.effects

end Host

/-! ## Classes of objects -/

/-- The class of an object is one of the first `n`, and so is that of the instances of a factory that
the object carries. -/
def Entry.ClassesBelow (n : Nat) : Entry → Prop
  | .object o => o.cls < n ∧ ∀ f, o.payload = .factory f → f.implementing < n
  | .array _ => True

namespace Entry

variable {e e' : Entry} {n m : Nat}

theorem ClassesBelow.mono (he : e.ClassesBelow n) (hnm : n ≤ m) : e.ClassesBelow m := by
  cases e with
  | object o =>
    obtain ⟨hcls, hfactory⟩ := he
    exact ⟨Nat.lt_of_lt_of_le hcls hnm, fun f hf => Nat.lt_of_lt_of_le (hfactory f hf) hnm⟩
  | array => trivial

theorem ClassesBelow.turns (he : e.ClassesBelow n) (hturns : e.Turns e') : e'.ClassesBelow n := by
  cases hturns with
  | field => exact he
  | text => exact ⟨he.1, nofun⟩
  | element => trivial

end Entry

namespace Host

variable {h h' : Host} {may : Deed → Prop}

/-- A host whose objects are of classes that are registered, and so are the instances of its
factories. -/
structure Typed (h : Host) : Prop where
  registry : h.registry.Sound
  core : CoreClass.document < h.registry.size
  factories : ∀ {site f}, h.linkage.factories.get? site = some f → f.implementing < h.registry.size
  entries : ∀ {r e}, h.heap.get? r = some e → e.ClassesBelow h.registry.size

namespace Typed

theorem of_steps (ht : h.Typed) {registry : Registry Body}
    (hsteps : ReflTransGen Registry.Step h.registry registry) : Typed { h with registry } := by
  have hsize : h.registry.size ≤ registry.size := (Registry.grows_of_run hsteps).size
  exact
    { registry := ht.registry.run hsteps
      core := Nat.lt_of_lt_of_le ht.core hsize
      factories := fun hf => Nat.lt_of_lt_of_le (ht.factories hf) hsize
      entries := fun hr => (ht.entries hr).mono hsize }

theorem alloc (ht : h.Typed) {e : Entry} (he : e.ClassesBelow h.registry.size) :
    Typed { h with heap := (h.heap.alloc e).2 } := by
  refine ⟨ht.registry, ht.core, ht.factories, fun hr => ?_⟩
  rcases Heap.get?_of_alloc hr with hold | rfl
  · exact ht.entries hold
  · exact he

theorem put (ht : h.Typed) {r : Ref} {e : Entry} (he : e.ClassesBelow h.registry.size) :
    Typed { h with heap := h.heap.put r e } := by
  refine ⟨ht.registry, ht.core, ht.factories, fun hr => ?_⟩
  rcases Heap.get?_of_put hr with hold | rfl
  · exact ht.entries hold
  · exact he

theorem lt_size_of_offers (ht : h.Typed) {cls : ClassId} (hcls : h.Offers cls) :
    cls < h.registry.size := by
  rcases hcls with hcls | ⟨⟨kind, target⟩, hadapter⟩
  · exact hcls
  · exact (ht.registry.adapted hadapter).1

theorem lt_size_of_knows (ht : h.Typed) {f : Factory} (hf : h.Knows f) :
    f.implementing < h.registry.size := by
  rcases hf with ⟨site, hf⟩ | ⟨r, o, ho, hf⟩
  · exact ht.factories hf
  · exact (ht.entries ho).2 f hf

/-- What is made is of a class that is registered. -/
theorem makes (ht : h.Typed) {cls : ClassId} {payload : Payload}
    (hmakes : h.Makes Deed.MakesNone cls payload) :
    cls < h.registry.size ∧ ∀ f, payload = .factory f → f.implementing < h.registry.size := by
  have hcore : ∀ {cls}, cls ≤ CoreClass.document → cls < h.registry.size := fun hcls =>
    Nat.lt_of_le_of_lt hcls ht.core
  cases hmakes with
  | plain hcls => exact ⟨ht.lt_size_of_offers hcls, nofun⟩
  | wrapper hcls => exact ⟨ht.lt_size_of_offers hcls, nofun⟩
  | text kind => exact ⟨hcore (by cases kind <;> decide), nofun⟩
  | descriptor | methodHandle | methodType => exact ⟨hcore (by decide), nofun⟩
  | callSite hf | siteTarget hf =>
    refine ⟨hcore (by decide), ?_⟩
    rintro g ⟨⟩
    exact ht.lt_size_of_knows hf
  | lambda hf =>
    refine ⟨?_, nofun⟩
    rcases hf with hknows | hnone
    · exact ht.lt_size_of_knows hknows
    · cases hnone

theorem bootstraps (ht : h.Typed) {site : SiteId} {f : Factory}
    (hf : Action.Bootstraps h site f h') : h'.Typed ∧ f.implementing < h'.registry.size := by
  have hsteps := steps_of_bootstraps hf
  have hregistry := ht.of_steps hsteps
  cases hf with
  | before hf => exact ⟨ht, ht.factories hf⟩
  | @made registry hnew himplementing =>
    have hsize : f.implementing < registry.size := by
      rcases himplementing with ⟨hself, hsize, rfl⟩ | hadapter
      · rw [hself]
        exact hsize
      · exact (hregistry.registry.adapted (Registry.grows_of_adapter hadapter).2).1
    refine ⟨⟨hregistry.registry, hregistry.core, fun {other g} hg => ?_, hregistry.entries⟩, hsize⟩
    rw [Dict.get?_set] at hg
    split at hg
    · cases hg
      exact hsize
    · exact hregistry.factories hg

theorem links (ht : h.Typed) {site : SiteId} {s : CallSite} (hs : Action.Links h site s h') :
    h'.Typed := by
  cases hs with
  | before => exact ht
  | made hnew hf hmade =>
    obtain ⟨ht', hsize⟩ := ht.bootstraps hf
    have halloc := ht'.alloc (e := .object ⟨_, .empty, .lambda s.target⟩) ⟨hsize, nofun⟩
    exact ⟨halloc.registry, halloc.core, halloc.factories, halloc.entries⟩

/-- **One effect** leaves the classes of all objects registered. -/
theorem effect (ht : h.Typed) (heffect : Effect Deed.MakesNone h h') : h'.Typed := by
  cases heffect with
  | array items => exact ht.alloc trivial
  | object hmakes => exact ht.alloc (ht.makes hmakes)
  | @mirror cls hcls =>
    have hclass : CoreClass.classObject < h.registry.size :=
      Nat.lt_of_le_of_lt (by decide) ht.core
    have halloc := ht.alloc (e := .object ⟨_, .empty, .mirror cls⟩) ⟨hclass, nofun⟩
    exact halloc.of_steps (.single (.setMirror cls _))
  | write he hturns => exact ht.put ((ht.entries he).turns hturns)
  | replace hmay ho hold data => exact ht.put ⟨(ht.entries ho).1, nofun⟩
  | registry hstep => exact ht.of_steps (.single hstep)
  | bootstrap hf => exact (ht.bootstraps (Action.bootstraps_of_ok hf)).1
  | link hs => exact ht.links (Action.links_of_ok hs)
  | number | files | module | surroundings =>
    exact ⟨ht.registry, ht.core, ht.factories, ht.entries⟩

/-- **A run of effects** leaves them registered. -/
theorem run (ht : h.Typed) (heffects : h.Effects Deed.MakesNone h') : h'.Typed := by
  induction heffects with
  | refl => exact ht
  | tail _ heffect ih => exact ih.effect heffect

end Typed

/-! ## Instance tests -/

/-- If the value is a reference, it is that of an entry of the heap. -/
def Resolves (h : Host) (v : Value) : Prop := ∀ r, v = .ref r → ∃ e, h.heap.get? r = some e

/-- The class of a value stays the same. -/
theorem classOf_of_grows (hgrows : h.heap.Grows h'.heap) {v : Value} (hv : h.Resolves v) :
    h'.classOf v = h.classOf v := by
  cases v with
  | ref r =>
    obtain ⟨e, he⟩ := hv r rfl
    obtain ⟨e', he', hstays⟩ := hgrows.entries he
    unfold classOf
    cases e with
    | object o =>
      obtain ⟨o', rfl, hcls, -⟩ := hstays.object
      simp only [he, he', hcls]
    | array items =>
      cases e' with
      | object => cases hstays
      | array => simp only [he, he']
  | null | handle | int | long | float | double => rfl

/-- The class of a value is registered. -/
theorem Typed.classOf (ht : h.Typed) {v : Value} {cls : ClassId} (hcls : h.classOf v = .ok cls) :
    cls < h.registry.size := by
  cases v with
  | ref r =>
    unfold Host.classOf at hcls
    cases he : h.heap.get? r with
    | none => simp [he] at hcls
    | some e =>
      cases e with
      | object o =>
        simp only [he] at hcls
        cases hcls
        exact (ht.entries he).1
      | array items =>
        simp only [he] at hcls
        cases hcls
        exact ht.registry.root
  | null | handle | int | long | float | double => cases hcls

/-- The descriptors of a class that was registered list the same types, now and later. -/
theorem supports_of_describe {r r' : Registry Body} (hsound : r.Sound)
    (hsteps : ReflTransGen Registry.Step r r') {cls : ClassId} {made made' : Descriptor}
    {next next' : Registry Body} (hmade : r.describe cls = .ok (made, next))
    (hmade' : r'.describe cls = .ok (made', next')) (type : ClassId) :
    made'.supports type = made.supports type := by
  obtain ⟨hsize, hnow⟩ := hsound.describe (b := type) hmade
  obtain ⟨-, hlater⟩ := (hsound.run hsteps).describe (b := type) hmade'
  rw [Bool.eq_iff_iff, hnow, hlater]
  exact Registry.reaches_iff_of_grows (Registry.grows_of_run hsteps) hsound.down hsize

/-- **Whether a value is an instance of a type** does not change. -/
theorem Typed.instanceOf (ht : h.Typed) (heffects : h.Effects may h') {v : Value} (hv : h.Resolves v)
    (type : ClassId) :
    ((Action.instanceOf v type).apply h').1 = ((Action.instanceOf v type).apply h).1 := by
  have hsame : h'.classOf v = h.classOf v := classOf_of_grows heffects.grows hv
  cases hcls : h.classOf v with
  | error fault =>
    rw [Action.instanceOf_of_error hcls, Action.instanceOf_of_error (hsame.trans hcls)]
  | ok cls =>
    have hsize : cls < h.registry.size := ht.classOf hcls
    have hsize' : cls < h'.registry.size :=
      Nat.lt_of_lt_of_le hsize (Registry.grows_of_run heffects.steps).size
    obtain ⟨made, next, hmade⟩ := Registry.exists_describe hsize
    obtain ⟨made', next', hmade'⟩ := Registry.exists_describe hsize'
    rw [Action.instanceOf_of_class hcls, Action.instanceOf_of_class (hsame.trans hcls), hmade, hmade']
    simp only [supports_of_describe ht.registry heffects.steps hmade hmade' type]

/-! ## What was just built -/

theorem reachable_of_build {s : Setup} (hbuild : s.build = .ok h) : h.registry.Reachable := by
  obtain ⟨source, -, rfl⟩ := exists_of_build hbuild
  have hcore : CoreClass.registry.Reachable :=
    Registry.reachable_foldl (r := .initial) CoreClass.declarations .refl
  exact hcore

theorem typed_of_build {s : Setup} (hbuild : s.build = .ok h) : h.Typed := by
  have hreachable := reachable_of_build hbuild
  obtain ⟨source, -, rfl⟩ := exists_of_build hbuild
  have hcore : CoreClass.document < CoreClass.registry.size := by decide +kernel
  exact
    { registry := hreachable.sound
      core := hcore
      factories := fun hf => by cases hf
      entries := fun hr => by cases hr }

/-! ## Descriptors and instances -/

theorem describe_eq_ok_iff {cls : ClassId} {d : Descriptor} :
    ((Action.describe cls).apply h).1 = .ok d ↔ ∃ next, h.registry.describe cls = .ok (d, next) := by
  unfold Action.describe
  rw [Action.apply_onRegistry]
  cases h.registry.describe cls with
  | error fault => simp
  | ok made =>
    obtain ⟨made, next⟩ := made
    simp

/-- **Descriptors never go stale.** Take a host that was built and then used by operations and natives, in
any order: classes and adapters are registered, values are wrapped, sites are linked, descriptors are
made, static fields are set, and values are allocated. Then let it be used in any way, by guest code too.

A descriptor that is kept has its class for its owner, lists the ancestry of the class and the root class,
and is the one that would be made now. Whoever asks for a descriptor gets the same one then and later.

Whether a value is an instance of a type is the same then and later. -/
theorem descriptors_stay_fresh {s : Setup} {start : Host} (hbuild : s.build = .ok start)
    (hops : start.Operates h) (huses : h.Uses h') :
    (∀ cls record d, h'.registry.get? cls = some record → record.descriptor = some d →
      d.owner = cls ∧ (∀ b, d.supports b = true ↔ b ∈ h'.registry.ancestry cls ∨ b = rootClass) ∧
        d = h'.registry.freshDescriptor cls) ∧
    (∀ cls d, ((Action.describe cls).apply h).1 = .ok d →
      ((Action.describe cls).apply h').1 = .ok d) ∧
    ∀ v type, h.Resolves v →
      ((Action.instanceOf v type).apply h').1 = ((Action.instanceOf v type).apply h).1 := by
  have hreachable : h.registry.Reachable := (reachable_of_build hbuild).trans hops.effects.steps
  have hreachable' : h'.registry.Reachable := hreachable.trans huses.effects.steps
  have hgrows : h.registry.Grows h'.registry := Registry.grows_of_run huses.effects.steps
  refine ⟨fun cls record d hget hd => ?_, fun cls d hd => ?_, fun v type hv => ?_⟩
  · obtain ⟨howner, hlists⟩ := hreachable'.fresh.kept hget hd
    exact ⟨howner, hlists, hreachable'.fresh cls record d hget hd⟩
  · obtain ⟨next, hmade⟩ := describe_eq_ok_iff.1 hd
    obtain ⟨hsize, rfl⟩ := hreachable.fresh.describe hmade
    obtain ⟨d', next', hmade'⟩ := Registry.exists_describe (Nat.lt_of_lt_of_le hsize hgrows.size)
    obtain ⟨-, rfl⟩ := hreachable'.fresh.describe hmade'
    rw [describe_eq_ok_iff,
      ← Registry.freshDescriptor_of_grows hgrows hreachable.sound.down hsize]
    exact ⟨next', hmade'⟩
  · have htyped : h.Typed := (typed_of_build hbuild).run hops.effects
    exact htyped.instanceOf huses.effects hv type

/-- A string and the descriptor of its class, made before the adapter of the console is registered. -/
theorem descriptors_stay_fresh_for_string :
    let setup : Setup :=
      { config := {}, source := some (.staged (.ofList [])), imports := .standard, attached := none,
        outside := .nothing, surroundings := { millis := 0, seed := 0 } }
    let made : Op Body := .newText .string "log"
    let forced : Op Body := .describe CoreClass.string
    let adapted : Op Body := .adapter .lambda CoreClass.console
    ∃ start between h h', setup.build = .ok start ∧ between = (made.apply.apply start).2 ∧
      h = (forced.apply.apply between).2 ∧ h' = (adapted.apply.apply h).2 ∧
      start.Operates h ∧ h.Uses h' ∧ h.registry.size < h'.registry.size ∧
      (∃ record, h'.registry.get? CoreClass.string = some record ∧
        record.descriptor = some (h'.registry.freshDescriptor CoreClass.string)) ∧
      ((Action.instanceOf (.ref ⟨0⟩) rootClass).apply h').1
        = ((Action.instanceOf (.ref ⟨0⟩) rootClass).apply h).1 := by
  intro setup made forced adapted
  let start : Host :=
    { config := {}, heap := .empty, registry := CoreClass.registry, linkage := .empty,
      files := FileTable.empty.enable, source := .staged (.ofList []), imports := .standard,
      attached := none, surroundings := { millis := 0, seed := 0 } }
  let between : Host := (made.apply.apply start).2
  let h : Host := (forced.apply.apply between).2
  let h' : Host := (adapted.apply.apply h).2
  have hops : start.Operates h := .tail (.single (.op made nofun)) (.op forced nofun)
  have huses : h.Uses h' := .single (.op h adapted)
  have hsize : h.registry.size < h'.registry.size := by decide +kernel
  have hheld : h.Resolves (.ref ⟨0⟩) := by
    rintro r ⟨⟩
    exact ⟨.object ⟨CoreClass.string, .empty, .text "log"⟩, by decide +kernel⟩
  have hkept : (h'.registry.get? CoreClass.string).bind (·.descriptor)
      = some ⟨CoreClass.string, [CoreClass.string, rootClass]⟩ := by decide +kernel
  obtain ⟨record, hget, hd⟩ := Option.bind_eq_some_iff.1 hkept
  obtain ⟨hfresh, -, hinstance⟩ := descriptors_stay_fresh (s := setup) rfl hops huses
  obtain ⟨-, -, hnow⟩ := hfresh _ record _ hget hd
  exact ⟨start, between, h, h', rfl, rfl, rfl, rfl, hops, huses, hsize,
    ⟨record, hget, hnow ▸ hd⟩, hinstance _ rootClass hheld⟩

end Host

end GuestHost
