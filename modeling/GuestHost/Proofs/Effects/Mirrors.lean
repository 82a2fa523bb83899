import GuestHost.Proofs.Effects.Instances

/-!
# Class objects

The registry remembers the class object of a class, and the class object says what class it stands for.
The one is made together with the other, and nothing that runs on a host tears them apart: what the
registry remembers is not forgotten, and the payload of a class object does not change.

* `Host.Mirrored` — remembered class objects stand for their classes: `Mirrored.effect`, `Mirrored.run`;
* `Host.Shows` — the ways to ask for the class object of a class;
* `Host.class_objects_identify_classes` — one class object for each class, at all times.
-/

namespace GuestHost

open Relation (ReflTransGen)

namespace Host

variable {h h' : Host} {may : Deed → Prop} {cls cls' : ClassId} {r : Ref}

/-! ## What the registry remembers -/

theorem mirror?_of_bootstraps {site : SiteId} {f : Factory} (hf : Action.Bootstraps h site f h')
    (cls : ClassId) : h'.registry.mirror? cls = h.registry.mirror? cls := by
  cases hf with
  | before => rfl
  | made hnew himplementing =>
    rcases himplementing with ⟨-, -, rfl⟩ | hadapter
    · rfl
    · exact Registry.mirror?_adapter hadapter cls

theorem mirror?_of_links {site : SiteId} {s : CallSite} (hs : Action.Links h site s h')
    (cls : ClassId) : h'.registry.mirror? cls = h.registry.mirror? cls := by
  cases hs with
  | before => rfl
  | made hnew hf hmade => exact mirror?_of_bootstraps hf cls

/-- **What one effect does to the class objects**: it makes one for a class that has none, or it makes
none. -/
theorem Effect.mirrors (heffect : Effect may h h') :
    (∀ cls, h'.registry.mirror? cls = h.registry.mirror? cls) ∨
      ∃ cls, cls < h.registry.size ∧ h.registry.mirror? cls = none ∧ h' = h.withMirror cls := by
  cases heffect with
  | mirror hcls hnew => exact .inr ⟨_, hcls, hnew, rfl⟩
  | registry hstep hmirrors => exact .inl hmirrors
  | bootstrap hf => exact .inl (mirror?_of_bootstraps (Action.bootstraps_of_ok hf))
  | link hs => exact .inl (mirror?_of_links (Action.links_of_ok hs))
  | array | object | write | replace | number | files | module | surroundings =>
    exact .inl fun _ => rfl

/-- The reference of the class object that would be made now. -/
def nextMirror (h : Host) (cls : ClassId) : Ref :=
  (h.heap.allocObject CoreClass.classObject (.mirror cls)).1

theorem mirror?_withMirror_self (hcls : cls < h.registry.size) :
    (h.withMirror cls).registry.mirror? cls = some (h.nextMirror cls) := by
  obtain ⟨c, hc⟩ := Registry.lt_size_iff.1 hcls
  show (h.registry.update cls fun c => { c with mirror := some (h.nextMirror cls) }).mirror? cls = _
  unfold Registry.mirror?
  rw [Registry.get?_update, hc]
  simp

theorem mirror?_withMirror_of_ne (hne : cls ≠ cls') :
    (h.withMirror cls).registry.mirror? cls' = h.registry.mirror? cls' := by
  show (h.registry.update cls fun c => { c with mirror := some (h.nextMirror cls) }).mirror? cls' = _
  unfold Registry.mirror?
  rw [Registry.get?_update, if_neg hne]

/-- A class object is not forgotten. -/
theorem Effect.keeps_mirror (heffect : Effect may h h') (hr : h.registry.mirror? cls = some r) :
    h'.registry.mirror? cls = some r := by
  rcases heffect.mirrors with hsame | ⟨made, -, hnew, rfl⟩
  · rw [hsame, hr]
  · have hne : made ≠ cls := by
      rintro rfl
      rw [hnew] at hr
      cases hr
    rw [mirror?_withMirror_of_ne hne, hr]

theorem Effects.keeps_mirror (heffects : h.Effects may h') (hr : h.registry.mirror? cls = some r) :
    h'.registry.mirror? cls = some r := by
  induction heffects with
  | refl => exact hr
  | tail _ heffect ih => exact heffect.keeps_mirror ih

/-! ## What class objects stand for -/

/-- The object behind a reference is the class object of a class. -/
def StandsFor (h : Host) (r : Ref) (cls : ClassId) : Prop :=
  ∃ o, h.heap.get? r = some (.object o) ∧ o.cls = CoreClass.classObject ∧ o.payload = .mirror cls

/-- A host whose remembered class objects stand for their classes. -/
def Mirrored (h : Host) : Prop := ∀ cls r, h.registry.mirror? cls = some r → h.StandsFor r cls

/-- A class object stands for one class. -/
theorem StandsFor.unique (hr : h.StandsFor r cls) (hr' : h.StandsFor r cls') : cls = cls' := by
  obtain ⟨o, ho, -, hpayload⟩ := hr
  obtain ⟨o', ho', -, hpayload'⟩ := hr'
  rw [ho] at ho'
  cases ho'
  rw [hpayload] at hpayload'
  cases hpayload'
  rfl

/-- It goes on to stand for that class. -/
theorem StandsFor.grows (hr : h.StandsFor r cls) (hgrows : h.heap.Grows h'.heap) :
    h'.StandsFor r cls := by
  obtain ⟨o, ho, hclass, hpayload⟩ := hr
  obtain ⟨e', he', hstays⟩ := hgrows.entries ho
  obtain ⟨o', rfl, hclass', hpayload'⟩ := hstays.object
  rw [hpayload] at hpayload'
  exact ⟨o', he', hclass'.trans hclass, hpayload'⟩

theorem standsFor_nextMirror (hroom : (h.withMirror cls).heap.size ≤ 2 ^ 32) :
    (h.withMirror cls).StandsFor (h.nextMirror cls) cls := by
  have hsize : h.heap.size + 1 ≤ 2 ^ 32 := by
    rw [← Heap.size_alloc (.object ⟨CoreClass.classObject, .empty, .mirror cls⟩)]
    exact hroom
  exact ⟨⟨CoreClass.classObject, .empty, .mirror cls⟩, Heap.get?_alloc_self hsize _, rfl, rfl⟩

namespace Mirrored

/-- **One effect** leaves class objects standing for their classes, as long as 32-bit references
suffice. -/
theorem effect (hm : h.Mirrored) (heffect : Effect may h h') (hroom : h'.heap.size ≤ 2 ^ 32) :
    h'.Mirrored := by
  intro cls r hr
  rcases heffect.mirrors with hsame | ⟨made, hmade, -, rfl⟩
  · rw [hsame] at hr
    exact (hm cls r hr).grows heffect.grows
  · by_cases heq : made = cls
    · subst heq
      rw [mirror?_withMirror_self hmade] at hr
      cases hr
      exact standsFor_nextMirror hroom
    · rw [mirror?_withMirror_of_ne heq] at hr
      exact (hm cls r hr).grows heffect.grows

/-- **A run of effects** does so too. -/
theorem run (hm : h.Mirrored) (heffects : h.Effects may h') (hroom : h'.heap.size ≤ 2 ^ 32) :
    h'.Mirrored := by
  induction heffects with
  | refl => exact hm
  | tail _ heffect ih =>
    exact (ih (Nat.le_trans heffect.grows.size hroom)).effect heffect hroom

end Mirrored

theorem mirrored_of_build {s : Setup} (hbuild : s.build = .ok h) : h.Mirrored := by
  obtain ⟨source, -, rfl⟩ := exists_of_build hbuild
  intro cls r hr
  have hnone : ∀ c ∈ CoreClass.registry.classes.toList, c.mirror = none := by decide +kernel
  obtain ⟨c, hc, hmirror⟩ := Option.bind_eq_some_iff.1 hr
  have hmem : c ∈ CoreClass.registry.classes.toList := by
    rw [Array.mem_toList_iff]
    exact Array.mem_of_getElem? hc
  rw [hnone c hmem] at hmirror
  cases hmirror

end Host

/-! ## Asking for class objects -/

namespace Action

variable {h h' : Host} {cls : ClassId} {m : Value}

/-- A class that is registered has a class object, once it was asked for. -/
theorem apply_classMirror (hcls : cls < h.registry.size) :
    ∃ r h', (classMirror cls).apply h = (.ok (.ref r), h') ∧ h'.registry.mirror? cls = some r := by
  obtain ⟨c, hc⟩ := Registry.lt_size_iff.1 hcls
  have hrecord : (getClassRecord cls).apply h = (.ok c, h) := by
    apply apply_view_of_ok
    unfold Registry.get
    rw [hc]
  unfold classMirror
  rw [apply_bind_of_ok hrecord]
  cases hmirror : c.mirror with
  | some r =>
    refine ⟨r, h, rfl, ?_⟩
    unfold Registry.mirror?
    rw [hc]
    exact hmirror
  | none => exact ⟨h.nextMirror cls, h.withMirror cls, rfl, Host.mirror?_withMirror_self hcls⟩

/-- What is shown is the class object that is remembered from then on. -/
theorem classMirror_eq_ok (hm : (classMirror cls).apply h = (.ok m, h')) :
    cls < h.registry.size ∧ ∃ r, m = .ref r ∧ h'.registry.mirror? cls = some r := by
  have hcls : cls < h.registry.size := by
    rcases apply_getClassRecord cls h with ⟨c, hc, -⟩ | ⟨fault, hfault⟩
    · exact Registry.lt_size_iff.2 ⟨c, hc⟩
    · unfold classMirror at hm
      rw [apply_bind, hfault] at hm
      cases hm
  refine ⟨hcls, ?_⟩
  obtain ⟨r, next, hok, hr⟩ := apply_classMirror hcls
  rw [hok] at hm
  cases hm
  exact ⟨r, rfl, hr⟩

theorem apply_getClass {v : Value} (hv : h.classOf v = .ok cls) :
    (getClass v).apply h = (classMirror cls).apply h := by
  unfold getClass
  rw [apply_bind_of_ok (apply_view_of_ok hv)]

/-- The native on objects does what the operation does. -/
theorem apply_native_getClass (v : Value) (rest : List Value) :
    (Dispatch.runBuiltin Host.call (.reflection .getClass) (v :: rest)).apply h
      = some ((getClass v).apply h) := rfl

end Action

namespace Host

variable {h h' : Host} {cls cls' : ClassId} {m m' : Value}

/-- The class object of a class is shown to whoever asks: by the class, by a value of the class, or by
the native on such a value. -/
inductive Shows (h : Host) (cls : ClassId) (m : Value) (h' : Host) : Prop
  | ofClass (hm : (Action.classMirror cls).apply h = (.ok m, h'))
  | ofValue {v : Value} (hv : h.classOf v = .ok cls) (hm : (Action.getClass v).apply h = (.ok m, h'))
  | native {v : Value} {rest : List Value} (hv : h.classOf v = .ok cls)
    (hm : (Dispatch.runBuiltin Host.call (.reflection .getClass) (v :: rest)).apply h
      = some (.ok m, h'))

namespace Shows

/-- However it is asked for, it is the one of the class. -/
theorem classMirror (hshows : h.Shows cls m h') :
    (Action.classMirror cls).apply h = (.ok m, h') := by
  cases hshows with
  | ofClass hm => exact hm
  | ofValue hv hm => rwa [← Action.apply_getClass hv]
  | native hv hm =>
    rw [Action.apply_native_getClass, Action.apply_getClass hv] at hm
    exact Option.some.inj hm

theorem effects (hshows : h.Shows cls m h') : h.Effects (fun _ => True) h' := by
  have hacts : h.Effects (fun _ => True) ((Action.classMirror cls).apply h).2 :=
    Action.acts_classMirror cls h
  rwa [hshows.classMirror] at hacts

/-- A value whose class object is shown has a class. -/
theorem of_getClass {v : Value} (hm : (Action.getClass v).apply h = (.ok m, h')) :
    ∃ cls, h.classOf v = .ok cls ∧ h.Shows cls m h' := by
  cases hv : h.classOf v with
  | error fault =>
    unfold Action.getClass at hm
    rw [Action.apply_bind, Action.apply_view, hv] at hm
    cases hm
  | ok cls => exact ⟨cls, rfl, .ofValue hv hm⟩

/-- What is shown is remembered. -/
theorem remembered (hshows : h.Shows cls m h') :
    ∃ r, m = .ref r ∧ h'.registry.mirror? cls = some r :=
  (Action.classMirror_eq_ok hshows.classMirror).2

/-- **The same class object** is shown for the same class, earlier and later. -/
theorem same {later next : Host} (hshows : h.Shows cls m h')
    (heffects : h'.Effects (fun _ => True) later) (hshows' : later.Shows cls m' next) : m' = m := by
  obtain ⟨r, rfl, hr⟩ := hshows.remembered
  obtain ⟨r', rfl, hr'⟩ := hshows'.remembered
  rw [Effects.keeps_mirror (heffects.trans hshows'.effects) hr] at hr'
  cases hr'
  rfl

/-- **Another class object** is shown for another class, where remembered class objects stand for their
classes. -/
theorem distinct {later next : Host} (hshows : h.Shows cls m h')
    (heffects : h'.Effects (fun _ => True) later) (hshows' : later.Shows cls' m' next)
    (hm : next.Mirrored) (heq : m' = m) : cls' = cls := by
  obtain ⟨r, rfl, hr⟩ := hshows.remembered
  obtain ⟨r', rfl, hr'⟩ := hshows'.remembered
  cases heq
  exact (hm cls' r hr').unique
    (hm cls r (Effects.keeps_mirror (heffects.trans hshows'.effects) hr))

end Shows

/-- A class object is told to be that of its class. -/
theorem StandsFor.mirroredClass {r : Ref} (hr : h.StandsFor r cls) :
    h.mirroredClass (.ref r) = .ok cls := by
  obtain ⟨o, ho, -, hpayload⟩ := hr
  show (do let o ← h.heap.object r; _) = _
  rw [Heap.object_eq_ok.2 ho]
  simp only [hpayload, bind, Except.bind]

/-- It is an instance of the class of class objects. -/
theorem StandsFor.instanceOf {r : Ref} (hr : h.StandsFor r cls) (hsound : h.registry.Sound)
    (hclass : CoreClass.classObject < h.registry.size) :
    ((Action.instanceOf (.ref r) CoreClass.classObject).apply h).1 = .ok true := by
  obtain ⟨o, ho, ho', -⟩ := hr
  rw [Action.instanceOf_object_iff ho, ho', Registry.supports_iff hsound]
  exact ⟨hclass, .inr ⟨_, .refl, .refl⟩⟩

/-- **One class object for each class.** Take a host that was built and then used by operations and
natives, in any order. It has a class object for every class that is registered. Every reference to an
entry of its heap has a class, and the operation and the native that ask for the class object of the
value show the same one.

Let the host be used in any way from then on, by guest code too, and let the class object of a class be
shown at one time and that of a class at a later time. If the classes are the same, so are the two class
objects; as long as 32-bit references suffice, they are not the same otherwise, a class object that was
shown is told to be that of its class, and it is an instance of the class of class objects. Two values
that are there have the same class object exactly if they are of the same class. -/
theorem class_objects_identify_classes {s : Setup} {start : Host} (hbuild : s.build = .ok start)
    (hops : start.Operates h) :
    (∀ cls, cls < h.registry.size → ∃ m h', h.Shows cls m h') ∧
    (∀ r e, h.heap.get? r = some e → ∃ cls m h', h.classOf (.ref r) = .ok cls ∧
      (Action.getClass (.ref r)).apply h = (.ok m, h') ∧
      ∀ rest, (Dispatch.runBuiltin Host.call (.reflection .getClass) (.ref r :: rest)).apply h
        = some (.ok m, h')) ∧
    ∀ now, h.Uses now →
      (∀ cls m shown later, now.Shows cls m shown → shown.Uses later →
        (∀ cls' m' next, later.Shows cls' m' next → (cls' = cls → m' = m) ∧
          (next.heap.size ≤ 2 ^ 32 → m' = m → cls' = cls)) ∧
        (later.heap.size ≤ 2 ^ 32 → later.mirroredClass m = .ok cls ∧
          ((Action.instanceOf m CoreClass.classObject).apply later).1 = .ok true)) ∧
      ∀ v w m m' shown next, now.Resolves w → (Action.getClass v).apply now = (.ok m, shown) →
        (Action.getClass w).apply shown = (.ok m', next) → next.heap.size ≤ 2 ^ 32 →
        (m' = m ↔ now.classOf w = now.classOf v) := by
  have htyped : h.Typed := (typed_of_build hbuild).run hops.effects
  have hmirrored : ∀ {h' : Host}, h.Effects (fun _ => True) h' → h'.heap.size ≤ 2 ^ 32 →
      h'.Mirrored := by
    intro h' heffects hroom
    have hnow : h.Mirrored :=
      (mirrored_of_build hbuild).run hops.effects (Nat.le_trans heffects.grows.size hroom)
    exact hnow.run heffects hroom
  refine ⟨fun cls hcls => ?_, fun r e he => ?_, fun now huses => ⟨?_, ?_⟩⟩
  · obtain ⟨r, h', hm, -⟩ := Action.apply_classMirror hcls
    exact ⟨.ref r, h', .ofClass hm⟩
  · obtain ⟨cls, hv⟩ : ∃ cls, h.classOf (.ref r) = .ok cls := by
      unfold classOf
      cases e <;> simp [he]
    obtain ⟨m, h', hm, -⟩ := Action.apply_classMirror (htyped.classOf hv)
    have hget := (Action.apply_getClass hv).trans hm
    refine ⟨cls, .ref m, h', hv, hget, fun rest => ?_⟩
    rw [Action.apply_native_getClass, hget]
  · intro cls m shown later hshows huses'
    have heffects : h.Effects (fun _ => True) later :=
      (huses.effects.trans hshows.effects).trans huses'.effects
    refine ⟨fun cls' m' next hshows' => ⟨?_, fun hroom => ?_⟩, fun hroom => ?_⟩
    · rintro rfl
      exact hshows.same huses'.effects hshows'
    · exact hshows.distinct huses'.effects hshows'
        (hmirrored (heffects.trans hshows'.effects) hroom)
    · obtain ⟨r, rfl, hr⟩ := hshows.remembered
      have hstands : later.StandsFor r cls :=
        hmirrored heffects hroom cls r (Effects.keeps_mirror huses'.effects hr)
      have hsteps := Effects.steps heffects
      have hclass : CoreClass.classObject < h.registry.size :=
        Nat.lt_of_le_of_lt (by decide) htyped.core
      exact ⟨hstands.mirroredClass, hstands.instanceOf (htyped.registry.run hsteps)
        (Nat.lt_of_lt_of_le hclass (Registry.grows_of_run hsteps).size)⟩
  · intro v w m m' shown next hw hm hm' hroom
    obtain ⟨a, ha, hshows⟩ := Shows.of_getClass hm
    obtain ⟨b, hb, hshows'⟩ := Shows.of_getClass hm'
    have hsame : shown.classOf w = now.classOf w := classOf_of_grows hshows.effects.grows hw
    have heffects : h.Effects (fun _ => True) next :=
      (huses.effects.trans hshows.effects).trans hshows'.effects
    rw [← hsame, hb, ha, Except.ok.injEq]
    refine ⟨hshows.distinct .refl hshows' (hmirrored heffects hroom), ?_⟩
    rintro rfl
    exact hshows.same .refl hshows'

/-- The class object of strings is shown, then that of a text, and then that of the root class. -/
theorem class_objects_identify_classes_text :
    let setup : Setup :=
      { config := {}, source := some (.staged (.ofList [])), imports := .standard, attached := none,
        outside := .nothing, surroundings := { millis := 0, seed := 0 } }
    let made : Op Body := .newText .string "log"
    ∃ start h shown, setup.build = .ok start ∧ h = (made.apply.apply start).2 ∧
      start.Operates h ∧ (Action.classMirror CoreClass.string).apply h = (.ok (.ref ⟨1⟩), shown) ∧
      shown.mirroredClass (.ref ⟨1⟩) = .ok CoreClass.string ∧
      ((Action.instanceOf (.ref ⟨1⟩) CoreClass.classObject).apply shown).1 = .ok true ∧
      ((Action.getClass (.ref ⟨0⟩)).apply shown).1 = .ok (.ref ⟨1⟩) ∧
      ∃ m, ((Action.classMirror rootClass).apply shown).1 = .ok m ∧ m ≠ .ref ⟨1⟩ := by
  intro setup made
  let start : Host :=
    { config := {}, heap := .empty, registry := CoreClass.registry, linkage := .empty,
      files := FileTable.empty.enable, source := .staged (.ofList []), imports := .standard,
      attached := none, surroundings := { millis := 0, seed := 0 } }
  let h : Host := (made.apply.apply start).2
  let shown : Host := ((Action.classMirror CoreClass.string).apply h).2
  have hops : start.Operates h := .single (.op made nofun)
  have hmirror : (Action.classMirror CoreClass.string).apply h = (.ok (.ref ⟨1⟩), shown) :=
    Action.apply_eq_of_ok (by decide +kernel)
  obtain ⟨-, -, hlater⟩ := class_objects_identify_classes (s := setup) rfl hops
  obtain ⟨hshown, -⟩ := hlater h .refl
  obtain ⟨hsame, hstands⟩ := hshown _ _ _ _ (.ofClass hmirror) .refl
  obtain ⟨hmirrored, hinstance⟩ := hstands (by decide +kernel)
  have hroot : (Action.classMirror rootClass).apply shown
      = (.ok (.ref ⟨2⟩), ((Action.classMirror rootClass).apply shown).2) :=
    Action.apply_eq_of_ok (by decide +kernel)
  obtain ⟨-, hother⟩ := hsame _ _ _ (.ofClass hroot)
  have htext : ((Action.getClass (.ref ⟨0⟩)).apply shown).1 = .ok (.ref ⟨1⟩) := by decide +kernel
  exact ⟨start, h, shown, rfl, rfl, hops, hmirror, hmirrored, hinstance, htext, .ref ⟨2⟩,
    congrArg Prod.fst hroot, fun heq => absurd (hother (by decide +kernel) heq) (by decide)⟩

end Host

end GuestHost
