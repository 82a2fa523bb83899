import GuestHost.Proofs.Effects.Heap

/-!
# References of new objects

An operation, a native or a call that allocates hands out a reference that the heap did not have. What
else happens before and after it, and be it guest code, does not matter: no entry goes away.

* `Action.Allocates`, `Process.Allocates` — a reference that is the result is a new one; laws for what
  comes before and after;
* `Op.allocates`, `Builtin.allocates`, `Call.allocates` — what allocates on a host;
* `Host.Allocates` — a use that hands out the reference of a new object: `Allocates.isNew`.
-/

namespace GuestHost

variable {α β : Type} {h h' : Host} {may : Deed → Prop} {args : List Value}

/-- The reference that a value is. -/
def Value.ref? : Value → Option Ref
  | .ref r => some r
  | _ => none

/-- The reference in the answer of an operation. -/
def Reply.ref? : Reply → Option Ref
  | .value v => v.ref?
  | .site s => some s.receiver
  | _ => none

/-! ## Modes stay -/

/-- No effect changes the mode. -/
theorem Host.Effects.mode (heffects : h.Effects may h') : h'.mode = h.mode := by
  have hbootstraps : ∀ {h h' : Host} {site : SiteId} {f : Factory},
      Action.Bootstraps h site f h' → h'.mode = h.mode := by
    intro h h' site f hf
    cases hf with
    | before | made => rfl
  induction heffects with
  | refl => rfl
  | @tail _ next _ heffect ih =>
    rw [← ih]
    cases heffect with
    | bootstrap hf => exact hbootstraps (Action.bootstraps_of_ok hf)
    | link hs =>
      cases Action.links_of_ok hs with
      | before => rfl
      | made hnew hf hmade => exact (hbootstraps hf :)
    | array | object | mirror | write | replace | registry | number | files | module | surroundings => rfl

/-! ## Actions -/

namespace Action

/-- A reference that is the result of the action is new, as long as 32-bit references suffice. -/
def Allocates (ref? : α → Option Ref) (a : Action α) (h : Host) : Prop :=
  ∀ x h' r, a.apply h = (.ok x, h') → ref? x = some r → h'.heap.size ≤ 2 ^ 32 →
    h.heap.IsNew h'.heap r

theorem allocates_allocObject (cls : ClassId) (payload : Payload) :
    Allocates some (allocObject cls payload) h := by
  intro r h' r' ha hr hroom
  cases ha
  cases hr
  exact Heap.isNew_alloc hroom

theorem allocates_allocArray (items : List Value) : Allocates some (allocArray items) h := by
  intro r h' r' ha hr hroom
  cases ha
  cases hr
  exact Heap.isNew_alloc hroom

theorem allocates_fail (ref? : α → Option Ref) (fault : Fault) :
    Allocates ref? (fail fault : Action α) h := by
  intro x h' r ha
  cases ha

/-- What comes before an allocation does not matter. -/
theorem Acts.bind_allocates {ref? : β → Option Ref} {a : Action α} {f : α → Action β}
    (ha : Acts (fun _ => True) a)
    (hf : ∀ x h', a.apply h = (.ok x, h') → h'.mode = h.mode → Allocates ref? (f x) h') :
    Allocates ref? (a >>= f) h := by
  intro y h'' r hy hr hroom
  obtain ⟨x, h', hx, hy⟩ := apply_bind_eq_ok.1 hy
  have heffects := ha h
  rw [hx] at heffects
  exact (hf x h' hx heffects.mode y h'' r hy hr hroom).of_grows heffects.grows

/-- What comes after an allocation does not matter, if no entry goes away and the reference is handed
on. -/
theorem Allocates.bind {ref? : α → Option Ref} {ref?' : β → Option Ref} {a : Action α}
    {f : α → Action β} (ha : Allocates ref? a h)
    (hgrows : ∀ x (h' : Host), h'.heap.Grows ((f x).apply h').2.heap)
    (hf : ∀ x y h' h'' r, (f x).apply h' = (.ok y, h'') → ref?' y = some r → ref? x = some r) :
    Allocates ref?' (a >>= f) h := by
  intro y h'' r hy hr hroom
  obtain ⟨x, h', hx, hy⟩ := apply_bind_eq_ok.1 hy
  have hkept := hgrows x h'
  rw [hy] at hkept
  exact (ha x h' r hx (hf x y h' h'' r hy hr) (Nat.le_trans hkept.size hroom)).grows hkept

/-- A reference that is only wrapped up is as new as before. -/
theorem Allocates.map {ref? : α → Option Ref} {ref?' : β → Option Ref} {a : Action α}
    (ha : Allocates ref? a h) {f : α → β} (hf : ∀ x, ref?' (f x) = ref? x) :
    Allocates ref?' (do return f (← a) : Action β) h := by
  refine ha.bind (fun x h' => .refl h'.heap) ?_
  intro x y h' h'' r hy hr
  cases hy
  rw [← hf]
  exact hr

/-- A new object, as the value that refers to it. -/
theorem allocates_allocated (cls : ClassId) (payload : Payload) :
    Allocates Value.ref? (do return .ref (← allocObject cls payload) : Action Value) h :=
  (allocates_allocObject cls payload).map fun _ => rfl

/-- What is answered with is the new object. -/
theorem allocated_eq_ok {cls : ClassId} {payload : Payload} {v : Value} {h' : Host}
    (hv : (do return .ref (← allocObject cls payload) : Action Value).apply h = (.ok v, h')) :
    v = .ref (h.heap.allocObject cls payload).1 ∧
      h' = { h with heap := (h.heap.allocObject cls payload).2 } := by
  obtain ⟨r, h₁, hr, hlast⟩ := apply_bind_eq_ok.1 hv
  rw [apply_allocObject] at hr
  cases hr
  cases hlast
  exact ⟨rfl, rfl⟩

/-- An instance of a class that is allocated is there, an object without a payload. -/
theorem exists_of_allocate {cls : ClassId} {v : Value} {h' : Host}
    (hv : (allocate cls).apply h = (.ok v, h')) (hroom : h'.heap.size ≤ 2 ^ 32) :
    ∃ r, v = .ref r ∧ h'.heap.get? r = some (.object ⟨cls, .empty, .empty⟩) := by
  obtain ⟨record, h₁, hrecord, hv⟩ := apply_bind_eq_ok.1 hv
  obtain ⟨-, rfl⟩ := apply_view_eq_ok.1 hrecord
  obtain ⟨rfl, rfl⟩ := allocated_eq_ok hv
  have hsize : h.heap.size + 1 ≤ 2 ^ 32 := by
    rw [← Heap.size_alloc]
    exact hroom
  exact ⟨_, rfl, Heap.get?_alloc_self hsize _⟩

/-! ## Texts, arrays and objects -/

theorem allocates_newText (hmode : h.mode = .direct) (kind : TextKind) (contents : String) :
    Allocates Value.ref? (newText kind contents) h := by
  apply acts_get.bind_allocates
  intro h₀ h₁ hget _
  cases hget
  simp only [hmode]
  exact allocates_allocated _ _

theorem allocates_newArray (hmode : h.mode = .direct) (items : List Value) :
    Allocates Value.ref? (newArray items) h := by
  apply acts_get.bind_allocates
  intro h₀ h₁ hget _
  cases hget
  simp only [hmode]
  exact (allocates_allocArray items).map fun _ => rfl

theorem allocates_allocate (cls : ClassId) : Allocates Value.ref? (allocate cls) h :=
  (acts_getClassRecord cls).bind_allocates fun _ _ _ _ => allocates_allocated _ _

theorem allocates_wrap (cls : ClassId) (data : HostData) : Allocates Value.ref? (wrap cls data) h := by
  apply (acts_getClassRecord cls).bind_allocates
  intro c h' _ _
  by_cases hc : c.isInterface = true
  · simp only [hc, if_true]
    exact (acts_adapter _ _).bind_allocates fun _ _ _ _ => allocates_allocated _ _
  · simp only [hc]
    exact (acts_pure cls).bind_allocates fun _ _ _ _ => allocates_allocated _ _

/-- The class object of a class is new, if the class had none. -/
theorem allocates_classMirror {cls : ClassId} (hnew : h.registry.mirror? cls = none) :
    Allocates Value.ref? (classMirror cls) h := by
  apply (acts_getClassRecord cls).bind_allocates
  intro c h' hc _
  have hmirror : c.mirror = none := by
    rcases apply_getClassRecord cls h with ⟨c', hget, hc'⟩ | ⟨fault, hc'⟩
    · rw [hc'] at hc
      cases hc
      unfold Registry.mirror? at hnew
      rw [hget] at hnew
      exact hnew
    · rw [hc'] at hc
      cases hc
  simp only [hmirror]
  -- The class object is kept with its class, which does not touch the heap.
  refine (allocates_allocObject _ _).bind (fun r h' => .refl h'.heap) ?_
  intro r v h₁ h₂ r' hv hr
  cases hv
  exact hr

theorem allocates_methodHandle (cls : ClassId) (method : String) (kind : UInt8) :
    Allocates Value.ref? (methodHandle cls method kind) h :=
  (acts_ofResult _).bind_allocates fun _ _ _ _ =>
    (acts_getClassRecord cls).bind_allocates fun _ _ _ _ => allocates_allocated _ _

theorem allocates_methodType (cls : ClassId) : Allocates Value.ref? (methodType cls) h :=
  (acts_getClassRecord cls).bind_allocates fun _ _ _ _ => allocates_allocated _ _

theorem allocates_instantiate (f : Factory) (linking : List Value) :
    Allocates (fun s => some s.receiver) (instantiate f linking) h :=
  (allocates_allocObject _ _).map fun _ => rfl

/-- The instance of a call site is new, if the site had none. -/
theorem allocates_link {site : SiteId} (hnew : h.linkage.callSites.get? site = none)
    (request : LinkRequest) : Allocates (fun s => some s.receiver) (link site request) h := by
  unfold link
  apply acts_get.bind_allocates
  intro h₀ h₁ hget _
  cases hget
  simp only [hnew]
  apply (acts_bootstrapSite _ _ _).bind_allocates
  intro f h' _ _
  refine (allocates_instantiate f request.linking).bind (fun s h' => .refl h'.heap) ?_
  intro s s' h₁ h₂ r hs hr
  cases hs
  exact hr

end Action

open GuestHost.Action

/-! ## Operations -/

/-- The class of a value has no class object yet. -/
def Host.lacksMirror (h : Host) (v : Value) : Bool :=
  match h.classOf v with
  | .ok cls => (h.registry.mirror? cls).isNone
  | .error _ => false

/-- What allocates on a host. In exported mode it is the module that makes texts and arrays. -/
def Op.allocates (h : Host) : Op β → Bool
  | .allocate _ | .wrap _ _ | .methodHandle _ _ _ | .methodType _ | .instantiate _ _ => true
  | .newText _ _ | .newArray _ => h.mode == .direct
  | .classMirror cls => (h.registry.mirror? cls).isNone
  | .getClass v => h.lacksMirror v
  | .link site _ => (h.linkage.callSites.get? site).isNone
  | _ => false

theorem Action.allocates_getClass {v : Value} (hnew : h.lacksMirror v = true) :
    Allocates Value.ref? (getClass v) h := by
  apply (acts_view _).bind_allocates
  intro cls h' hcls _
  obtain ⟨hclass, rfl⟩ := apply_view_eq_ok.1 hcls
  unfold Host.lacksMirror at hnew
  rw [hclass] at hnew
  exact allocates_classMirror (Option.isNone_iff_eq_none.1 hnew)

/-- An operation that allocates answers with a new reference. -/
theorem Op.allocates_apply {op : Op Body} (hop : op.allocates h = true) :
    Allocates Reply.ref? op.apply h := by
  cases op with
  | allocate cls => exact (allocates_allocate cls).map fun _ => rfl
  | wrap cls data => exact (allocates_wrap cls data).map fun _ => rfl
  | methodHandle cls method kind => exact (allocates_methodHandle cls method kind).map fun _ => rfl
  | methodType cls => exact (allocates_methodType cls).map fun _ => rfl
  | instantiate f linking => exact (allocates_instantiate f linking).map fun _ => rfl
  | newText kind contents => exact (allocates_newText (beq_iff_eq.1 hop) kind contents).map fun _ => rfl
  | newArray items => exact (allocates_newArray (beq_iff_eq.1 hop) items).map fun _ => rfl
  | classMirror cls =>
    exact (allocates_classMirror (Option.isNone_iff_eq_none.1 hop)).map fun _ => rfl
  | getClass v => exact (allocates_getClass hop).map fun _ => rfl
  | link site request => exact (allocates_link (Option.isNone_iff_eq_none.1 hop) request).map fun _ => rfl
  | _ => cases hop

/-! ## Natives -/

/-- Natives on texts that create a text or an array. -/
def TextNative.creates : TextNative → Bool
  | .trim | .replicate | .toCharArray | .toString => true
  | _ => false

/-- Natives on characters that create a text. -/
def CharacterNative.creates : CharacterNative → Bool
  | .toString => true
  | _ => false

/-- Natives on numbers that create a text. -/
def NumberNative.creates : NumberNative → Bool
  | .floatToString | .doubleToString | .intToString | .intToHexString | .longToString => true
  | _ => false

/-- Natives on class objects that create a text or an array. -/
def ReflectionNative.creates : ReflectionNative → Bool
  | .className | .newArray => true
  | _ => false

/-- An object carries a factory. -/
def Host.carriesFactory (h : Host) (v : Value) : Bool :=
  match v.ref?.bind h.heap.get? with
  | some (.object o) =>
    match o.payload with
    | .factory _ => true
    | _ => false
  | _ => false

/-- What allocates on a host. In exported mode it is the module that makes texts and arrays. -/
def Builtin.allocates (h : Host) (args : List Value) : Builtin → Bool
  | .text n => n.creates && h.mode == .direct
  | .character n => n.creates && h.mode == .direct
  | .number n => n.creates && h.mode == .direct
  | .reflection .getClass => (args[0]?).any h.lacksMirror
  | .reflection n => n.creates && h.mode == .direct
  | .charset _ => h.mode == .direct
  | .linkage _ | .wrapper _ | .newInstance => true
  | .invokeHandle => (args[0]?).any h.carriesFactory
  | _ => false

theorem TextNative.allocates_run (hmode : h.mode = .direct) {native : TextNative}
    (hnative : native.creates = true) (args : List Value) :
    Allocates Value.ref? (native.run args) h := by
  cases native with
  | trim | toString =>
    exact (acts_argText args 0).bind_allocates fun _ _ _ hmode' =>
      allocates_newText (hmode'.trans hmode) _ _
  | toCharArray =>
    exact (acts_argText args 0).bind_allocates fun _ _ _ hmode' =>
      allocates_newArray (hmode'.trans hmode) _
  | replicate =>
    apply (acts_argText args 0).bind_allocates
    intro s h₁ _ hmode₁
    apply (acts_ofResult _).bind_allocates
    intro n h₂ _ hmode₂
    exact (acts_ofResult _).bind_allocates fun _ _ _ hmode₃ =>
      allocates_newText (hmode₃.trans (hmode₂.trans (hmode₁.trans hmode))) _ _
  | _ => cases hnative

theorem CharacterNative.allocates_run (hmode : h.mode = .direct) {native : CharacterNative}
    (hnative : native.creates = true) (args : List Value) :
    Allocates Value.ref? (native.run args) h := by
  cases native with
  | toString =>
    exact (acts_ofResult _).bind_allocates fun _ _ _ hmode' =>
      allocates_newText (hmode'.trans hmode) _ _
  | _ => cases hnative

theorem NumberNative.allocates_run (hmode : h.mode = .direct) {native : NumberNative}
    (hnative : native.creates = true) (args : List Value) :
    Allocates Value.ref? (native.run args) h := by
  cases native with
  | floatToString | doubleToString | intToHexString =>
    exact (acts_ofResult _).bind_allocates fun _ _ _ hmode' =>
      allocates_newText (hmode'.trans hmode) _ _
  | intToString | longToString =>
    apply (acts_ofResult _).bind_allocates
    intro n h₁ _ hmode₁
    exact (acts_ofResult _).bind_allocates fun _ _ _ hmode₂ =>
      allocates_newText (hmode₂.trans (hmode₁.trans hmode)) _ _
  | _ => cases hnative

theorem ReflectionNative.allocates_run (hmode : h.mode = .direct) {native : ReflectionNative}
    (hnative : native.creates = true) (args : List Value) :
    Allocates Value.ref? (native.run args) h := by
  cases native with
  | className =>
    exact (acts_classArgument args).bind_allocates fun _ _ _ hmode' =>
      allocates_newText (hmode'.trans hmode) _ _
  | newArray =>
    apply (acts_ofResult _).bind_allocates
    intro n h₁ _ hmode₁
    exact (acts_ofResult _).bind_allocates fun _ _ _ hmode₂ =>
      allocates_newArray (hmode₂.trans (hmode₁.trans hmode)) _
  | _ => cases hnative

/-- The native that hands out class objects makes one if there was none. -/
theorem ReflectionNative.allocates_getClass (hnew : (args[0]?).any h.lacksMirror = true) :
    Allocates Value.ref? (ReflectionNative.getClass.run args) h := by
  apply (acts_ofResult _).bind_allocates
  intro v h' hv _
  obtain ⟨hget, rfl⟩ := apply_ofResult_eq_ok.1 hv
  rw [Args.get_eq_ok.1 hget, Option.any_some] at hnew
  exact Action.allocates_getClass hnew

theorem CharsetNative.allocates_run (hmode : h.mode = .direct) (native : CharsetNative)
    (args : List Value) : Allocates Value.ref? (native.run args) h := by
  apply (acts_elements args).bind_allocates
  intro ints h' _ hmode'
  cases native with
  | decode | encode => exact allocates_newArray (hmode'.trans hmode) _

theorem LinkageNative.allocates_run (native : LinkageNative) (args : List Value) :
    Allocates Value.ref? (native.run args) h := by
  cases native with
  | metafactory =>
    apply (acts_ofResult _).bind_allocates
    intro v h₁ _ _
    apply (acts_view _).bind_allocates
    intro interface h₂ _ _
    apply (acts_payloadArgument args 4).bind_allocates
    intro payload h₃ _ _
    cases payload with
    | methodHandle handle =>
      exact acts_anonymousSite.bind_allocates fun _ _ _ _ =>
        (acts_bootstrapSite _ _ _).bind_allocates fun _ _ _ _ => allocates_allocated _ _
    | empty | text | host | mirror | methodType | factory | lambda => exact allocates_fail _ _
  | siteTarget =>
    apply (acts_payloadArgument args 0).bind_allocates
    intro payload h₁ _ _
    cases payload with
    | factory f => exact allocates_allocated _ _
    | empty | text | host | mirror | methodHandle | methodType | lambda => exact allocates_fail _ _

theorem WrapperNative.allocates_run (native : WrapperNative) (args : List Value) :
    Allocates Value.ref? (native.run args) h := by
  cases native with
  | console | window | document | references => exact allocates_wrap _ _
  | floats | ints | shorts | bytes =>
    exact (acts_ofResult _).bind_allocates fun _ _ _ _ => allocates_wrap _ _

/-! ## Processes -/

namespace Process

/-- A reference that is the result of the process is new, as long as 32-bit references suffice. -/
def Allocates (p : Process Value) (h : Host) : Prop :=
  ∀ r h', p.apply h = some (.ok (.ref r), h') → h'.heap.size ≤ 2 ^ 32 → h.heap.IsNew h'.heap r

theorem allocates_toProcess {a : Action Value} (ha : Action.Allocates Value.ref? a h) :
    Allocates a.toProcess h := by
  intro r h' hrun hroom
  exact ha (.ref r) h' r (Option.some.inj hrun) rfl hroom

/-- What comes before an allocation does not matter. -/
theorem Acts.bind_allocates {p : Process α} {f : α → Process Value} (hp : Acts (fun _ => True) p)
    (hf : ∀ x h', p.apply h = some (.ok x, h') → Allocates (f x) h') : Allocates (p >>= f) h := by
  intro r h'' hrun hroom
  rw [apply_bind] at hrun
  cases hx : p.apply h with
  | none => simp [hx] at hrun
  | some outcome =>
    obtain ⟨fault | x, h'⟩ := outcome
    · simp [hx] at hrun
    · simp only [hx] at hrun
      exact (hf x h' hx r h'' hrun hroom).of_grows (hp h _ _ hx).grows

/-- What comes after an allocation does not matter: the new object is the result. -/
theorem allocates_then {p : Process Value} (hp : Allocates p h) {q : Value → Process α}
    (hq : ∀ v, Acts (fun _ => True) (q v)) :
    Allocates (do
      let v ← p
      let _ ← q v
      return v) h := by
  intro r h'' hrun hroom
  rw [apply_bind] at hrun
  cases hx : p.apply h with
  | none => simp [hx] at hrun
  | some outcome =>
    obtain ⟨fault | v, h'⟩ := outcome
    · simp [hx] at hrun
    · simp only [hx] at hrun
      have hgrows : h'.heap.Grows h''.heap := by
        have hacts : Acts (fun _ => True) (do
            let _ ← q v
            return v) := (hq v).bind fun _ => acts_pure v
        exact (hacts h' _ h'' hrun).grows
      obtain rfl : v = .ref r := by
        rw [apply_bind] at hrun
        cases hy : (q v).apply h' with
        | none => simp [hy] at hrun
        | some outcome =>
          obtain ⟨fault | x, h₁⟩ := outcome
          · simp [hy] at hrun
          · simp only [hy] at hrun
            cases hrun
            rfl
      exact (hp r h' hx (Nat.le_trans hgrows.size hroom)).grows hgrows

end Process

/-! ## Calls -/

/-- The calls that allocate: new instances of a class, and the targets that are constructors. -/
def Call.allocates : Call → Bool
  | .newInstance _ => true
  | .target t _ => decide (t.handle.kind = .constructor)
  | _ => false

namespace Dispatch

variable {call : Caller}

theorem allocates_makeInstance (hcall : ∀ c, Process.Acts (fun _ => True) (call c)) (cls : ClassId) :
    Process.Allocates (makeInstance call cls) h := by
  apply (acts_viewed _).bind_allocates
  intro init h' _
  exact Process.allocates_then (Process.allocates_toProcess (allocates_allocate cls)) fun v =>
    acts_runProgram (fun _ => trivial) hcall (init.body [v])

theorem allocates_constructor (hcall : ∀ c, Process.Acts (fun _ => True) (call c)) {target : Target}
    (hkind : target.handle.kind = .constructor) (capture : List Value) :
    Process.Allocates (callTarget call target capture) h := by
  obtain ⟨⟨owner, method, kind⟩, linking⟩ := target
  obtain rfl : kind = .constructor := hkind
  exact Process.allocates_then (Process.allocates_toProcess (allocates_allocate owner)) fun v =>
    hcall (.special owner v method (linking ++ capture))

/-- A call that allocates results in a new reference, however deep calls may nest. -/
theorem allocates_enter {c : Call} (hc : c.allocates = true) (depth : Nat) :
    Process.Allocates (enter depth c) h := by
  cases depth with
  | zero =>
    intro r h' hrun
    cases hrun
  | succ depth =>
    have hcall : ∀ c, Process.Acts (fun _ => True) (enter depth c) := acts_enter (fun _ => trivial) depth
    cases c with
    | newInstance cls => exact allocates_makeInstance hcall cls
    | target t capture => exact allocates_constructor hcall (of_decide_eq_true hc) capture
    | _ => cases hc

theorem allocates_runNewInstance (args : List Value) :
    Process.Allocates (runNewInstance Host.call args) h := by
  apply (acts_outcome _).bind_allocates
  intro v h₁ _
  apply (acts_viewed _).bind_allocates
  intro cls h₂ _
  exact allocates_enter rfl Host.depth

/-- A handle that carries a factory makes a new instance of it. -/
theorem allocates_runInvokeHandle (hfactory : (args[0]?).any h.carriesFactory = true) :
    Process.Allocates (runInvokeHandle call args) h := by
  apply (acts_outcome _).bind_allocates
  intro handle h₁ hrun
  obtain ⟨hget, rfl⟩ := apply_ofResult_eq_ok.1 (Option.some.inj hrun)
  apply (acts_outcome _).bind_allocates
  intro r h₂ hrun
  obtain ⟨hhandle, rfl⟩ := apply_ofResult_eq_ok.1 (Option.some.inj hrun)
  apply (Process.acts_toProcess (readsOnly_handleArguments args).acts).bind_allocates
  intro values h₃ hrun
  obtain rfl : h₃ = h := by
    have hsame := readsOnly_handleArguments args h
    rw [Option.some.inj hrun] at hsame
    exact hsame
  apply (acts_viewed _).bind_allocates
  intro o h₄ hrun
  obtain ⟨hobject, rfl⟩ := apply_view_eq_ok.1 (Option.some.inj hrun)
  cases hpayload : o.payload with
  | factory f =>
    exact Process.allocates_toProcess ((allocates_instantiate f values).map fun _ => rfl)
  | empty | text | host | mirror | methodHandle | methodType | lambda =>
    -- The handle is an object that carries no factory.
    obtain rfl := Value.expectObject_eq_ok.1 hhandle
    rw [Args.get_eq_ok.1 hget, Option.any_some] at hfactory
    unfold Host.carriesFactory at hfactory
    simp [Value.ref?, Heap.object_eq_ok.1 hobject, hpayload] at hfactory

/-- **A native that allocates results in a new reference.** -/
theorem allocates_runBuiltin {native : Builtin} (hnative : native.allocates h args = true) :
    Process.Allocates (runBuiltin Host.call native args) h := by
  have hboth : ∀ {b : Bool}, (b && h.mode == .direct) = true → b = true ∧ h.mode = .direct := by
    intro b hb
    simpa using hb
  cases native with
  | text n =>
    obtain ⟨hcreates, hmode⟩ := hboth hnative
    exact Process.allocates_toProcess (TextNative.allocates_run hmode hcreates args)
  | character n =>
    obtain ⟨hcreates, hmode⟩ := hboth hnative
    exact Process.allocates_toProcess (CharacterNative.allocates_run hmode hcreates args)
  | number n =>
    obtain ⟨hcreates, hmode⟩ := hboth hnative
    exact Process.allocates_toProcess (NumberNative.allocates_run hmode hcreates args)
  | reflection n =>
    by_cases hn : n = .getClass
    · subst hn
      exact Process.allocates_toProcess (ReflectionNative.allocates_getClass hnative)
    · have hcreates : (n.creates && h.mode == .direct) = true := by
        cases n with
        | getClass => exact absurd rfl hn
        | _ => exact hnative
      obtain ⟨hcreates, hmode⟩ := hboth hcreates
      exact Process.allocates_toProcess (ReflectionNative.allocates_run hmode hcreates args)
  | charset n =>
    exact Process.allocates_toProcess (CharsetNative.allocates_run (beq_iff_eq.1 hnative) n args)
  | linkage n => exact Process.allocates_toProcess (n.allocates_run args)
  | wrapper n => exact Process.allocates_toProcess (n.allocates_run args)
  | newInstance => exact allocates_runNewInstance args
  | invokeHandle => exact allocates_runInvokeHandle hnative
  | constant | clock | math | stream => cases hnative

end Dispatch

/-! ## Uses -/

/-- A use of a host that hands out the reference of a new object: an operation, a native or a call that
allocates, with the reference that it answers with. -/
inductive Host.Allocates : Host → Ref → Host → Prop
  | op {h h' : Host} {op : Op Body} {reply : Reply} {r : Ref} (hop : op.allocates h = true)
    (hrun : op.apply.apply h = (.ok reply, h')) (hr : reply.ref? = some r) : Allocates h r h'
  | native {h h' : Host} {native : Builtin} {args : List Value} {r : Ref}
    (hnative : native.allocates h args = true)
    (hrun : (Dispatch.runBuiltin Host.call native args).apply h = some (.ok (.ref r), h')) :
    Allocates h r h'
  | call {h h' : Host} {c : Call} {r : Ref} (hc : c.allocates = true)
    (hrun : (Host.call c).apply h = some (.ok (.ref r), h')) : Allocates h r h'

/-- **The reference that is handed out is new**, as long as 32-bit references suffice. -/
theorem Host.Allocates.isNew {r : Ref} (halloc : h.Allocates r h') (hroom : h'.heap.size ≤ 2 ^ 32) :
    h.heap.IsNew h'.heap r := by
  cases halloc with
  | op hop hrun hr => exact Op.allocates_apply hop _ h' r hrun hr hroom
  | native hnative hrun => exact Dispatch.allocates_runBuiltin hnative r h' hrun hroom
  | call hc hrun => exact Dispatch.allocates_enter hc Host.depth r h' hrun hroom

/-- What allocates changes a host by effects, as everything does. -/
theorem Host.Allocates.effects {r : Ref} (halloc : h.Allocates r h') :
    h.Effects (fun _ => True) h' := by
  cases halloc with
  | @op _ request reply _ hop hrun hr =>
    have heffects := (Use.op h request).effects
    rw [hrun] at heffects
    exact heffects
  | native hnative hrun => exact (Use.native _ _ hrun).effects
  | call hc hrun => exact (Use.call _ hrun).effects

end GuestHost
