import GuestHost.Proofs.Effects.Natives

/-!
# The effects of calls

Programs and calls change a host by effects, however deep calls nest and whatever guest code does. Guest
code may ask for every operation, so every deed may be among them.

* `acts_runBuiltin` — every native that the host provides;
* `acts_runProgram` — every program, by induction on it;
* `acts_enter` — every call, by induction on how deep calls may nest;
* `Host.Uses` — what may be done to a host from outside, one thing after the other: `Uses.effects`.
-/

namespace GuestHost

open Relation (ReflTransGen)
open GuestHost.Action

variable {α β : Type} {may : Deed → Prop} {args : List Value}

/-! ## Processes -/

namespace Process

/-- The process changes a host by effects, if it has an outcome. -/
def Acts (may : Deed → Prop) (p : Process α) : Prop :=
  ∀ h result h', p.apply h = some (result, h') → h.Effects may h'

/-- Two processes one after the other; the second is only looked at where the first led to. -/
theorem acts_bind {p : Process α} {f : α → Process β} (hp : Acts may p)
    (hf : ∀ h x h', p.apply h = some (.ok x, h') →
      ∀ result h'', (f x).apply h' = some (result, h'') → h'.Effects may h'') :
    Acts may (p >>= f) := by
  intro h result h'' hrun
  rw [apply_bind] at hrun
  cases hx : p.apply h with
  | none => simp [hx] at hrun
  | some outcome =>
    obtain ⟨fault | x, h'⟩ := outcome
    · simp only [hx] at hrun
      cases hrun
      exact hp h _ _ hx
    · simp only [hx] at hrun
      exact (hp h _ _ hx).trans (hf h x h' hx result h'' hrun)

theorem Acts.bind {p : Process α} {f : α → Process β} (hp : Acts may p) (hf : ∀ x, Acts may (f x)) :
    Acts may (p >>= f) := by
  apply acts_bind hp
  intro h x h' _
  exact hf x h'

theorem effects_toProcess {a : Action α} {h h' : Host} {result : Except Fault α}
    (ha : h.Effects may (a.apply h).2) (hrun : a.toProcess.apply h = some (result, h')) :
    h.Effects may h' := by
  have hresult : a.apply h = (result, h') := Option.some.inj hrun
  rw [hresult] at ha
  exact ha

theorem acts_toProcess {a : Action α} (ha : Action.Acts may a) : Acts may a.toProcess := by
  intro h result h' hrun
  exact effects_toProcess (ha h) hrun

theorem acts_pure (a : α) : Acts may (pure a : Process α) := by
  intro h result h' hrun
  cases hrun
  exact .refl

theorem acts_get : Acts may (get : Process Host) := by
  intro h result h' hrun
  cases hrun
  exact .refl

end Process

/-! ## Calls -/

namespace Dispatch

open Process (acts_toProcess)

variable {call : Caller}

theorem acts_outcome (r : Except Fault α) : Process.Acts may (outcome r) :=
  acts_toProcess (acts_ofResult r)

theorem acts_viewed (f : Host → Except Fault α) : Process.Acts may (Action.view f).toProcess :=
  acts_toProcess (acts_view f)

theorem apply_runProgram_call (c : Call) (next : Except Fault Value → Program) (h : Host) :
    (runProgram call (.call c next)).apply h = match (call c).apply h with
      | none => none
      | some (answer, h') => (runProgram call (next answer)).apply h' := by
  rw [runProgram]
  rfl

/-- **Programs** change a host by effects, if the calls within do. -/
theorem acts_runProgram (hmay : ∀ d, may d) (hcall : ∀ c, Process.Acts may (call c)) :
    ∀ p : Program, Process.Acts may (runProgram call p)
  | .done r => acts_outcome r
  | .perform op next => by
    intro h result h' hrun
    have hop : h.Effects may (op.apply.apply h).2 := op.acts (fun d _ => hmay d) h
    exact hop.trans (acts_runProgram hmay hcall (next (op.apply.apply h).1) _ result h' hrun)
  | .call c next => by
    intro h result h' hrun
    rw [apply_runProgram_call] at hrun
    cases hc : (call c).apply h with
    | none => simp [hc] at hrun
    | some outcome =>
      obtain ⟨answer, between⟩ := outcome
      rw [hc] at hrun
      have hfirst : h.Effects may between := hcall c h answer between hc
      exact hfirst.trans (acts_runProgram hmay hcall (next answer) between result h' hrun)

theorem readsOnly_handleArguments (args : List Value) : ReadsOnly (handleArguments args) := by
  apply (readsOnly_ofResult _).bind
  intro v
  cases v with
  | null => exact readsOnly_pure _
  | ref | handle | int | long | float | double => exact readsOnly_view _

theorem acts_missing (cls : ClassId) (key : String) :
    Process.Acts may (missing cls key : Action α).toProcess :=
  acts_toProcess ((acts_getClassRecord cls).bind fun _ => acts_fail _)

section

variable (hcall : ∀ c, Process.Acts may (call c))

include hcall

theorem acts_runNewInstance (args : List Value) : Process.Acts may (runNewInstance call args) :=
  (acts_outcome _).bind fun _ => (acts_viewed _).bind fun cls => hcall (.newInstance cls)

/-- The native that calls what a handle leads to: a factory that the handle has makes an instance. -/
theorem acts_runInvokeHandle (args : List Value) : Process.Acts may (runInvokeHandle call args) := by
  refine (acts_outcome _).bind fun handle => (acts_outcome _).bind fun r =>
    (acts_toProcess (readsOnly_handleArguments args).acts).bind fun values =>
      Process.acts_bind (acts_viewed _) fun h o h' ho => ?_
  obtain ⟨hobject, rfl⟩ := apply_view_eq_ok.1 (Option.some.inj ho)
  cases hpayload : o.payload with
  | factory f =>
    have hknows : h.Knows f := .inr ⟨r, o, Heap.object_eq_ok.1 hobject, hpayload⟩
    have heffects : h.Effects may
        ((do return .ref (← Action.instantiate f values).receiver : Action Value).apply h).2 :=
      effects_bind (effects_instantiate (.inl hknows) values) fun s h' _ => Action.acts_pure _ h'
    intro result h' hrun
    exact Process.effects_toProcess heffects hrun
  | methodHandle handle => exact hcall (.target ⟨handle, []⟩ values) h
  | empty | text | host | mirror | methodType | lambda => exact acts_outcome _ h

/-- **Every native that the host provides** changes it by a run of changes. -/
theorem acts_runBuiltin (native : Builtin) (args : List Value) :
    Process.Acts may (runBuiltin call native args) := by
  cases native with
  | constant v => exact acts_outcome _
  | clock => exact acts_toProcess (Action.acts_get.map fun h => Value.long h.surroundings.millis)
  | text n => exact acts_toProcess (n.acts_run args)
  | character n => exact acts_toProcess (n.acts_run args)
  | number n => exact acts_toProcess (n.acts_run args)
  | math n => exact acts_toProcess (n.acts_run args)
  | reflection n => exact acts_toProcess (n.acts_run args)
  | stream n => exact acts_toProcess (n.acts_run args)
  | linkage n => exact acts_toProcess (n.acts_run args)
  | charset n => exact acts_toProcess (n.acts_run args)
  | wrapper n => exact acts_toProcess (n.acts_run args)
  | newInstance => exact acts_runNewInstance hcall args
  | invokeHandle => exact acts_runInvokeHandle hcall args

theorem acts_callTarget (target : Target) (capture : List Value) :
    Process.Acts may (callTarget call target capture) := by
  obtain ⟨⟨owner, method, kind⟩, linking⟩ := target
  cases kind with
  | static => exact hcall (.static owner method (linking ++ capture))
  | constructor =>
    exact (acts_toProcess (acts_allocate owner)).bind fun v =>
      (hcall (.special owner v method (linking ++ capture))).bind fun _ => Process.acts_pure v
  | virtual | interface | special =>
    unfold callTarget
    cases linking ++ capture with
    | nil => exact acts_outcome _
    | cons receiver rest => exact hcall (.virtual receiver method rest)

end

section

variable (hmay : ∀ d, may d) (hcall : ∀ c, Process.Acts may (call c))

include hmay hcall

theorem acts_runCode (code : NativeCode) (args : List Value) :
    Process.Acts may (runCode call code args) := by
  cases code with
  | builtin native => exact acts_runBuiltin hcall native args
  | body body => exact acts_runProgram hmay hcall (body args)

theorem acts_callNative (owner key : String) (args : List Value) :
    Process.Acts may (callNative call owner key args) :=
  (acts_viewed _).bind fun e => Process.acts_get.bind fun _ => acts_runCode hmay hcall e.code _

theorem acts_callPlainNative (owner key : String) (args : List Value) :
    Process.Acts may (callPlainNative call owner key args) :=
  (acts_viewed _).bind fun e => acts_runCode hmay hcall e.code args

theorem acts_callStatic (cls : ClassId) (key : String) (args : List Value) :
    Process.Acts may (callStatic call cls key args) := by
  refine Process.acts_get.bind fun h => ?_
  cases h.registry.findMethod? cls key .static with
  | some m => exact acts_runProgram hmay hcall (m.body args)
  | none =>
    cases nativeOwner? h cls key with
    | some owner => exact acts_callPlainNative hmay hcall owner key args
    | none => exact acts_missing cls key

theorem acts_callOn (cls : ClassId) (receiver : Value) (key : String) (args : List Value) :
    Process.Acts may (callOn call cls receiver key args) := by
  refine Process.acts_get.bind fun h => ?_
  cases h.registry.findMethod? cls key .onInstance with
  | some m => exact acts_runProgram hmay hcall (m.body (receiver :: args))
  | none =>
    cases nativeOwner? h cls key with
    | some owner => exact acts_callPlainNative hmay hcall owner key (receiver :: args)
    | none =>
      refine (acts_outcome _).bind fun found => ?_
      cases found with
      | some t => exact hcall (.target t args)
      | none => exact acts_missing cls key

theorem acts_callVirtual (receiver : Value) (key : String) (args : List Value) :
    Process.Acts may (callVirtual call receiver key args) :=
  (acts_viewed _).bind fun cls => acts_callOn hmay hcall cls receiver key args

theorem acts_makeInstance (cls : ClassId) : Process.Acts may (makeInstance call cls) :=
  (acts_viewed _).bind fun init => (acts_toProcess (acts_allocate cls)).bind fun v =>
    (acts_runProgram hmay hcall (init.body [v])).bind fun _ => Process.acts_pure v

/-- A call changes a host by a run of changes if the calls within it do. -/
theorem acts_step (c : Call) : Process.Acts may (step call c) := by
  cases c with
  | native owner key args => exact acts_callNative hmay hcall owner key args
  | plainNative owner key args => exact acts_callPlainNative hmay hcall owner key args
  | static cls key args => exact acts_callStatic hmay hcall cls key args
  | virtual receiver key args => exact acts_callVirtual hmay hcall receiver key args
  | special cls receiver key args => exact acts_callOn hmay hcall cls receiver key args
  | target target capture => exact acts_callTarget hcall target capture
  | newInstance cls => exact acts_makeInstance hmay hcall cls

end

/-- **Calls** change a host by effects, however deep they may nest. -/
theorem acts_enter (hmay : ∀ d, may d) (depth : Nat) (c : Call) :
    Process.Acts may (enter depth c) := by
  induction depth generalizing c with
  | zero =>
    intro h result h' hrun
    cases hrun
  | succ depth ih => exact acts_step hmay ih c

end Dispatch

/-! ## Uses -/

namespace Host

variable {h h' : Host}

/-- One thing that is done to a host from outside: an operation, a native that the host provides, a call,
or a program. Guest code does what it likes. -/
inductive Use : Host → Host → Prop
  | op (h : Host) (op : Op Body) : Use h (op.apply.apply h).2
  | native {h h' : Host} (native : Builtin) (args : List Value) {result : Except Fault Value}
    (hrun : (Dispatch.runBuiltin Host.call native args).apply h = some (result, h')) : Use h h'
  | call {h h' : Host} (c : Call) {result : Except Fault Value}
    (hrun : (Host.call c).apply h = some (result, h')) : Use h h'
  | program {h h' : Host} (p : Program) {result : Except Fault Value}
    (hrun : (Host.runProgram p).apply h = some (result, h')) : Use h h'

/-- What may become of a host. -/
def Uses : Host → Host → Prop := ReflTransGen Use

theorem acts_call (hmay : ∀ d, may d) (c : Call) : Process.Acts may (Host.call c) :=
  Dispatch.acts_enter hmay Host.depth c

theorem acts_runProgram (hmay : ∀ d, may d) (p : Program) : Process.Acts may (Host.runProgram p) :=
  Dispatch.acts_runProgram hmay (acts_call hmay) p

theorem Use.effects (huse : h.Use h') : h.Effects (fun _ => True) h' := by
  cases huse with
  | op op => exact op.acts (fun _ _ => trivial) h
  | native native args hrun =>
    exact Dispatch.acts_runBuiltin (acts_call fun _ => trivial) native args h _ h' hrun
  | call c hrun => exact acts_call (fun _ => trivial) c h _ h' hrun
  | program p hrun => exact acts_runProgram (fun _ => trivial) p h _ h' hrun

/-- **Whatever is done to a host changes it by effects.** -/
theorem Uses.effects (huses : h.Uses h') : h.Effects (fun _ => True) h' := by
  induction huses with
  | refl => exact .refl
  | tail _ huse ih => exact ih.trans huse.effects

end Host

end GuestHost
