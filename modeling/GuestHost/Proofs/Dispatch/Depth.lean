import GuestHost.Proofs.Effects.Moments

/-!
# How deep calls may nest

The bound on how deep calls may nest only ever takes an outcome away. Where calls may nest deeper, a call
that had an outcome has the same one, so it makes sense to ask how a call ends without naming a bound.

* `Process.Below` — the one process has the outcomes of the other, with a law for every construction;
* `below_runProgram`, `below_step` — programs and calls, given the calls within;
* `below_enter` — one more level, by induction on the bound;
* `Host.CallEnds` — how a call ends, if calls may nest deep enough: `CallEnds.unique`.
-/

namespace GuestHost

/-! ## Processes -/

namespace Process

variable {α β : Type} {p q : Process α}

/-- Where the first process has an outcome, the second has the same. -/
def Below (p q : Process α) : Prop :=
  ∀ h result h', p.apply h = some (result, h') → q.apply h = some (result, h')

theorem Below.refl (p : Process α) : Below p p := fun _ _ _ hrun => hrun

theorem Below.trans {r : Process α} (hpq : Below p q) (hqr : Below q r) : Below p r :=
  fun h result h' hrun => hqr h result h' (hpq h result h' hrun)

/-- Two processes one after the other. -/
theorem Below.bind {f g : α → Process β} (hpq : Below p q) (hfg : ∀ x, Below (f x) (g x)) :
    Below (p >>= f) (q >>= g) := by
  intro h result h' hrun
  rw [apply_bind] at hrun ⊢
  cases hp : p.apply h with
  | none => simp [hp] at hrun
  | some outcome =>
    obtain ⟨fault | x, h₁⟩ := outcome
    · rw [hp] at hrun
      rw [hpq h _ _ hp]
      exact hrun
    · rw [hp] at hrun
      rw [hpq h _ _ hp]
      exact hfg x h₁ result h' hrun

end Process

open Process (Below)

namespace Dispatch

/-! ## Calls within a call -/

section

variable {call call' : Caller} (hcall : ∀ c, Below (call c) (call' c))

include hcall

/-- **Programs** have the outcomes that they have if the calls within do. -/
theorem below_runProgram : ∀ p : Program, Below (runProgram call p) (runProgram call' p)
  | .done r => Below.refl _
  | .perform op next => by
    intro h result h' hrun
    exact below_runProgram (next (op.apply.apply h).1) _ result h' hrun
  | .call c next => by
    intro h result h' hrun
    rw [apply_runProgram_call] at hrun ⊢
    cases hc : (call c).apply h with
    | none => simp [hc] at hrun
    | some outcome =>
      obtain ⟨answer, between⟩ := outcome
      rw [hc] at hrun
      rw [hcall c h _ _ hc]
      exact below_runProgram (next answer) between result h' hrun

/-- A native is run as a call, or has nothing to do with calls. -/
theorem below_runBuiltin (native : Builtin) (args : List Value) :
    Below (runBuiltin call native args) (runBuiltin call' native args) := by
  intro h result h' hrun
  have hfollows := follows_runBuiltin (h := h) native args
  rw [hfollows call call'] at hrun
  rw [hfollows call' call']
  cases hcalls : calls h native args with
  | none =>
    rw [hcalls] at hrun
    exact hrun
  | some c =>
    rw [hcalls] at hrun
    exact hcall c h result h' hrun

theorem below_runCode (code : NativeCode) (args : List Value) :
    Below (runCode call code args) (runCode call' code args) := by
  cases code with
  | builtin native => exact below_runBuiltin hcall native args
  | body body => exact below_runProgram hcall (body args)

theorem below_callPlainNative (owner key : String) (args : List Value) :
    Below (callPlainNative call owner key args) (callPlainNative call' owner key args) :=
  (Below.refl _).bind fun e => below_runCode hcall e.code args

theorem below_callStatic (cls : ClassId) (key : String) (args : List Value) :
    Below (callStatic call cls key args) (callStatic call' cls key args) := by
  refine (Below.refl _).bind fun h => ?_
  cases h.registry.findMethod? cls key .static with
  | some m => exact below_runProgram hcall (m.body args)
  | none =>
    cases nativeOwner? h cls key with
    | some owner => exact below_callPlainNative hcall owner key args
    | none => exact Below.refl _

theorem below_callOn (cls : ClassId) (receiver : Value) (key : String) (args : List Value) :
    Below (callOn call cls receiver key args) (callOn call' cls receiver key args) := by
  refine (Below.refl _).bind fun h => ?_
  cases h.registry.findMethod? cls key .onInstance with
  | some m => exact below_runProgram hcall (m.body (receiver :: args))
  | none =>
    cases nativeOwner? h cls key with
    | some owner => exact below_callPlainNative hcall owner key (receiver :: args)
    | none =>
      refine (Below.refl _).bind fun found => ?_
      cases found with
      | some t => exact hcall (.target t args)
      | none => exact Below.refl _

theorem below_callTarget (target : Target) (capture : List Value) :
    Below (callTarget call target capture) (callTarget call' target capture) := by
  obtain ⟨⟨owner, method, kind⟩, linking⟩ := target
  cases kind with
  | static => exact hcall (.static owner method (linking ++ capture))
  | constructor =>
    exact (Below.refl _).bind fun v =>
      (hcall (.special owner v method (linking ++ capture))).bind fun _ => Below.refl _
  | virtual | interface | special =>
    unfold callTarget
    cases linking ++ capture with
    | nil => exact Below.refl _
    | cons receiver rest => exact hcall (.virtual receiver method rest)

/-- A call has the outcomes that it has if the calls within do. -/
theorem below_step (c : Call) : Below (step call c) (step call' c) := by
  cases c with
  | native owner key args =>
    exact (Below.refl _).bind fun e => (Below.refl _).bind fun _ => below_runCode hcall e.code _
  | plainNative owner key args => exact below_callPlainNative hcall owner key args
  | static cls key args => exact below_callStatic hcall cls key args
  | virtual receiver key args =>
    exact (Below.refl _).bind fun cls => below_callOn hcall cls receiver key args
  | special cls receiver key args => exact below_callOn hcall cls receiver key args
  | target target capture => exact below_callTarget hcall target capture
  | newInstance cls =>
    exact (Below.refl _).bind fun init => (Below.refl _).bind fun v =>
      (below_runProgram hcall (init.body [v])).bind fun _ => Below.refl _

end

/-! ## The bound -/

theorem below_enter_succ (depth : Nat) (c : Call) : Below (enter depth c) (enter (depth + 1) c) := by
  induction depth generalizing c with
  | zero =>
    intro h result h' hrun
    cases hrun
  | succ depth ih => exact below_step ih c

/-- **A call that has an outcome has the same one where calls may nest deeper.** -/
theorem below_enter {depth depth' : Nat} (hle : depth ≤ depth') (c : Call) :
    Below (enter depth c) (enter depth' c) := by
  induction hle with
  | refl => exact Below.refl _
  | step _ ih => exact ih.trans (below_enter_succ _ c)

end Dispatch

/-! ## How calls end -/

namespace Host

open Dispatch

variable {h h' h₁ h₂ : Host} {c c' : Call} {result result₁ result₂ : Except Fault Value}

/-- A call ends with a result or a fault and leaves a host, if calls may nest deep enough. -/
def CallEnds (h : Host) (c : Call) (result : Except Fault Value) (h' : Host) : Prop :=
  ∃ depth, (enter depth c).apply h = some (result, h')

theorem callEnds_of_call (hrun : (Host.call c).apply h = some (result, h')) :
    h.CallEnds c result h' := ⟨Host.depth, hrun⟩

/-- **A call ends in one way.** -/
theorem CallEnds.unique (hends₁ : h.CallEnds c result₁ h₁) (hends₂ : h.CallEnds c result₂ h₂) :
    result₁ = result₂ ∧ h₁ = h₂ := by
  obtain ⟨depth₁, hrun₁⟩ := hends₁
  obtain ⟨depth₂, hrun₂⟩ := hends₂
  have hboth₁ := below_enter (Nat.le_max_left depth₁ depth₂) c h _ _ hrun₁
  have hboth₂ := below_enter (Nat.le_max_right depth₁ depth₂) c h _ _ hrun₂
  rw [hboth₁] at hboth₂
  exact Prod.ext_iff.1 (Option.some.inj hboth₂)

/-- Calls that are run alike end alike, even if one of them needs more levels. -/
theorem callEnds_congr (k k' : Nat)
    (hsame : ∀ depth, (enter (depth + k) c).apply h = (enter (depth + k') c').apply h) :
    h.CallEnds c result h' ↔ h.CallEnds c' result h' := by
  constructor
  · rintro ⟨depth, hrun⟩
    exact ⟨depth + k', hsame depth ▸ below_enter (Nat.le_add_right depth k) c h _ _ hrun⟩
  · rintro ⟨depth, hrun⟩
    exact ⟨depth + k, hsame depth ▸ below_enter (Nat.le_add_right depth k') c' h _ _ hrun⟩

end Host

end GuestHost
