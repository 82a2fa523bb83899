import GuestHost.Proofs.Dispatch.Kinds
import GuestHost.Proofs.Effects.Instances
import GuestHost.Proofs.Linkage.Atomicity

/-!
# The moments of a run

What guest code does on the way is more than what is left of the host in the end. A moment of a run is a
task, and the host as the task finds it: a call that is made, the code of a native that is run, or a
program with what is left of it to do. One moment leads to another, as programs go on and calls nest.

* `Task`, `Dispatch.runTask` — what may run, and how it is run;
* `Dispatch.leads`, `Dispatch.calls` — what a call leads to, and the call that a native makes, with
  `left_step` and `follows_runBuiltin`: so it is run;
* `Moment`, `Moment.Goes`, `Moment.Passes` — moments, and those that a run passes;
* `Moment.effects_of_run`, `Moment.effects_of_passes` — if only some deeds are asked for at the moments
  that a run passes, only these are done by then.
-/

namespace GuestHost

open Relation (ReflTransGen)

/-- Something that runs on a host. -/
inductive Task
  /-- A call. -/
  | call (c : Call)
  /-- The code of a native, with its arguments. -/
  | code (code : NativeCode) (args : List Value)
  /-- A program. -/
  | program (p : Program)

/-- The host that a process leaves, if it has an outcome. -/
def Process.left {α : Type} (p : Process α) (h : Host) : Option Host := (p.apply h).map (·.2)

namespace Process

variable {α β : Type} {p : Process α} {h : Host}

theorem left_bind (p : Process α) (f : α → Process β) : (p >>= f).left h = match p.apply h with
    | none => none
    | some (.ok x, h') => (f x).left h'
    | some (.error _, h') => some h' := by
  unfold left
  rw [apply_bind]
  rcases p.apply h with _ | ⟨_ | x, h'⟩ <;> rfl

/-- Another result does not make another host. -/
theorem left_then (p : Process α) (y : β) : (p >>= fun _ => pure y).left h = p.left h := by
  rw [left_bind]
  unfold left
  rcases p.apply h with _ | ⟨_ | x, h'⟩ <;> rfl

theorem left_toProcess (a : Action α) : a.toProcess.left h = some (a.apply h).2 := rfl

theorem left_toProcess_bind (a : Action α) (f : α → Process β) :
    (a.toProcess >>= f).left h = match a.apply h with
      | (.ok x, h') => (f x).left h'
      | (.error _, h') => some h' := by
  rw [left_bind, apply_toProcess]
  rcases a.apply h with ⟨_ | x, h'⟩ <;> rfl

end Process

namespace Dispatch

variable {call other : Caller} {h h' : Host} {args : List Value}

/-- Runs a task, given the way in which calls are made. -/
def runTask (call : Caller) : Task → Process Value
  | .call c => call c
  | .code code args => runCode call code args
  | .program p => runProgram call p

/-! ## What calls lead to -/

/-- What a call with a receiver leads to, from a class: the code that is found, or the target of a
lambda. -/
def leadsOn (h : Host) (cls : ClassId) (receiver : Value) (key : String) (args : List Value) :
    Option (Task × Host) :=
  match found? h cls key .onInstance with
  | some e => some (.code e.code (receiver :: args), h)
  | none =>
    match target? h receiver with
    | .ok (some t) => some (.call (.target t args), h)
    | _ => none

/-- What a call on the receiver's class leads to. -/
def leadsVirtual (h : Host) (receiver : Value) (key : String) (args : List Value) :
    Option (Task × Host) :=
  match h.classOf receiver with
  | .ok cls => leadsOn h cls receiver key args
  | .error _ => none

/-- What the making of a new instance leads to: the instance is allocated, and its initializer runs. -/
def leadsNew (h : Host) (cls : ClassId) : Option (Task × Host) :=
  match initializer h cls with
  | .error _ => none
  | .ok init =>
    match (Action.allocate cls).apply h with
    | (.ok v, h') => some (.program (init.body [v]), h')
    | (.error _, _) => none

/-- What the call of a target leads to. -/
def leadsTo (h : Host) (target : Target) (capture : List Value) : Option (Task × Host) :=
  let handle := target.handle
  let all := target.linking ++ capture
  match handle.kind with
  | .static => some (.call (.static handle.owner handle.method all), h)
  | .constructor =>
    match (Action.allocate handle.owner).apply h with
    | (.ok v, h') => some (.call (.special handle.owner v handle.method all), h')
    | (.error _, _) => none
  | _ =>
    match all with
    | receiver :: rest => some (.call (.virtual receiver handle.method rest), h)
    | [] => none

/-- What a call leads to, and the host as it is then; nothing, if the call meets a fault at once. -/
def leads (h : Host) : Call → Option (Task × Host)
  | .native owner key args =>
    (h.imports.find? owner key).map fun e => (.code e.code (nativeArguments h.mode e.kind args), h)
  | .plainNative owner key args => (h.imports.find? owner key).map fun e => (.code e.code args, h)
  | .static cls key args => (found? h cls key .static).map fun e => (.code e.code args, h)
  | .virtual receiver key args => leadsVirtual h receiver key args
  | .special cls receiver key args => leadsOn h cls receiver key args
  | .target target capture => leadsTo h target capture
  | .newInstance cls => leadsNew h cls

/-- A run of a task, or nothing at all, leaves a host. -/
def leftOf (call : Caller) (h : Host) : Option (Task × Host) → Option Host
  | some (task, h') => (runTask call task).left h'
  | none => some h

/-- A native that is looked up runs, with arguments of its own. -/
theorem left_resolved (owner key : String) (run : Import NativeCode → Process Value)
    (args : Import NativeCode → List Value)
    (hrun : ∀ e, (run e).left h = (runCode call e.code (args e)).left h) :
    ((Action.view fun h => h.imports.resolve owner key).toProcess >>= run).left h
      = leftOf call h ((h.imports.find? owner key).map fun e => (.code e.code (args e), h)) := by
  rw [Process.left_toProcess_bind, Action.apply_view]
  unfold Imports.resolve
  cases h.imports.find? owner key with
  | none => rfl
  | some e => exact hrun e

/-- A method that is missing changes nothing. -/
theorem left_missing (cls : ClassId) (key : String) :
    (missing cls key : Action Value).toProcess.left h = some h := by
  have hreads : Action.ReadsOnly (missing cls key : Action Value) :=
    (Action.readsOnly_view _).bind fun c => Action.readsOnly_ofResult _
  rw [Process.left_toProcess, hreads h]

theorem left_static (cls : ClassId) (key : String) (args : List Value) :
    (step call (.static cls key args)).left h
      = leftOf call h ((found? h cls key .static).map fun e => (.code e.code args, h)) := by
  unfold Process.left
  rw [apply_static]
  cases found? h cls key .static with
  | some e => rfl
  | none => exact left_missing cls key

theorem left_special (cls : ClassId) (receiver : Value) (key : String) (args : List Value) :
    (step call (.special cls receiver key args)).left h
      = leftOf call h (leadsOn h cls receiver key args) := by
  unfold Process.left leadsOn
  rw [apply_special]
  cases found? h cls key .onInstance with
  | some e => rfl
  | none =>
    show (forward call cls receiver key args).left h = _
    unfold forward
    rw [Process.left_bind, Process.apply_get]
    show ((Action.ofResult (target? h receiver)).toProcess >>= _).left h = _
    rw [Process.left_toProcess_bind, Action.apply_ofResult]
    rcases target? h receiver with _ | _ | t
    · rfl
    · exact left_missing cls key
    · rfl

theorem left_virtual (receiver : Value) (key : String) (args : List Value) :
    (step call (.virtual receiver key args)).left h
      = leftOf call h (leadsVirtual h receiver key args) := by
  unfold Process.left leadsVirtual
  rw [apply_virtual]
  cases h.classOf receiver with
  | ok cls => exact left_special cls receiver key args
  | error fault => rfl

/-- What follows an allocation runs with what was allocated, and its result does not matter. -/
theorem left_allocated (cls : ClassId) (run : Value → Process Value) (task : Value → Task)
    (hrun : ∀ v, runTask call (task v) = run v) :
    ((Action.allocate cls).toProcess >>= fun v => run v >>= fun _ => pure v).left h
      = leftOf call h (match (Action.allocate cls).apply h with
        | (.ok v, h') => some (task v, h')
        | (.error _, _) => none) := by
  rw [Process.left_toProcess_bind]
  rcases hv : (Action.allocate cls).apply h with ⟨fault | v, h'⟩
  · have hsame : h' = h := Action.atomic_allocate cls h fault h' hv
    exact congrArg some hsame
  · show (run v >>= fun _ => pure v).left h' = (runTask call (task v)).left h'
    rw [Process.left_then, hrun]

theorem left_target (target : Target) (capture : List Value) :
    (step call (.target target capture)).left h = leftOf call h (leadsTo h target capture) := by
  show (callTarget call target capture).left h = _
  obtain ⟨⟨owner, method, kind⟩, linking⟩ := target
  cases kind with
  | static => rfl
  | constructor =>
    exact left_allocated owner (fun v => call (.special owner v method (linking ++ capture)))
      (fun v => .call (.special owner v method (linking ++ capture))) fun v => rfl
  | virtual | interface | special =>
    unfold callTarget leadsTo
    cases linking ++ capture with
    | nil => rfl
    | cons receiver rest => rfl

theorem left_newInstance (cls : ClassId) :
    (step call (.newInstance cls)).left h = leftOf call h (leadsNew h cls) := by
  show (makeInstance call cls).left h = _
  unfold makeInstance leadsNew
  rw [Process.left_toProcess_bind, Action.apply_view]
  cases initializer h cls with
  | error fault => rfl
  | ok init =>
    exact left_allocated cls (fun v => runProgram call (init.body [v]))
      (fun v => .program (init.body [v])) fun v => rfl

/-- **What calls lead to** is what they run: a call leaves the host that it leads to leaves, and if it
leads to nothing, it leaves the host as it is. -/
theorem left_step (c : Call) : (step call c).left h = leftOf call h (leads h c) := by
  cases c with
  | native owner key args =>
    exact left_resolved owner key _ (fun e => nativeArguments h.mode e.kind args) fun e => rfl
  | plainNative owner key args => exact left_resolved owner key _ (fun _ => args) fun e => rfl
  | static cls key args => exact left_static cls key args
  | virtual receiver key args => exact left_virtual receiver key args
  | special cls receiver key args => exact left_special cls receiver key args
  | target target capture => exact left_target target capture
  | newInstance cls => exact left_newInstance cls

/-! ## Calls that natives make -/

/-- The call that a native of the host makes, if it makes one. -/
def calls (h : Host) : Builtin → List Value → Option Call
  | .newInstance, args => do
    let v ← (Args.get args 0).toOption
    let cls ← (h.mirroredClass v).toOption
    return .newInstance cls
  | .invokeHandle, args => do
    let handle ← (Args.get args 0).toOption
    let r ← handle.expectObject.toOption
    let values ← ((handleArguments args).apply h).1.toOption
    let o ← (h.heap.object r).toOption
    match o.payload with
    | .methodHandle handle => return .target ⟨handle, []⟩ values
    | _ => none
  | _, _ => none

/-- However calls are made, the process is run as a call, or its run has nothing to do with calls. -/
def Follows (run : Caller → Process Value) (h : Host) (c? : Option Call) : Prop :=
  ∀ call other, (run call).apply h = match c? with
    | some c => (call c).apply h
    | none => (run other).apply h

/-- What is read comes first. -/
theorem Follows.read {α : Type} {a : Action α} (ha : Action.ReadsOnly a)
    {run : Caller → α → Process Value} {c? : α → Option Call}
    (hrun : ∀ x, Follows (fun call => run call x) h (c? x)) :
    Follows (fun call => a.toProcess >>= run call) h ((a.apply h).1.toOption.bind c?) := by
  intro call other
  simp only [Process.apply_bind, Process.apply_toProcess]
  rcases ha.result_or_refuses h with ⟨x, hx⟩ | ⟨fault, hx⟩
  · rw [hx]
    exact hrun x call other
  · rw [hx]
    rfl

theorem follows_call (c : Call) : Follows (fun call => call c) h (some c) := fun _ _ => rfl

theorem follows_none (p : Process Value) : Follows (fun _ => p) h none := fun _ _ => rfl

/-- **A native that makes a call** is run as the call; the run of one that makes none has nothing to do
with calls. -/
theorem follows_runBuiltin (native : Builtin) (args : List Value) :
    Follows (fun call => runBuiltin call native args) h (calls h native args) := by
  cases native with
  | newInstance =>
    exact .read (Action.readsOnly_ofResult _) fun v => .read (Action.readsOnly_view _) fun cls =>
      follows_call (.newInstance cls)
  | invokeHandle =>
    refine .read (Action.readsOnly_ofResult _) fun handle => .read (Action.readsOnly_ofResult _) fun r =>
      .read (readsOnly_handleArguments args) fun values => .read (Action.readsOnly_view _) fun o => ?_
    cases o.payload with
    | methodHandle handle => exact follows_call (.target ⟨handle, []⟩ values)
    | empty | text | host | mirror | methodType | factory | lambda => exact follows_none _
  | _ => exact follows_none _

end Dispatch

/-! ## Moments -/

/-- A moment of a run: a task, and the host that it finds. Calls within it may nest less than `depth`
deep. -/
structure Moment where
  depth : Nat
  task : Task
  host : Host

namespace Moment

open Dispatch

variable {may : Deed → Prop} {m m' : Moment}

/-- The outcome of what runs from a moment on. -/
def run (m : Moment) : Option (Except Fault Value × Host) :=
  (runTask (enter m.depth) m.task).apply m.host

/-- What comes next: a program goes on after an operation and after a call, and the call itself is a
moment of its own; code is run, and calls lead to what they find. -/
inductive Goes : Moment → Moment → Prop
  | performed {depth : Nat} (op : Op Body) (next : Except Fault Reply → Program) (h : Host) :
    Goes ⟨depth, .program (.perform op next), h⟩
      ⟨depth, .program (next (op.apply.apply h).1), (op.apply.apply h).2⟩
  | entered {depth : Nat} (c : Call) (next : Except Fault Value → Program) (h : Host) :
    Goes ⟨depth, .program (.call c next), h⟩ ⟨depth, .call c, h⟩
  | returned {depth : Nat} {c : Call} {next : Except Fault Value → Program} {h h' : Host}
    {answer : Except Fault Value} (hc : (enter depth c).apply h = some (answer, h')) :
    Goes ⟨depth, .program (.call c next), h⟩ ⟨depth, .program (next answer), h'⟩
  | body {depth : Nat} (body : Body) (args : List Value) (h : Host) :
    Goes ⟨depth, .code (.body body) args, h⟩ ⟨depth, .program (body args), h⟩
  | native {depth : Nat} {native : Builtin} {args : List Value} {h : Host} {c : Call}
    (hc : calls h native args = some c) :
    Goes ⟨depth, .code (.builtin native) args, h⟩ ⟨depth, .call c, h⟩
  | led {depth : Nat} {c : Call} {h h' : Host} {task : Task} (hled : leads h c = some (task, h')) :
    Goes ⟨depth + 1, .call c, h⟩ ⟨depth, task, h'⟩

/-- A run that begins at one moment passes another. -/
def Passes : Moment → Moment → Prop := ReflTransGen Goes

/-- A program that has ended passes no other moment. -/
theorem passes_done_iff {depth : Nat} {r : Except Fault Value} {h : Host} :
    Passes ⟨depth, .program (.done r), h⟩ m ↔ m = ⟨depth, .program (.done r), h⟩ := by
  constructor
  · intro hpasses
    rcases ReflTransGen.cases_head hpasses with heq | ⟨_, hgoes, -⟩
    · exact heq.symm
    · cases hgoes
  · rintro rfl
    exact .refl

/-- A program that asks for an operation passes what it passes after it. -/
theorem passes_perform_iff {depth : Nat} {op : Op Body} {next : Except Fault Reply → Program}
    {h : Host} : Passes ⟨depth, .program (.perform op next), h⟩ m ↔
      m = ⟨depth, .program (.perform op next), h⟩ ∨
        Passes ⟨depth, .program (next (op.apply.apply h).1), (op.apply.apply h).2⟩ m := by
  constructor
  · intro hpasses
    rcases ReflTransGen.cases_head hpasses with heq | ⟨_, hgoes, hrest⟩
    · exact .inl heq.symm
    · cases hgoes
      exact .inr hrest
  · rintro (rfl | hrest)
    · exact .refl
    · exact .head (.performed op next h) hrest

/-- Whatever operation is asked for at the moment, only some deeds are asked for. -/
def Asks (may : Deed → Prop) (m : Moment) : Prop :=
  ∀ op next, m.task = .program (.perform op next) → ∀ d, op.deed? = some d → may d

variable {depth : Nat}

/-- If only some deeds are asked for on the way, only these are done in the end. -/
def Keeps (may : Deed → Prop) (m : Moment) : Prop :=
  (∀ m', m.Passes m' → m'.Asks may) → ∀ result h', m.run = some (result, h') → m.host.Effects may h'

theorem keeps_program (hcall : ∀ c h, Keeps may ⟨depth, .call c, h⟩) :
    ∀ p h, Keeps may ⟨depth, .program p, h⟩
  | .done r, h => by
    rintro - result h' hrun
    cases hrun
    exact .refl
  | .perform op next, h => by
    intro hasks result h' hrun
    have hop : h.Effects may (op.apply.apply h).2 := op.acts (hasks _ .refl op next rfl) h
    refine hop.trans (keeps_program hcall (next (op.apply.apply h).1) _ ?_ result h' hrun)
    intro m' hpasses
    exact hasks m' (.head (.performed op next h) hpasses)
  | .call c next, h => by
    intro hasks result h' hrun
    have hrun' : (runProgram (enter depth) (.call c next)).apply h = some (result, h') := hrun
    rw [apply_runProgram_call] at hrun'
    cases hc : (enter depth c).apply h with
    | none => simp [hc] at hrun'
    | some outcome =>
      obtain ⟨answer, between⟩ := outcome
      rw [hc] at hrun'
      have hfirst : h.Effects may between :=
        hcall c h (fun m' hpasses => hasks m' (.head (.entered c next h) hpasses)) answer between hc
      refine hfirst.trans (keeps_program hcall (next answer) between ?_ result h' hrun')
      intro m' hpasses
      exact hasks m' (.head (.returned hc) hpasses)

theorem keeps_code (hcall : ∀ c h, Keeps may ⟨depth, .call c, h⟩) (code : NativeCode)
    (args : List Value) (h : Host) : Keeps may ⟨depth, .code code args, h⟩ := by
  intro hasks result h' hrun
  cases code with
  | body body =>
    exact keeps_program hcall (body args) h
      (fun m' hpasses => hasks m' (.head (.body body args h) hpasses)) result h' hrun
  | builtin native =>
    have hrun' : (runBuiltin (enter depth) native args).apply h = some (result, h') := hrun
    rw [follows_runBuiltin native args _ fun _ => Process.tooDeep] at hrun'
    cases hc : calls h native args with
    | none =>
      rw [hc] at hrun'
      exact acts_runBuiltin (fun _ => Host.acts_tooDeep) native args h result h' hrun'
    | some c =>
      rw [hc] at hrun'
      exact hcall c h (fun m' hpasses => hasks m' (.head (.native hc) hpasses)) result h' hrun'

section

variable {h h' : Host} {task : Task} {args : List Value}

/-- A call with a receiver leads to what it finds on the same host. -/
theorem eq_of_leadsOn {cls : ClassId} {receiver : Value} {key : String}
    (hled : leadsOn h cls receiver key args = some (task, h')) : h' = h := by
  unfold leadsOn at hled
  split at hled
  · cases hled
    rfl
  · split at hled
    · cases hled
      rfl
    · cases hled

theorem effects_of_allocate {cls : ClassId} {v : Value}
    (hv : (Action.allocate cls).apply h = (.ok v, h')) : h.Effects may h' := by
  have hacts : h.Effects may ((Action.allocate cls).apply h).2 := Action.acts_allocate cls h
  rwa [hv] at hacts

theorem effects_of_leadsTo {target : Target} (hled : leadsTo h target args = some (task, h')) :
    h.Effects may h' := by
  obtain ⟨⟨owner, method, kind⟩, linking⟩ := target
  cases kind with
  | static =>
    cases hled
    exact .refl
  | constructor =>
    simp only [leadsTo] at hled
    split at hled
    · rename_i hv
      cases hled
      exact effects_of_allocate hv
    · cases hled
  | virtual | interface | special =>
    simp only [leadsTo] at hled
    split at hled
    · cases hled
      exact .refl
    · cases hled

theorem effects_of_leadsNew {cls : ClassId} (hled : leadsNew h cls = some (task, h')) :
    h.Effects may h' := by
  unfold leadsNew at hled
  split at hled
  · cases hled
  · split at hled
    · rename_i hv
      cases hled
      exact effects_of_allocate hv
    · cases hled

/-- A call leads to what it finds on the same host, or after an allocation. -/
theorem effects_of_leads {c : Call} (hled : leads h c = some (task, h')) : h.Effects may h' := by
  cases c with
  | native | plainNative | static =>
    obtain ⟨e, -, he⟩ := Option.map_eq_some_iff.1 hled
    cases he
    exact .refl
  | virtual receiver key args =>
    have hled : leadsVirtual h receiver key args = some (task, h') := hled
    unfold leadsVirtual at hled
    split at hled
    · rw [eq_of_leadsOn hled]
      exact .refl
    · cases hled
  | special cls receiver key args =>
    rw [eq_of_leadsOn hled]
    exact .refl
  | target target capture => exact effects_of_leadsTo hled
  | newInstance cls => exact effects_of_leadsNew hled

end

/-- By induction on how deep calls may nest. -/
theorem keeps_call : ∀ c h, Keeps may ⟨depth, .call c, h⟩ := by
  induction depth with
  | zero =>
    intro c h hasks result h' hrun
    cases hrun
  | succ depth ih =>
    intro c h hasks result h' hrun
    have hleft : leftOf (enter depth) h (leads h c) = some h' := by
      rw [← left_step]
      exact congrArg (Option.map (·.2)) hrun
    cases hled : leads h c with
    | none =>
      rw [hled] at hleft
      cases hleft
      exact .refl
    | some led =>
      obtain ⟨task, between⟩ := led
      rw [hled] at hleft
      obtain ⟨⟨result', _⟩, hrun', rfl⟩ := Option.map_eq_some_iff.1 hleft
      refine (effects_of_leads hled).trans ?_
      have hkeeps : Keeps may ⟨depth, task, between⟩ := by
        cases task with
        | call c => exact ih c between
        | code code args => exact keeps_code ih code args between
        | program p => exact keeps_program ih p between
      exact hkeeps (fun m' hpasses => hasks m' (.head (.led hled) hpasses)) result' _ hrun'

/-- **What is done in the end** is what is asked for on the way: if only some deeds are asked for at the
moments that a run passes, the run changes the host by effects that do no other deeds. -/
theorem effects_of_run (m : Moment) : m.Keeps may := by
  obtain ⟨depth, task, h⟩ := m
  cases task with
  | call c => exact keeps_call c h
  | code code args => exact keeps_code keeps_call code args h
  | program p => exact keeps_program keeps_call p h

/-- One step on the way. -/
theorem effects_of_goes (hasks : ∀ m', m.Passes m' → m'.Asks may) (hgoes : m.Goes m') :
    m.host.Effects may m'.host := by
  cases hgoes with
  | performed op next h => exact op.acts (hasks _ .refl op next rfl) h
  | entered | body | native => exact .refl
  | @returned depth c next h h' answer hc =>
    exact keeps_call c h (fun m' hpasses => hasks m' (.head (.entered c next h) hpasses)) answer h' hc
  | led hled => exact effects_of_leads hled

/-- **What is done by the time** that a moment is passed, likewise. -/
theorem effects_of_passes (hasks : ∀ m', m.Passes m' → m'.Asks may) (hpasses : m.Passes m') :
    m.host.Effects may m'.host := by
  induction hpasses with
  | refl => exact .refl
  | @tail between last hpasses hgoes ih =>
    exact ih.trans (effects_of_goes (fun m' hpasses' => hasks m' (hpasses.trans hpasses')) hgoes)

end Moment

end GuestHost
