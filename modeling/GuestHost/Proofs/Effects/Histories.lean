import GuestHost.Proofs.Effects.Moments

/-!
# Histories of a host

What becomes of a host is a history of things that happen to it, one after the other: operations, runs that
come to an end, and calls that have begun. Histories also lead into the midst of a run, so whatever holds
after every history holds at every moment, of guest code that is still running too.

* `Host.Happens`, `Host.History` — what happens where only some deeds are asked for, and histories of it;
* `Host.History.effects` — a history has the effects of what happens in it;
* `Host.history_of_passes`, `Host.history_of_use` — moments that a run passes, and a use from outside.
-/

namespace GuestHost.Host

open Relation (ReflTransGen)

variable {h h' h'' : Host} {may : Deed → Prop}

/-- One thing that happens to a host, from outside or in the midst of guest code, where only some deeds are
asked for: an operation, a task that runs to its end, or a call that leads to what it runs. -/
inductive Happens (may : Deed → Prop) : Host → Host → Prop
  | op (h : Host) (op : Op Body) (hop : ∀ d, op.deed? = some d → may d) :
    Happens may h (op.apply.apply h).2
  | run {m : Moment} {h' : Host} {result : Except Fault Value} (hasks : ∀ m', m.Passes m' → m'.Asks may)
    (hrun : m.run = some (result, h')) : Happens may m.host h'
  | led {h h' : Host} {c : Call} {task : Task} (hled : Dispatch.leads h c = some (task, h')) :
    Happens may h h'

/-- What becomes of a host where only some deeds are asked for. -/
def History (may : Deed → Prop) : Host → Host → Prop := ReflTransGen (Happens may)

theorem History.trans (hfirst : h.History may h') (hthen : h'.History may h'') : h.History may h'' :=
  ReflTransGen.trans hfirst hthen

/-- What happens has only the effects of what is asked for. -/
theorem Happens.effects (hhappens : Happens may h h') : h.Effects may h' := by
  cases hhappens with
  | op _ request hop => exact request.acts hop h
  | @run m _ result hasks hrun => exact m.effects_of_run hasks result h' hrun
  | led hled => exact Moment.effects_of_leads hled

/-- **A history has only the effects of what is asked for.** -/
theorem History.effects (hrun : h.History may h') : h.Effects may h' := by
  induction hrun with
  | refl => exact .refl
  | tail _ hhappens ih => exact ih.trans hhappens.effects

/-! ## Any deeds -/

/-- A run that comes to an end is a history. -/
theorem history_of_run {m : Moment} {result : Except Fault Value} (hrun : m.run = some (result, h')) :
    m.host.History (fun _ => True) h' :=
  .single (.run (fun _ _ _ _ _ _ _ => trivial) hrun)

theorem history_of_use (huse : h.Use h') : h.History (fun _ => True) h' := by
  cases huse with
  | op op => exact .single (.op h op fun _ _ => trivial)
  | native native args hrun =>
    exact history_of_run (m := ⟨depth, .code (.builtin native) args, h⟩) hrun
  | call c hrun => exact history_of_run (m := ⟨depth, .call c, h⟩) hrun
  | program p hrun => exact history_of_run (m := ⟨depth, .program p, h⟩) hrun

end GuestHost.Host
