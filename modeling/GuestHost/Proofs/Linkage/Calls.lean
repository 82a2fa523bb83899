import GuestHost.Proofs.Effects.Calls

/-!
# Effects are changes

Every effect on a host is a run of the small changes by which a host evolves, so whatever runs on a host,
the host evolves.

* `Effect.evolves`, `Effects.evolves` — one effect, and a run of them;
* `Acts.evolves` — every action that has no other effects;
* `evolves_runProgram` — every program.
-/

namespace GuestHost

/-- A write keeps the class of an object, and every payload that must not be replaced. -/
theorem Entry.Turns.becomes {e e' : Entry} (hturns : e.Turns e') : e.Becomes e' := by
  cases hturns with
  | field => exact .object rfl (.inl rfl)
  | @text o htakes =>
    refine .object rfl (.inr ?_)
    cases hpayload : o.payload with
    | empty | text => trivial
    | host | mirror | methodHandle | methodType | factory | lambda =>
      rw [hpayload] at htakes
      cases htakes
  | element => exact .array _ _

namespace Host

variable {h h' : Host} {may : Deed → Prop}

/-- One effect is a run of changes: a class object is added, and then kept with its class. -/
theorem Effect.evolves (heffect : Effect may h h') : ∃ made, h.Evolves made h' := by
  cases heffect with
  | array => exact ⟨[], .single (.alloc h _)⟩
  | object => exact ⟨[], .single (.alloc h _)⟩
  | mirror => exact ⟨_, (Evolves.single (.alloc h _)).tail (.registry (.setMirror _ _))⟩
  | write he hturns => exact ⟨[], .single (.write ⟨_, _, _, he, hturns.becomes, rfl⟩)⟩
  | @replace r o old hmay ho hold data =>
    have hbecomes : Entry.Becomes (.object o) (.object { o with payload := .host data }) :=
      .object rfl (.inr (by rw [hold]; trivial))
    exact ⟨[], .single (.write ⟨_, _, _, ho, hbecomes, rfl⟩)⟩
  | registry hstep => exact ⟨[], .single (.registry hstep)⟩
  | number => exact ⟨[], .single (.number h)⟩
  | bootstrap hf => exact ⟨_, .single (.bootstrap hf)⟩
  | link hs => exact ⟨_, .single (.link hs)⟩
  | files op => exact ⟨[], .single (.rest h _ h.attached h.surroundings)⟩
  | module m => exact ⟨[], .single (.rest h h.files _ h.surroundings)⟩
  | surroundings s => exact ⟨[], .single (.rest h h.files h.attached _)⟩

/-- **A run of effects is a run of changes.** -/
theorem Effects.evolves (heffects : Effects may h h') : ∃ made, h.Evolves made h' := by
  induction heffects with
  | refl => exact ⟨[], .refl h⟩
  | tail _ heffect ih =>
    obtain ⟨made, hrun⟩ := ih
    obtain ⟨made', hrun'⟩ := heffect.evolves
    exact ⟨made ++ made', hrun.trans hrun'⟩

end Host

theorem Action.Acts.evolves {α : Type} {a : Action α} (ha : Action.Acts (fun _ => True) a) :
    Action.Evolves a := fun h => (ha h).evolves

/-- Whatever guest code does, a host changes by a run of changes. -/
theorem Host.evolves_runProgram (p : Program) (h : Host) (result : Except Fault Value) (h' : Host)
    (hrun : (Host.runProgram p).apply h = some (result, h')) : ∃ made, h.Evolves made h' := by
  have heffects : h.Effects (fun _ => True) h' :=
    Host.acts_runProgram (fun _ => trivial) p h result h' hrun
  exact heffects.evolves

end GuestHost
