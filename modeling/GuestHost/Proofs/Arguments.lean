import Mathlib.Algebra.Group.Nat.Defs
import GuestHost.Natives.Arguments
import GuestHost.Proofs.Actions

/-!
# Laws of arguments

When a native has the argument that it looks for:

* `Args.get_eq_ok`, `Args.int_eq_ok`, `Args.index_eq_ok`, `Args.ints_eq_ok`, `Args.range_eq_ok`,
  `Args.text_eq_ok` — what each reading gives, and when;
* `Args.toOption_expectInt`, `Args.toOption_natOf`, `Args.toOption_range` — the same as a function, for
  readings of which only the result matters.
-/

namespace GuestHost

namespace Args

variable {args vs : List Value} {i : Nat}

/-- The argument at a place is there. -/
theorem get_eq_ok {v : Value} : get args i = .ok v ↔ args[i]? = some v := by
  unfold get
  cases args[i]? <;> simp

theorem expectInt_eq_ok {v : Value} {n : Int32} : v.expectInt = .ok n ↔ v = .int n := by
  cases v <;> simp [Value.expectInt, Value.toInt?, Value.orMismatch]

/-- The argument at a place is an int. -/
theorem int_eq_ok {n : Int32} : int args i = .ok n ↔ args[i]? = some (.int n) := by
  unfold int
  rw [← get_eq_ok]
  cases get args i with
  | error fault => simp [bind, Except.bind]
  | ok v => simp [bind, Except.bind, expectInt_eq_ok]

/-- The argument at a place is an int that is not negative. -/
theorem index_eq_ok {n : Nat} :
    index args i = .ok n ↔ ∃ p, args[i]? = some (.int p) ∧ 0 ≤ p ∧ p.toInt.toNat = n := by
  unfold index natOf
  simp only [← int_eq_ok]
  cases int args i with
  | error fault => simp [bind, Except.bind]
  | ok p => by_cases hp : p < 0 <;> simp [bind, Except.bind, hp, ← Int32.not_lt]

/-- The argument at a place has a text behind it. -/
theorem text_eq_ok {h h' : Host} {cs : List Char} : (text args i).apply h = (.ok cs, h') ↔
    (∃ v s, args[i]? = some v ∧ h.text v = .ok s ∧ s.toList = cs) ∧ h = h' := by
  unfold text
  constructor
  · intro htext
    obtain ⟨v, h₁, hget, htext⟩ := Action.apply_bind_eq_ok.1 htext
    obtain ⟨s, h₂, hview, hlast⟩ := Action.apply_bind_eq_ok.1 htext
    obtain ⟨hv, rfl⟩ := Action.apply_ofResult_eq_ok.1 hget
    obtain ⟨hs, rfl⟩ := Action.apply_view_eq_ok.1 hview
    cases hlast
    exact ⟨⟨v, s, get_eq_ok.1 hv, hs, rfl⟩, rfl⟩
  · rintro ⟨⟨v, s, hv, hs, rfl⟩, rfl⟩
    have hview : (Action.text v).apply h = (.ok s, h) := Action.apply_view_of_ok hs
    rw [get_eq_ok.2 hv]
    exact Action.apply_bind_of_ok hview _

/-- All values of a list are ints. -/
theorem ints_eq_ok {ns : List Int32} : ints vs = .ok ns ↔ vs = ns.map Value.int := by
  unfold ints
  induction vs generalizing ns with
  | nil => cases ns <;> simp [pure, Except.pure]
  | cons v rest ih =>
    rw [List.mapM_cons]
    cases ns with
    | nil =>
      cases v.expectInt <;> cases rest.mapM Value.expectInt <;>
        simp [bind, Except.bind, pure, Except.pure]
    | cons n ns =>
      rw [List.map_cons, List.cons.injEq, ← expectInt_eq_ok, ← ih]
      cases v.expectInt with
      | error fault => simp [bind, Except.bind]
      | ok m => cases rest.mapM Value.expectInt <;> simp [bind, Except.bind, pure, Except.pure]

theorem length_of_mapM {α β : Type} {f : α → Except Fault β} {xs : List α} {ys : List β}
    (h : xs.mapM f = .ok ys) : ys.length = xs.length := by
  induction xs generalizing ys with
  | nil =>
    cases h
    rfl
  | cons x rest ih =>
    rw [List.mapM_cons] at h
    cases hx : f x with
    | error fault => simp [hx, bind, Except.bind] at h
    | ok y =>
      cases hrest : rest.mapM f with
      | error fault => simp [hx, hrest, bind, Except.bind] at h
      | ok zs =>
        simp only [hx, hrest, bind, Except.bind, pure, Except.pure] at h
        cases h
        simp [ih hrest]

/-- A window lies within what it is a window of. -/
theorem range_eq_ok {offset count : Int32} {length start n : Nat} :
    range offset count length = .ok (start, n) ↔
      0 ≤ offset ∧ 0 ≤ count ∧ start = offset.toInt.toNat ∧ n = count.toInt.toNat ∧
        start + n ≤ length := by
  unfold range
  split
  · next hrange =>
    simp only [Except.ok.injEq, Prod.mk.injEq]
    constructor
    · rintro ⟨rfl, rfl⟩
      exact ⟨hrange.1, hrange.2.1, rfl, rfl, hrange.2.2⟩
    · rintro ⟨-, -, rfl, rfl, -⟩
      exact ⟨rfl, rfl⟩
  · next hrange =>
    simp only [reduceCtorEq, false_iff]
    rintro ⟨hoffset, hcount, rfl, rfl, hle⟩
    exact hrange ⟨hoffset, hcount, hle⟩

theorem toOption_expectInt (v : Value) : v.expectInt.toOption = v.toInt? := by
  unfold Value.expectInt Value.orMismatch
  cases v.toInt? <;> rfl

theorem toOption_natOf (i : Int32) (fault : Int32 → BadArgument) :
    (natOf i fault).toOption = if 0 ≤ i.toInt then some i.toInt.toNat else none := by
  have hiff : i < 0 ↔ ¬ 0 ≤ i.toInt := by
    rw [Int32.lt_iff_toInt_lt, Int.not_le]
    rfl
  unfold natOf
  by_cases h : 0 ≤ i.toInt
  · rw [if_neg (fun hneg => hiff.1 hneg h), if_pos h]
    rfl
  · rw [if_pos (hiff.2 h), if_neg h]
    rfl

theorem toOption_range (offset count : Int32) (length : Nat) :
    (range offset count length).toOption
      = if 0 ≤ offset.toInt ∧ 0 ≤ count.toInt ∧
          offset.toInt.toNat + count.toInt.toNat ≤ length then
          some (offset.toInt.toNat, count.toInt.toNat)
        else none := by
  unfold range
  simp only [Int32.le_iff_toInt_le, Int32.toInt_zero]
  split <;> rfl

end Args

end GuestHost
