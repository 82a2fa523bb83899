import GuestHost.Proofs.Registry.Subtyping
import GuestHost.Proofs.Registry.WellFormed

/-!
# Adapters and what they stand in for

Instances of an interface that the host makes on its own are of an adapter. An adapter is a class, and
answers for its interface; the instances of any other type are of the type itself. Either class answers for
no more than it must.

* `Registry.isInterface?_of_run`, `Registry.Reachable.isInterface?_of_adapter` — what is an interface stays
  one, and adapters never are;
* `Registry.StandsIn` — a class answers for a type, and for no more than it must: `standsIn_self`,
  `standsIn_of_adapter`;
* `Registry.Concrete` — the class that instances of a type have, and the registry with it.
-/

namespace GuestHost.Registry

open Relation (ReflTransGen)

variable {β : Type} {r r' : Registry β} {a b cls id target : ClassId} {kind : AdapterKind}

/-! ## Interfaces and adapters -/

/-- A class that is registered stays an interface, or stays none. -/
theorem Step.isInterface? (hstep : Step r r') (ha : a < r.size) :
    r'.isInterface? a = r.isInterface? a := by
  have hadds : ∀ {record r'}, r.Adds record r' → r'.isInterface? a = r.isInterface? a := by
    intro record r' hadds
    rw [hadds.isInterface?, if_neg (Nat.ne_of_lt ha)]
  cases hstep with
  | register hmade => exact hadds (adds_of_registerAs hmade)
  | adapter hmade =>
    rcases adapter_eq_ok_iff.1 hmade with ⟨-, rfl⟩ | ⟨-, -, name, made, -, hregister, rfl⟩
    · rfl
    · have hmade : made.isInterface? a = r.isInterface? a := hadds (adds_of_registerAs hregister)
      exact hmade
  | describe hmade =>
    obtain ⟨-, -, ⟨-, rfl⟩ | ⟨-, -, rfl⟩⟩ := describe_eq_ok hmade
    · rfl
    · exact map_get?_update _ fun _ => rfl
  | setStatic | setMirror => exact map_get?_update _ fun _ => rfl

theorem isInterface?_of_run (hsteps : ReflTransGen Step r r') (ha : a < r.size) :
    r'.isInterface? a = r.isInterface? a := by
  induction hsteps with
  | refl => rfl
  | tail hsteps hstep ih =>
    exact (hstep.isInterface? (Nat.lt_of_lt_of_le ha (grows_of_run hsteps).size)).trans ih

/-- An adapter is declared as a class. -/
theorem isInterface_adapterDeclaration (kind : AdapterKind) (target : ClassId) (name : String) :
    ((adapterDeclaration kind target name : Declaration β).record (some rootClass)
      (.adapter kind)).isInterface = false := by
  simp [adapterDeclaration, Declaration.record, ClassRecord.isInterface]

/-- An adapter that is there after a step was there before, or is made now, as a class. -/
theorem Step.adapter_of_get? (hstep : Step r r') (hmade : r'.adapters.get? (kind, target) = some id) :
    r.adapters.get? (kind, target) = some id ∨ r'.isInterface? id = some false := by
  cases hstep with
  | register hregister =>
    obtain ⟨-, -, -, rfl⟩ := registerAs_eq_ok_iff.1 hregister
    exact .inl hmade
  | adapter hadapter =>
    rcases adapter_eq_ok_iff.1 hadapter with ⟨-, rfl⟩ | ⟨-, -, name, made, -, hregister, rfl⟩
    · exact .inl hmade
    · have hadds := adds_of_registerAs hregister
      obtain ⟨-, -, rfl, hsame⟩ := registerAs_eq_ok_iff.1 hregister
      have hadapters : made.adapters = r.adapters := by rw [hsame]
      have hplain : made.isInterface? r.size = some false := by
        rw [hadds.isInterface?, if_pos rfl, isInterface_adapterDeclaration]
      rw [Dict.get?_set] at hmade
      split at hmade
      · cases hmade
        exact .inr hplain
      · rw [hadapters] at hmade
        exact .inl hmade
  | describe hdescribe =>
    obtain ⟨-, -, ⟨-, rfl⟩ | ⟨-, -, rfl⟩⟩ := describe_eq_ok hdescribe
    · exact .inl hmade
    · exact .inl hmade
  | setStatic | setMirror => exact .inl hmade

/-- **Adapters are no interfaces.** -/
theorem Reachable.isInterface?_of_adapter (h : r.Reachable)
    (hmade : r.adapters.get? (kind, target) = some id) : r.isInterface? id = some false := by
  induction h with
  | refl => cases hmade
  | tail hsteps hstep ih =>
    rcases hstep.adapter_of_get? hmade with hold | hnew
    · have hsize := ((Reachable.sound hsteps).adapted hold).1
      exact (hstep.isInterface? hsize).trans (ih hold)
    · exact hnew

/-! ## What a class answers for -/

/-- The instances of a class answer for a type, and for nothing that the type does not reach but for the root
class and the class itself. -/
structure StandsIn (r : Registry β) (cls target : ClassId) : Prop where
  type : r.Supports cls target
  root : r.Supports cls rootClass
  only : ∀ b, r.Supports cls b → b ∈ r.ancestry target ∨ b = rootClass ∨ b = cls

theorem standsIn_self (h : r.Sound) (htarget : target < r.size) : r.StandsIn target target where
  type := (supports_iff h).2 ⟨htarget, .inr ⟨target, .refl, .refl⟩⟩
  root := (supports_iff h).2 ⟨htarget, .inl rfl⟩
  only b hb := by
    obtain ⟨-, hroot | hreach⟩ := (supports_iff h).1 hb
    · exact .inr (.inl hroot)
    · exact .inl (mem_ancestry.2 hreach)

theorem standsIn_of_adapter (h : r.Sound) (hmade : r.adapters.get? (kind, target) = some cls) :
    r.StandsIn cls target where
  type := (h.supports_adapted hmade).2 (.inr (.inr .refl))
  root := (h.supports_adapted hmade).2 (.inr (.inl rfl))
  only b hb := by
    rcases (h.supports_adapted hmade).1 hb with hself | hroot | hreach
    · exact .inr (.inr hself)
    · exact .inr (.inl hroot)
    · exact .inl (mem_ancestry.2 ⟨target, .refl, hreach⟩)

/-- The class of the wrappers of a type, and the registry with it: the adapter of an interface, and any other
type itself. -/
inductive Concrete (r : Registry β) (target : ClassId) : ClassId → Registry β → Prop
  | itself (hface : r.isInterface? target = some false) : Concrete r target target r
  | adapter {cls : ClassId} {r' : Registry β} (hface : r.isInterface? target = some true)
    (hmade : r.adapter .wrapper target = .ok (cls, r')) : Concrete r target cls r'

namespace Concrete

theorem steps (h : r.Concrete target cls r') : ReflTransGen Step r r' := by
  cases h with
  | itself => exact .refl
  | adapter hface hmade => exact .single (.adapter hmade)

theorem lt_size (h : r.Concrete target cls r') : target < r.size := by
  cases h with
  | itself hface | adapter hface hmade =>
    obtain ⟨record, hget, -⟩ := exists_get?_of_isInterface? hface
    exact lt_size_iff.2 ⟨record, hget⟩

/-- The class of the wrappers of a type stands in for it, however the registry grows. -/
theorem standsIn {r'' : Registry β} (h : r.Concrete target cls r') (hgrows : r'.Grows r'')
    (hsound : r''.Sound) : r''.StandsIn cls target := by
  cases h with
  | itself hface => exact standsIn_self hsound (Nat.lt_of_lt_of_le (lt_size (.itself hface)) hgrows.size)
  | adapter hface hmade => exact standsIn_of_adapter hsound (hgrows.adapters (grows_of_adapter hmade).2)

end Concrete

end GuestHost.Registry
