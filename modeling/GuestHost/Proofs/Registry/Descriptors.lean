import Mathlib.Data.List.Basic
import GuestHost.Proofs.Registry.Growth

/-!
# Kept descriptors

A descriptor is made when it is first asked for, and kept. By then some classes are registered, and others
are later. It makes no difference: the ancestry of a class is the same list as soon as the class is
registered, for both of its walks follow links that were there when the class was.

* `chainFrom_of_grows`, `interfaceWalk_of_grows`, `ancestry_of_grows` — walks in a registry that grew;
* `Fresh` — every descriptor that is kept is the one that would be made now: `Fresh.step`,
  `Reachable.fresh`;
* `Fresh.kept`, `Fresh.describe` — what a kept descriptor lists, and what is answered for one.
-/

namespace GuestHost.Registry

variable {β : Type} {r r' : Registry β} {a : ClassId} {seen queue : List ClassId}

/-! ## Walks in a registry that grew -/

/-- A chain goes down from class to class, and the superclasses of these stay. -/
theorem chainFrom_of_grows (hgrows : r.Grows r') (hdown : r.LinksDown) (ha : a < r.size) :
    r'.chainFrom seen a = r.chainFrom seen a := by
  induction seen, a using chainFrom.induct r with
  | case1 seen a hseen => rw [chainFrom_of_mem hseen, chainFrom_of_mem hseen]
  | case2 seen a hseen hs =>
    have hs' : r'.superclass? a = none := (hgrows.superclass ha).trans hs
    rw [chainFrom_of_none hseen hs, chainFrom_of_none hseen hs']
  | case3 seen a hseen s hs ih =>
    have hs' : r'.superclass? a = some s := (hgrows.superclass ha).trans hs
    have hless : s < a := hdown a s (.inl hs)
    rw [chainFrom_of_some hseen hs, chainFrom_of_some hseen hs', ih (Nat.lt_trans hless ha)]

/-- What is put on the queue of a walk is implemented by a class that was there, and so it was there. -/
theorem interfaceWalk_of_grows (hgrows : r.Grows r') (hdown : r.LinksDown)
    (hqueue : ∀ q ∈ queue, q < r.size) :
    r'.interfaceWalk seen queue = r.interfaceWalk seen queue := by
  induction seen, queue using interfaceWalk.induct r with
  | case1 seen => simp [interfaceWalk]
  | case2 seen id queue hid ih =>
    have hrest : ∀ q ∈ queue, q < r.size := fun q hq => hqueue q (List.mem_cons_of_mem id hq)
    rw [interfaceWalk, dif_pos hid, interfaceWalk, dif_pos hid, ih hrest]
  | case3 seen id queue hid ih =>
    have hsize : id < r.size := hqueue id List.mem_cons_self
    have hrest : ∀ q ∈ queue ++ r.interfaces id, q < r.size := by
      intro q hq
      rcases List.mem_append.1 hq with hq | hq
      · exact hqueue q (List.mem_cons_of_mem id hq)
      · exact Nat.lt_trans (hdown id q (.inr hq)) hsize
    rw [interfaceWalk, dif_neg hid, interfaceWalk, dif_neg hid, hgrows.interfaces hsize, ih hrest]

/-- **The ancestry of a class stays the same list** when others are registered. -/
theorem ancestry_of_grows (hgrows : r.Grows r') (hdown : r.LinksDown) (ha : a < r.size) :
    r'.ancestry a = r.ancestry a := by
  have hchain : r'.superChain a = r.superChain a := chainFrom_of_grows hgrows hdown ha
  have hsize : ∀ x ∈ r.superChain a, x < r.size := fun x hx =>
    Nat.lt_of_le_of_lt (hdown.path .inl (mem_superChain.1 hx)) ha
  have hqueue : (r.superChain a).flatMap r'.interfaces = (r.superChain a).flatMap r.interfaces :=
    List.flatMap_congr fun x hx => hgrows.interfaces (hsize x hx)
  unfold ancestry
  simp only
  rw [hchain, hqueue]
  congr 1
  apply interfaceWalk_of_grows hgrows hdown
  intro q hq
  obtain ⟨x, hx, hlink⟩ := List.mem_flatMap.1 hq
  exact Nat.lt_trans (hdown x q (.inr hlink)) (hsize x hx)

theorem freshDescriptor_of_grows (hgrows : r.Grows r') (hdown : r.LinksDown) (ha : a < r.size) :
    r'.freshDescriptor a = r.freshDescriptor a := by
  unfold freshDescriptor
  rw [ancestry_of_grows hgrows hdown ha]

/-! ## Descriptors that are kept -/

/-- Every descriptor that is kept is the one that would be made now. -/
def Fresh (r : Registry β) : Prop :=
  ∀ a record d, r.get? a = some record → record.descriptor = some d → d = r.freshDescriptor a

theorem fresh_initial : Fresh (initial : Registry β) := by
  intro a record d hget hd
  rcases a with _ | a
  · cases hget
    cases hd
  · cases hget

/-- **Every step keeps descriptors fresh.** -/
theorem Fresh.step (h : r.Fresh) (hdown : r.LinksDown) (hstep : Step r r') : r'.Fresh := by
  intro a record d hget hd
  obtain ⟨old, hold, hmade⟩ := hstep.change.descriptor hget hd
  rw [freshDescriptor_of_grows hstep.grows hdown (lt_size_iff.2 ⟨old, hold⟩)]
  rcases hmade with hkept | hnow
  · exact h a old d hold hkept
  · exact hnow

/-- **Descriptors never go stale**, whatever was registered since they were made. -/
theorem Reachable.fresh (h : r.Reachable) : r.Fresh := by
  induction h with
  | refl => exact fresh_initial
  | tail hbefore hstep ih => exact ih.step (Reachable.sound hbefore).down hstep

/-- The owner of a descriptor that is kept is its class, and it lists the ancestry and the root class. -/
theorem Fresh.kept (h : r.Fresh) {record : ClassRecord β} {d : Descriptor}
    (hget : r.get? a = some record) (hd : record.descriptor = some d) :
    d.owner = a ∧ ∀ b, d.supports b = true ↔ b ∈ r.ancestry a ∨ b = rootClass := by
  obtain rfl := h a record d hget hd
  refine ⟨rfl, fun b => ?_⟩
  rw [supports_freshDescriptor]
  exact or_comm

/-- Whoever asks for a descriptor gets the one that would be made now. -/
theorem Fresh.describe (h : r.Fresh) {d : Descriptor} (hd : r.describe a = .ok (d, r')) :
    a < r.size ∧ d = r.freshDescriptor a := by
  obtain ⟨record, hget, ⟨hkept, -⟩ | ⟨-, hmade, -⟩⟩ := describe_eq_ok hd
  · exact ⟨lt_size_iff.2 ⟨record, hget⟩, h a record d hget hkept⟩
  · exact ⟨lt_size_iff.2 ⟨record, hget⟩, hmade⟩

end GuestHost.Registry
