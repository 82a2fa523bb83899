import Mathlib.Logic.Relation
import GuestHost.Registry.Ancestry

/-!
# What an ancestry holds

The ancestry of a class is found by two walks: along superclasses first, and from all of these along
implements links. Its members are those that can be reached by links of these two kinds in this order,
in any registry, with cycles or without.

* `mem_superChain`, `mem_interfaceWalk` — what each of the two walks finds;
* `mem_ancestry` — what they find together.
-/

namespace GuestHost.Registry

open Relation (ReflTransGen)

variable {β : Type} {r : Registry β} {a b c : ClassId} {seen queue : List ClassId}

/-- A class has a superclass. -/
def Extends (r : Registry β) (a b : ClassId) : Prop := r.superclass? a = some b

/-- A class implements an interface directly. -/
def Implements (r : Registry β) (a b : ClassId) : Prop := b ∈ r.interfaces a

/-! ## Superclasses -/

theorem chainFrom_of_mem (ha : a ∈ seen) : r.chainFrom seen a = [] := by
  rw [chainFrom, dif_pos ha]

theorem chainFrom_of_none (ha : a ∉ seen) (hs : r.superclass? a = none) :
    r.chainFrom seen a = [a] := by
  rw [chainFrom, dif_neg ha]
  split <;> simp_all

theorem chainFrom_of_some {s : ClassId} (ha : a ∉ seen) (hs : r.superclass? a = some s) :
    r.chainFrom seen a = a :: r.chainFrom (a :: seen) s := by
  rw [chainFrom, dif_neg ha]
  split <;> simp_all

theorem extends_of_mem_chainFrom (h : c ∈ r.chainFrom seen a) : ReflTransGen r.Extends a c := by
  induction seen, a using chainFrom.induct r with
  | case1 seen a ha =>
    rw [chainFrom_of_mem ha] at h
    cases h
  | case2 seen a ha hs =>
    rw [chainFrom_of_none ha hs] at h
    rw [List.mem_singleton.1 h]
  | case3 seen a ha s hs ih =>
    rw [chainFrom_of_some ha hs] at h
    rcases List.mem_cons.1 h with rfl | htail
    · exact .refl
    · exact .head hs (ih htail)

/-- It makes no difference whether the class at hand counts as found or as seen. -/
theorem mem_cons_or_of_or_mem_cons {found : List ClassId} (h : b ∈ found ∨ b ∈ a :: seen) :
    b ∈ a :: found ∨ b ∈ seen := by
  rcases h with hfound | hseen
  · exact .inl (List.mem_cons_of_mem a hfound)
  · rcases List.mem_cons.1 hseen with rfl | hseen
    · exact .inl List.mem_cons_self
    · exact .inr hseen

/-- A chain leaves out nothing but what was seen: neither its start nor a superclass. -/
theorem chainFrom_closed (r : Registry β) (seen : List ClassId) (a : ClassId) :
    (a ∈ r.chainFrom seen a ∨ a ∈ seen) ∧
      ∀ x ∈ r.chainFrom seen a, ∀ y, r.Extends x y → y ∈ r.chainFrom seen a ∨ y ∈ seen := by
  induction seen, a using chainFrom.induct r with
  | case1 seen a ha =>
    rw [chainFrom_of_mem ha]
    exact ⟨.inr ha, by simp⟩
  | case2 seen a ha hs =>
    rw [chainFrom_of_none ha hs]
    refine ⟨by simp, fun x hx y hy => ?_⟩
    rw [List.mem_singleton.1 hx, Extends, hs] at hy
    cases hy
  | case3 seen a ha s hs ih =>
    rw [chainFrom_of_some ha hs]
    obtain ⟨hstart, hclosed⟩ := ih
    refine ⟨by simp, fun x hx y hy => mem_cons_or_of_or_mem_cons ?_⟩
    rcases List.mem_cons.1 hx with rfl | htail
    · obtain rfl : s = y := Option.some.inj (hs.symm.trans hy)
      exact hstart
    · exact hclosed x htail y hy

/-- **A chain holds a class and all its superclasses.** -/
theorem mem_superChain : c ∈ r.superChain a ↔ ReflTransGen r.Extends a c := by
  refine ⟨extends_of_mem_chainFrom, fun h => ?_⟩
  obtain ⟨hstart, hclosed⟩ := r.chainFrom_closed [] a
  have hnone : ∀ {x}, x ∈ r.superChain a ∨ x ∈ [] → x ∈ r.superChain a := fun hx =>
    hx.resolve_right List.not_mem_nil
  induction h with
  | refl => exact hnone hstart
  | tail _ hlink ih => exact hnone (hclosed _ ih _ hlink)

/-! ## Interfaces -/

theorem implements_of_mem_interfaceWalk (h : c ∈ r.interfaceWalk seen queue) :
    ∃ q ∈ queue, ReflTransGen r.Implements q c := by
  induction seen, queue using interfaceWalk.induct r with
  | case1 seen => simp [interfaceWalk] at h
  | case2 seen id queue hid ih =>
    rw [interfaceWalk, dif_pos hid] at h
    obtain ⟨q, hq, hpath⟩ := ih h
    exact ⟨q, List.mem_cons_of_mem id hq, hpath⟩
  | case3 seen id queue hid ih =>
    rw [interfaceWalk, dif_neg hid] at h
    rcases List.mem_cons.1 h with rfl | htail
    · exact ⟨c, List.mem_cons_self, .refl⟩
    · obtain ⟨q, hq, hpath⟩ := ih htail
      rcases List.mem_append.1 hq with hq | hq
      · exact ⟨q, List.mem_cons_of_mem id hq, hpath⟩
      · exact ⟨id, List.mem_cons_self, .head hq hpath⟩

/-- A walk leaves out nothing but what was seen: neither the queue nor what its members implement. -/
theorem interfaceWalk_closed (r : Registry β) (seen queue : List ClassId) :
    (∀ q ∈ queue, q ∈ r.interfaceWalk seen queue ∨ q ∈ seen) ∧
      ∀ x ∈ r.interfaceWalk seen queue, ∀ y, r.Implements x y →
        y ∈ r.interfaceWalk seen queue ∨ y ∈ seen := by
  induction seen, queue using interfaceWalk.induct r with
  | case1 seen => simp [interfaceWalk]
  | case2 seen id queue hid ih =>
    rw [interfaceWalk, dif_pos hid]
    refine ⟨fun q hq => ?_, ih.2⟩
    rcases List.mem_cons.1 hq with rfl | hq
    · exact .inr hid
    · exact ih.1 q hq
  | case3 seen id queue hid ih =>
    rw [interfaceWalk, dif_neg hid]
    obtain ⟨hqueue, hclosed⟩ := ih
    constructor
    · intro q hq
      rcases List.mem_cons.1 hq with rfl | hq
      · exact .inl List.mem_cons_self
      · exact mem_cons_or_of_or_mem_cons (hqueue q (List.mem_append_left _ hq))
    · intro x hx y hy
      rcases List.mem_cons.1 hx with rfl | htail
      · exact mem_cons_or_of_or_mem_cons (hqueue y (List.mem_append_right _ hy))
      · exact mem_cons_or_of_or_mem_cons (hclosed x htail y hy)

/-- **A walk holds what can be reached from its queue**, but for what can only be reached through
classes seen before. -/
theorem mem_interfaceWalk (hseen : ∀ x ∈ seen, ∀ y, r.Implements x y → y ∈ queue) :
    c ∈ seen ∨ c ∈ r.interfaceWalk seen queue ↔
      c ∈ seen ∨ ∃ q ∈ queue, ReflTransGen r.Implements q c := by
  constructor
  · exact Or.imp_right implements_of_mem_interfaceWalk
  · rintro (hc | ⟨q, hq, hpath⟩)
    · exact .inl hc
    obtain ⟨hqueue, hclosed⟩ := r.interfaceWalk_closed seen queue
    induction hpath with
    | refl => exact (hqueue q hq).symm
    | @tail x y _ hlink ih =>
      rcases ih with hx | hx
      · exact (hqueue y (hseen x hx y hlink)).symm
      · exact (hclosed x hx y hlink).symm

/-! ## Both walks -/

/-- **An ancestry holds what can be reached by superclasses first and implements links then.** -/
theorem mem_ancestry : c ∈ r.ancestry a ↔
    ∃ d, ReflTransGen r.Extends a d ∧ ReflTransGen r.Implements d c := by
  have hqueue : ∀ {x y}, x ∈ r.superChain a → r.Implements x y →
      y ∈ (r.superChain a).flatMap r.interfaces := fun hx hy =>
    List.mem_flatMap.2 ⟨_, hx, hy⟩
  unfold ancestry
  rw [List.mem_append, mem_interfaceWalk fun x hx y hy => hqueue hx hy]
  constructor
  · rintro (hc | ⟨q, hq, hpath⟩)
    · exact ⟨c, mem_superChain.1 hc, .refl⟩
    · obtain ⟨d, hd, hlink⟩ := List.mem_flatMap.1 hq
      exact ⟨d, mem_superChain.1 hd, .head hlink hpath⟩
  · rintro ⟨d, hd, hpath⟩
    have hd' : d ∈ r.superChain a := mem_superChain.2 hd
    rcases hpath.cases_head with rfl | ⟨q, hlink, hpath⟩
    · exact .inl hd'
    · exact .inr ⟨q, hqueue hd' hlink, hpath⟩

end GuestHost.Registry
