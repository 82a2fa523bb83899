import Mathlib.Data.List.Nodup
import GuestHost.Proofs.Registry.Overriding
import GuestHost.Proofs.Registry.Search

/-!
# The order of an ancestry

An ancestry names no class twice. In front stand the class and its superclasses, the nearest first. The
interfaces follow by the number of links that lead to them: those that the class implements, those that one
of its superclasses implements, and those that can only be reached through other interfaces.

* `nodup_chainFrom`, `nodup_interfaceWalk`, `nodup_ancestry` — nothing is found twice;
* `IsChain`, `LinksDown.isChain_superChain` — the chain of superclasses, link by link;
* `added`, `interfaceWalk_append` — a walk finds what is new at the front of its queue before anything else;
* `ownInterfaces`, `inheritedInterfaces`, `furtherInterfaces`, `ancestry_eq_layers` — the interfaces of an
  ancestry in three layers, and which are in each;
* `ancestry_exact` — the search for an ancestry ends, and what it finds in which order.
-/

namespace GuestHost.Registry

open Relation (ReflTransGen TransGen)

variable {β : Type} {r : Registry β} {a c d x : ClassId} {seen queue ids chain : List ClassId}

/-! ## Nothing twice -/

theorem not_mem_of_mem_chainFrom (h : c ∈ r.chainFrom seen a) : c ∉ seen := by
  induction seen, a using chainFrom.induct r with
  | case1 seen a ha =>
    rw [chainFrom_of_mem ha] at h
    cases h
  | case2 seen a ha hs =>
    rw [chainFrom_of_none ha hs] at h
    rw [List.mem_singleton.1 h]
    exact ha
  | case3 seen a ha s hs ih =>
    rw [chainFrom_of_some ha hs] at h
    rcases List.mem_cons.1 h with rfl | htail
    · exact ha
    · exact fun hc => ih htail (List.mem_cons_of_mem a hc)

theorem nodup_chainFrom (r : Registry β) (seen : List ClassId) (a : ClassId) :
    (r.chainFrom seen a).Nodup := by
  induction seen, a using chainFrom.induct r with
  | case1 seen a ha => simp [chainFrom_of_mem ha]
  | case2 seen a ha hs => simp [chainFrom_of_none ha hs]
  | case3 seen a ha s hs ih =>
    rw [chainFrom_of_some ha hs]
    exact List.nodup_cons.2 ⟨fun hmem => not_mem_of_mem_chainFrom hmem List.mem_cons_self, ih⟩

theorem not_mem_of_mem_interfaceWalk (h : c ∈ r.interfaceWalk seen queue) : c ∉ seen := by
  induction seen, queue using interfaceWalk.induct r with
  | case1 seen => simp [interfaceWalk] at h
  | case2 seen id queue hid ih =>
    rw [interfaceWalk, dif_pos hid] at h
    exact ih h
  | case3 seen id queue hid ih =>
    rw [interfaceWalk, dif_neg hid] at h
    rcases List.mem_cons.1 h with rfl | htail
    · exact hid
    · exact fun hc => ih htail (List.mem_cons_of_mem id hc)

theorem nodup_interfaceWalk (r : Registry β) (seen queue : List ClassId) :
    (r.interfaceWalk seen queue).Nodup := by
  induction seen, queue using interfaceWalk.induct r with
  | case1 seen => simp [interfaceWalk]
  | case2 seen id queue hid ih =>
    rw [interfaceWalk, dif_pos hid]
    exact ih
  | case3 seen id queue hid ih =>
    rw [interfaceWalk, dif_neg hid]
    exact List.nodup_cons.2 ⟨fun hmem => not_mem_of_mem_interfaceWalk hmem List.mem_cons_self, ih⟩

/-- **An ancestry names no class twice.** -/
theorem nodup_ancestry (r : Registry β) (c : ClassId) : (r.ancestry c).Nodup :=
  List.nodup_append'.2 ⟨r.nodup_chainFrom [] c, r.nodup_interfaceWalk _ _,
    fun _ hchain hwalk => not_mem_of_mem_interfaceWalk hwalk hchain⟩

/-! ## The chain of superclasses -/

/-- A class and its superclasses: each class stands behind the one that extends it, and the last one has
no superclass. -/
structure IsChain (r : Registry β) (c : ClassId) (chain : List ClassId) : Prop where
  head : chain.head? = some c
  linked : chain.IsChain r.Extends
  last : ∀ x, chain.getLast? = some x → r.superclass? x = none

theorem isChain_singleton (h : r.superclass? c = none) : r.IsChain c [c] where
  head := rfl
  linked := .singleton c
  last x hx := by
    obtain rfl : c = x := by simpa using hx
    exact h

theorem IsChain.cons (h : r.IsChain d chain) (hlink : r.Extends c d) : r.IsChain c (c :: chain) := by
  obtain ⟨rest, rfl⟩ : ∃ rest, chain = d :: rest := List.head?_eq_some_iff.1 h.head
  refine ⟨rfl, List.isChain_cons_cons.2 ⟨hlink, h.linked⟩, fun x hx => h.last x ?_⟩
  rwa [List.getLast?_cons_cons] at hx

theorem LinksDown.isChain_superChain (h : r.LinksDown) (c : ClassId) :
    r.IsChain c (r.superChain c) := by
  induction c using Nat.strongRecOn with
  | ind c ih =>
    cases hs : r.superclass? c with
    | none =>
      have hchain : r.superChain c = [c] := chainFrom_of_none List.not_mem_nil hs
      rw [hchain]
      exact isChain_singleton hs
    | some s =>
      rw [h.superChain_eq_cons hs]
      exact (ih s (h c s (.inl hs))).cons hs

/-! ## Layers of interfaces -/

/-- What a walk finds of the front of its queue: each class once, and none that was seen. -/
def added (seen : List ClassId) : List ClassId → List ClassId
  | [] => []
  | id :: ids => if id ∈ seen then added seen ids else id :: added (id :: seen) ids

theorem mem_added : x ∈ added seen ids ↔ x ∈ ids ∧ x ∉ seen := by
  induction ids generalizing seen with
  | nil => simp [added]
  | cons id ids ih =>
    rw [added, List.mem_cons]
    by_cases hid : id ∈ seen
    · rw [if_pos hid, ih]
      constructor
      · exact fun ⟨hx, hnew⟩ => ⟨.inr hx, hnew⟩
      · rintro ⟨rfl | hx, hnew⟩
        · exact absurd hid hnew
        · exact ⟨hx, hnew⟩
    · rw [if_neg hid, List.mem_cons, ih, List.mem_cons]
      constructor
      · rintro (rfl | ⟨hx, hnew⟩)
        · exact ⟨.inl rfl, hid⟩
        · exact ⟨.inr hx, fun hseen => hnew (.inr hseen)⟩
      · rintro ⟨rfl | hx, hnew⟩
        · exact .inl rfl
        · by_cases hx' : x = id
          · exact .inl hx'
          · exact .inr ⟨hx, fun h => h.elim hx' hnew⟩

/-- A walk finds what is new at the front of its queue first, and then goes on behind it, where what the new
classes implement comes last. -/
theorem interfaceWalk_append (r : Registry β) (seen front back : List ClassId) :
    r.interfaceWalk seen (front ++ back)
      = added seen front ++
          r.interfaceWalk (added seen front ++ seen)
            (back ++ (added seen front).flatMap r.interfaces) := by
  induction front generalizing seen back with
  | nil => simp [added]
  | cons id front ih =>
    rw [List.cons_append, interfaceWalk, added]
    by_cases hid : id ∈ seen
    · rw [dif_pos hid, if_pos hid]
      exact ih seen back
    · rw [dif_neg hid, if_neg hid, List.append_assoc, ih, List.cons_append, List.flatMap_cons,
        List.append_assoc]
      -- The class was put in front of those seen, and stands in front of those found.
      refine congrArg (id :: ·) (congrArg (added (id :: seen) front ++ ·) (interfaceWalk_congr ?_))
      intro q _ y _
      simp only [List.mem_append, List.mem_cons]
      tauto

/-- What an ancestry holds behind its chain. -/
theorem mem_walk_superChain :
    x ∈ r.interfaceWalk (r.superChain c) ((r.superChain c).flatMap r.interfaces) ↔
      x ∉ r.superChain c ∧ ∃ d ∈ r.superChain c, TransGen r.Implements d x := by
  constructor
  · intro hx
    obtain ⟨q, hq, hpath⟩ := implements_of_mem_interfaceWalk hx
    obtain ⟨d, hd, hlink⟩ := List.mem_flatMap.1 hq
    exact ⟨not_mem_of_mem_interfaceWalk hx, d, hd, TransGen.head' hlink hpath⟩
  · rintro ⟨hnew, d, hd, hpath⟩
    obtain ⟨q, hlink, hpath⟩ := TransGen.head'_iff.1 hpath
    have hmem := (mem_interfaceWalk (r := r) (c := x) fun y hy z hz =>
      List.mem_flatMap.2 ⟨y, hy, hz⟩).2 (.inr ⟨q, List.mem_flatMap.2 ⟨d, hd, hlink⟩, hpath⟩)
    exact hmem.resolve_left hnew

/-- The interfaces that a class implements, as its ancestry lists them behind the chain. -/
def ownInterfaces (r : Registry β) (c : ClassId) : List ClassId :=
  added (r.superChain c) (r.interfaces c)

/-- The interfaces that only the superclasses of a class implement, as its ancestry lists them. -/
def inheritedInterfaces (r : Registry β) (c : ClassId) : List ClassId :=
  added (r.ownInterfaces c ++ r.superChain c) ((r.superChain c).tail.flatMap r.interfaces)

/-- The interfaces of an ancestry that neither the class nor a superclass implements. -/
def furtherInterfaces (r : Registry β) (c : ClassId) : List ClassId :=
  r.interfaceWalk (r.inheritedInterfaces c ++ (r.ownInterfaces c ++ r.superChain c))
    ((r.ownInterfaces c).flatMap r.interfaces ++ (r.inheritedInterfaces c).flatMap r.interfaces)

theorem superChain_eq_cons_tail (r : Registry β) (c : ClassId) :
    r.superChain c = c :: (r.superChain c).tail := by
  cases hs : r.superclass? c with
  | none =>
    rw [show r.superChain c = [c] from chainFrom_of_none List.not_mem_nil hs]
    rfl
  | some s =>
    rw [show r.superChain c = c :: r.chainFrom [c] s from chainFrom_of_some List.not_mem_nil hs]
    rfl

theorem mem_superChain_self (r : Registry β) (c : ClassId) : c ∈ r.superChain c :=
  mem_superChain.2 .refl

/-- The queue of a walk holds the interfaces of the class first, and then those of its superclasses. -/
theorem interfaceWalk_superChain (r : Registry β) (c : ClassId) :
    r.interfaceWalk (r.superChain c) ((r.superChain c).flatMap r.interfaces)
      = r.ownInterfaces c ++ r.inheritedInterfaces c ++ r.furtherInterfaces c := by
  have hqueue : (r.superChain c).flatMap r.interfaces
      = r.interfaces c ++ (r.superChain c).tail.flatMap r.interfaces := by
    conv_lhs => rw [superChain_eq_cons_tail, List.flatMap_cons]
  rw [hqueue, interfaceWalk_append, interfaceWalk_append, List.append_assoc]
  rfl

theorem ancestry_eq_layers (r : Registry β) (c : ClassId) :
    r.ancestry c = r.superChain c
      ++ (r.ownInterfaces c ++ r.inheritedInterfaces c ++ r.furtherInterfaces c) := by
  rw [← interfaceWalk_superChain]
  rfl

theorem mem_layers : x ∈ r.ownInterfaces c ++ r.inheritedInterfaces c ++ r.furtherInterfaces c ↔
    x ∉ r.superChain c ∧ ∃ d ∈ r.superChain c, TransGen r.Implements d x := by
  rw [← interfaceWalk_superChain]
  exact mem_walk_superChain

theorem mem_ownInterfaces : x ∈ r.ownInterfaces c ↔ x ∉ r.superChain c ∧ r.Implements c x := by
  rw [ownInterfaces, mem_added, and_comm]
  rfl

theorem mem_inheritedInterfaces : x ∈ r.inheritedInterfaces c ↔
    x ∉ r.superChain c ∧ ¬ r.Implements c x ∧ ∃ d ∈ r.superChain c, r.Implements d x := by
  rw [inheritedInterfaces, mem_added, List.mem_flatMap, List.mem_append, mem_ownInterfaces]
  constructor
  · rintro ⟨⟨d, hd, hlink⟩, hnew⟩
    have hx : x ∉ r.superChain c := fun hx => hnew (.inr hx)
    exact ⟨hx, fun hlink' => hnew (.inl ⟨hx, hlink'⟩), d, List.mem_of_mem_tail hd, hlink⟩
  · rintro ⟨hx, hnot, d, hd, hlink⟩
    rw [superChain_eq_cons_tail] at hd
    rcases List.mem_cons.1 hd with rfl | hd
    · exact absurd hlink hnot
    · exact ⟨⟨d, hd, hlink⟩, fun h => h.elim (fun hown => hnot hown.2) hx⟩

theorem mem_furtherInterfaces : x ∈ r.furtherInterfaces c ↔
    x ∉ r.superChain c ∧ (∀ d ∈ r.superChain c, ¬ r.Implements d x) ∧
      ∃ d ∈ r.superChain c, TransGen r.Implements d x := by
  have hlayers := mem_layers (r := r) (c := c) (x := x)
  rw [List.mem_append, List.mem_append] at hlayers
  constructor
  · intro hx
    obtain ⟨hnew, hreached⟩ := hlayers.1 (.inr hx)
    have hother : x ∉ r.inheritedInterfaces c ++ (r.ownInterfaces c ++ r.superChain c) :=
      not_mem_of_mem_interfaceWalk hx
    rw [List.mem_append, List.mem_append, mem_ownInterfaces, mem_inheritedInterfaces] at hother
    refine ⟨hnew, fun d hd hlink => ?_, hreached⟩
    by_cases hown : r.Implements c x
    · exact hother (.inr (.inl ⟨hnew, hown⟩))
    · exact hother (.inl ⟨hnew, hown, d, hd, hlink⟩)
  · rintro ⟨hnew, hnot, hreached⟩
    rcases hlayers.2 ⟨hnew, hreached⟩ with (hx | hx) | hx
    · exact absurd (mem_ownInterfaces.1 hx).2 (hnot c (mem_superChain_self r c))
    · obtain ⟨-, -, d, hd, hlink⟩ := mem_inheritedInterfaces.1 hx
      exact absurd hlink (hnot d hd)
    · exact hx

/-! ## Ancestries -/

theorem LinksDown.le_of_mem_ancestry (h : r.LinksDown) (hx : x ∈ r.ancestry c) : x ≤ c := by
  obtain ⟨d, hd, hpath⟩ := mem_ancestry.1 hx
  exact Nat.le_trans (h.path .inr hpath) (h.path .inl hd)

/-- **Ancestries are exact.** The search for the ancestry of a class ends, and what it has found is the
ancestry. It names no class twice, and none with a greater number than the class. It begins with the class and
its superclasses in their order. Behind them it holds what can be reached from one of them by links to
interfaces and is not among them: first what the class implements, then what else a superclass implements,
and last what can only be reached through other interfaces. -/
theorem ancestry_exact (h : r.Reachable) (c : ClassId) :
    (∃ turns, (Search.step r)^[turns] (.start c) = .finished (r.ancestry c)) ∧
    (r.ancestry c).Nodup ∧
    (∀ x ∈ r.ancestry c, x ≤ c) ∧
    ∃ chain own inherited further,
      r.ancestry c = chain ++ (own ++ inherited ++ further) ∧
      r.IsChain c chain ∧
      (∀ x, x ∈ own ++ inherited ++ further ↔ x ∉ chain ∧ ∃ d ∈ chain, TransGen r.Implements d x) ∧
      (∀ x, x ∈ own ↔ x ∉ chain ∧ r.Implements c x) ∧
      (∀ x, x ∈ inherited ↔ x ∉ chain ∧ ¬ r.Implements c x ∧ ∃ d ∈ chain, r.Implements d x) ∧
      ∀ x, x ∈ further ↔
        x ∉ chain ∧ (∀ d ∈ chain, ¬ r.Implements d x) ∧ ∃ d ∈ chain, TransGen r.Implements d x := by
  have hdown : r.LinksDown := h.sound.down
  exact ⟨⟨_, Search.iterate_start r c⟩, r.nodup_ancestry c, fun x => hdown.le_of_mem_ancestry,
    r.superChain c, r.ownInterfaces c, r.inheritedInterfaces c, r.furtherInterfaces c,
    r.ancestry_eq_layers c, hdown.isChain_superChain c, fun x => mem_layers,
    fun x => mem_ownInterfaces, fun x => mem_inheritedInterfaces, fun x => mem_furtherInterfaces⟩

/-- Two interfaces that extend a third, one of them also the other, a class that implements one of them, and
a class below it that implements the other twice. -/
def diamondDeclarations : List (Declaration Nat) :=
  [{ name := "Top", modifiers := interfaceBit },
    { name := "Left", modifiers := interfaceBit, interfaces := [1] },
    { name := "Right", modifiers := interfaceBit, interfaces := [1, 2] },
    { name := "Base", interfaces := [3] },
    { name := "Leaf", superclass := some 4, interfaces := [2, 2] }]

/-- The registry with the root class and these five. -/
def diamond : Registry Nat :=
  diamondDeclarations.foldl (fun r d => match r.register d with
    | .ok (_, r') => r'
    | .error _ => r) initial

theorem ancestry_exact_diamond : diamond.Reachable ∧
    diamond.ancestry 5 = [5, 4, 0, 2, 3, 1] ∧
    (∃ turns, (Search.step diamond)^[turns] (.start 5) = .finished [5, 4, 0, 2, 3, 1]) ∧
    [5, 4, 0, 2, 3, 1].Nodup ∧ (∀ x ∈ [5, 4, 0, 2, 3, 1], x ≤ 5) ∧
    ∃ chain own inherited further,
      [5, 4, 0, 2, 3, 1] = chain ++ (own ++ inherited ++ further) ∧ diamond.IsChain 5 chain ∧
      (∀ x, x ∈ own ++ inherited ++ further ↔
        x ∉ chain ∧ ∃ d ∈ chain, TransGen diamond.Implements d x) ∧
      (∀ x, x ∈ own ↔ x ∉ chain ∧ diamond.Implements 5 x) ∧
      (∀ x, x ∈ inherited ↔ x ∉ chain ∧ ¬ diamond.Implements 5 x ∧ ∃ d ∈ chain, diamond.Implements d x) ∧
      ∀ x, x ∈ further ↔
        x ∉ chain ∧ (∀ d ∈ chain, ¬ diamond.Implements d x) ∧ ∃ d ∈ chain, TransGen diamond.Implements d x := by
  have hreachable : diamond.Reachable := reachable_foldl diamondDeclarations .refl
  have hvalue : diamond.ancestry 5 = [5, 4, 0, 2, 3, 1] := by decide +kernel
  have hexact := ancestry_exact hreachable 5
  rw [hvalue] at hexact
  exact ⟨hreachable, hvalue, hexact⟩

end GuestHost.Registry
