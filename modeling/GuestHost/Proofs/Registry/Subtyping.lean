import GuestHost.Host.Types
import GuestHost.Proofs.Actions
import GuestHost.Proofs.Registry.Growth

/-!
# Which types a class answers for

A class answers for the root class and for what can be reached from it by superclasses first and
implements links then. So it answers for all that its superclass answers for, and for all that the
interfaces it answers for implement. It does not answer for the superclasses of its interfaces, unless
it reaches them in another way.

* `supports_iff` — the types that the descriptor of a class lists;
* `supports_of_extends`, `supports_of_implements` — what it takes over from others;
* `supports_trans_iff` — when answering for a type is transitive;
* `supports_adapter_iff` — what an adapter answers for.
-/

namespace GuestHost.Registry

open Relation (ReflTransGen)

variable {β : Type} {r r' : Registry β} {a b c id target : ClassId} {kind : AdapterKind}

/-- The descriptor of a class, whether it was made before or not, lists a type. -/
def Supports (r : Registry β) (a b : ClassId) : Prop :=
  ∃ d r', r.describe a = .ok (d, r') ∧ d.supports b = true

/-! ## Descriptors -/

/-- The descriptor of a class lists what the class reaches. -/
theorem Sound.describe {made : Descriptor} (h : r.Sound) (hmade : r.describe a = .ok (made, r')) :
    a < r.size ∧ (made.supports b = true ↔ r.Reaches a b) := by
  obtain ⟨record, hget, ⟨hkept, -⟩ | ⟨-, rfl, -⟩⟩ := describe_eq_ok hmade
  · exact ⟨lt_size_iff.2 ⟨record, hget⟩, h.described hget hkept b⟩
  · exact ⟨lt_size_iff.2 ⟨record, hget⟩, supports_freshDescriptor⟩

theorem exists_describe (ha : a < r.size) : ∃ made r', r.describe a = .ok (made, r') := by
  obtain ⟨record, hget⟩ := lt_size_iff.1 ha
  unfold Registry.describe Registry.get
  rw [hget]
  cases hd : record.descriptor with
  | some made => exact ⟨made, r, by simp [hd]⟩
  | none => exact ⟨_, _, by simp [hd]; exact ⟨rfl, rfl⟩⟩

/-- **The types that a class answers for** are the root class, and what is reached by superclasses first
and implements links then. -/
theorem supports_iff (h : r.Sound) : r.Supports a b ↔
    a < r.size ∧ (b = rootClass ∨ ∃ d, ReflTransGen r.Extends a d ∧ ReflTransGen r.Implements d b) := by
  rw [← mem_ancestry]
  constructor
  · rintro ⟨made, r', hmade, hb⟩
    obtain ⟨ha, hiff⟩ := h.describe (b := b) hmade
    exact ⟨ha, hiff.1 hb⟩
  · rintro ⟨ha, hb⟩
    obtain ⟨made, r', hmade⟩ := exists_describe ha
    exact ⟨made, r', hmade, (h.describe hmade).2.2 hb⟩

/-- Types that a class answers for are not lost. -/
theorem Sound.supports_of_grows (h : r.Sound) (h' : r'.Sound) (hgrows : r.Grows r')
    (hab : r.Supports a b) : r'.Supports a b := by
  obtain ⟨ha, hreach⟩ := (supports_iff h).1 hab
  have hkept : r'.Reaches a b :=
    (reaches_iff_of_grows hgrows h.down ha).2 (hreach.imp_right mem_ancestry.2)
  exact (supports_iff h').2 ⟨Nat.lt_of_lt_of_le ha hgrows.size, hkept.imp_right mem_ancestry.1⟩

/-! ## The root class -/

/-- The root class reaches nothing but itself. -/
theorem Sound.eq_root (h : r.Sound) {link : ClassId → ClassId → Prop}
    (hlink : ∀ {a b}, link a b → r.Extends a b ∨ r.Implements a b)
    (hpath : ReflTransGen link rootClass b) : b = rootClass :=
  Nat.le_zero.1 (h.down.path hlink hpath)

theorem Sound.supports_root (h : r.Sound) (hb : r.Supports rootClass b) : b = rootClass := by
  obtain ⟨-, rfl | ⟨d, hd, hb⟩⟩ := (supports_iff h).1 hb
  · rfl
  · obtain rfl := h.eq_root .inl hd
    exact h.eq_root .inr hb

/-! ## What is taken over -/

/-- A class answers for all that its superclasses answer for. -/
theorem supports_of_extends (h : r.Sound) (hab : ReflTransGen r.Extends a b) (hbc : r.Supports b c)
    (ha : a < r.size) : r.Supports a c := by
  obtain ⟨-, rfl | ⟨d, hd, hc⟩⟩ := (supports_iff h).1 hbc
  · exact (supports_iff h).2 ⟨ha, .inl rfl⟩
  · exact (supports_iff h).2 ⟨ha, .inr ⟨d, hab.trans hd, hc⟩⟩

/-- A class answers for all that the types it answers for implement. -/
theorem supports_of_implements (h : r.Sound) (hab : r.Supports a b)
    (hbc : ReflTransGen r.Implements b c) : r.Supports a c := by
  obtain ⟨ha, rfl | ⟨d, hd, hb⟩⟩ := (supports_iff h).1 hab
  · exact (supports_iff h).2 ⟨ha, .inl (h.eq_root .inr hbc)⟩
  · exact (supports_iff h).2 ⟨ha, .inr ⟨d, hd, hb.trans hbc⟩⟩

/-- Transitivity at all classes, if a class answers for the superclasses of what it implements. The
induction is on the number of the class: the first link of a path leads to a smaller one. -/
theorem supports_trans (h : r.Sound)
    (hfaces : ∀ a i s, r.Implements a i → ReflTransGen r.Extends i s → r.Supports a s)
    (hab : r.Supports a b) (hbc : r.Supports b c) : r.Supports a c := by
  induction a using Nat.strongRecOn with
  | ind a ih =>
    obtain ⟨ha, rfl | ⟨d, hd, hb⟩⟩ := (supports_iff h).1 hab
    · exact (supports_iff h).2 ⟨ha, .inl (h.supports_root hbc)⟩
    have hless : ∀ {x}, r.Extends a x ∨ r.Implements a x → x < a ∧ x < r.size := fun hx =>
      ⟨h.down _ _ hx, Nat.lt_trans (h.down _ _ hx) ha⟩
    rcases hd.cases_head with rfl | ⟨x, hax, hxd⟩
    · rcases hb.cases_head with rfl | ⟨x, hax, hxb⟩
      · exact hbc
      · -- The first link leads to an interface.
        obtain ⟨hxa, hx⟩ := hless (.inr hax)
        have hxc := ih x hxa ((supports_iff h).2 ⟨hx, .inr ⟨x, .refl, hxb⟩⟩)
        obtain ⟨-, rfl | ⟨e, hxe, hec⟩⟩ := (supports_iff h).1 hxc
        · exact (supports_iff h).2 ⟨ha, .inl rfl⟩
        · exact supports_of_implements h (hfaces a x e hax hxe) hec
    · -- The first link leads to a superclass.
      obtain ⟨hxa, hx⟩ := hless (.inl hax)
      have hxc := ih x hxa ((supports_iff h).2 ⟨hx, .inr ⟨d, hxd, hb⟩⟩)
      exact supports_of_extends h (.single hax) hxc ha

/-- **Answering for a type is transitive exactly if every class answers for the superclasses of the
interfaces that it implements.** The ancestry does not see to that. -/
theorem supports_trans_iff (h : r.Reachable) :
    (∀ a b c, r.Supports a b → r.Supports b c → r.Supports a c) ↔
      ∀ a i s, r.Implements a i → ReflTransGen r.Extends i s → r.Supports a s := by
  have hsound := h.sound
  constructor
  · intro htrans a i s hai his
    have ha : a < r.size := lt_size_of_link (.inr hai)
    have hi : i < r.size := Nat.lt_trans (hsound.down _ _ (.inr hai)) ha
    refine htrans a i s ?_ ?_
    · exact (supports_iff hsound).2 ⟨ha, .inr ⟨a, .refl, .single hai⟩⟩
    · exact (supports_iff hsound).2 ⟨hi, .inr ⟨s, his, .refl⟩⟩
  · intro hfaces a b c
    exact supports_trans hsound hfaces

/-! ## Adapters -/

theorem grows_of_adapter (hmade : r.adapter kind target = .ok (id, r')) :
    r.Grows r' ∧ r'.adapters.get? (kind, target) = some id := by
  rcases adapter_eq_ok hmade with ⟨hkept, rfl⟩ | ⟨-, -, hchange, hnew⟩
  · exact ⟨.refl _, hkept⟩
  · exact ⟨hchange.grows, hnew⟩

/-- A class that is registered as the adapter of an interface answers for itself, the root class, and
what the interface reaches by implements links. -/
theorem Sound.supports_adapted (h : r.Sound) (hmade : r.adapters.get? (kind, target) = some id) :
    r.Supports id b ↔ b = id ∨ b = rootClass ∨ ReflTransGen r.Implements target b := by
  obtain ⟨hid, hsuper, hfaces⟩ := h.adapted hmade
  have himplements : ∀ {x}, r.Implements id x ↔ x = target := by
    intro x
    unfold Implements
    rw [hfaces, List.mem_singleton]
  rw [supports_iff h]
  constructor
  · rintro ⟨-, rfl | ⟨d, hd, hb⟩⟩
    · exact .inr (.inl rfl)
    rcases hd.cases_head with rfl | ⟨x, hx, hxd⟩
    · rcases hb.cases_head with rfl | ⟨x, hx, hxb⟩
      · exact .inl rfl
      · obtain rfl := himplements.1 hx
        exact .inr (.inr hxb)
    · obtain rfl : rootClass = x := Option.some.inj (hsuper.symm.trans hx)
      obtain rfl := h.eq_root .inl hxd
      exact .inr (.inl (h.eq_root .inr hb))
  · rintro (rfl | rfl | hb)
    · exact ⟨hid, .inr ⟨b, .refl, .refl⟩⟩
    · exact ⟨hid, .inl rfl⟩
    · exact ⟨hid, .inr ⟨id, .refl, .head (himplements.2 rfl) hb⟩⟩

/-- **What an adapter answers for**: itself, the root class, and what its interface reaches by implements
links. The superclasses of the interface are not among it. -/
theorem supports_adapter_iff (h : r.Reachable) (hmade : r.adapter kind target = .ok (id, r')) :
    r'.Supports id b ↔ b = id ∨ b = rootClass ∨ ReflTransGen r'.Implements target b :=
  (Reachable.sound (h.tail (.adapter hmade))).supports_adapted (grows_of_adapter hmade).2

/-! ## An interface with a superclass -/

/-- The declarations of a class and of an interface that extends it. -/
def shapeDeclarations : List (Declaration β) :=
  [{ name := "Shape" }, { name := "Drawable", modifiers := interfaceBit, superclass := some 1 }]

/-- The registry with the root class and these two. -/
def shapes : Registry β :=
  shapeDeclarations.foldl (fun r d => match r.register d with
    | .ok (_, r') => r'
    | .error _ => r) initial

theorem supports_trans_shapes : (shapes : Registry Body).Reachable ∧
    ∀ a b c, (shapes : Registry Body).Supports a b → (shapes : Registry Body).Supports b c →
      (shapes : Registry Body).Supports a c := by
  have hreachable : (shapes : Registry Body).Reachable := reachable_foldl _ .refl
  refine ⟨hreachable, (supports_trans_iff hreachable).2 fun a i s hai _ => ?_⟩
  -- No class of the two implements anything.
  have hnone : ∀ a < 3, (shapes : Registry Body).interfaces a = [] := by decide +kernel
  have hsize : (shapes : Registry Body).size = 3 := by decide +kernel
  have ha : a < 3 := hsize ▸ lt_size_of_link (.inr hai)
  rw [Implements, hnone a ha] at hai
  cases hai

/-- **Answering for a type is not transitive**: the adapter of an interface answers for the interface,
which answers for its superclass, but the adapter does not. -/
theorem supports_not_trans :
    ¬ ∀ (r : Registry Body) (a b c : ClassId), r.Reachable → r.Supports a b → r.Supports b c →
      r.Supports a c := by
  intro htrans
  have hreachable : (shapes : Registry Body).Reachable := reachable_foldl _ .refl
  have hnumber : ((shapes : Registry Body).adapter .lambda 2).toOption.map Prod.fst = some 3 := by
    decide +kernel
  cases hmade : (shapes : Registry Body).adapter .lambda 2 with
  | error fault => simp [hmade, Except.toOption] at hnumber
  | ok made =>
    obtain ⟨id, r'⟩ := made
    obtain rfl : id = 3 := by simpa [hmade, Except.toOption] using hnumber
    have hreachable' : r'.Reachable := hreachable.tail (.adapter hmade)
    have hgrows : (shapes : Registry Body).Grows r' := (grows_of_adapter hmade).1
    have hsize : (2 : ClassId) < (shapes : Registry Body).size := by decide +kernel
    -- The interface has a superclass, and implements nothing.
    have hsuper : r'.Extends 2 1 := (hgrows.extends_iff hsize).2 (by
      have : (shapes : Registry Body).superclass? 2 = some 1 := by decide +kernel
      exact this)
    have hfaces : ∀ x, ¬ r'.Implements 2 x := by
      have hnone : (shapes : Registry Body).interfaces 2 = [] := by decide +kernel
      intro x hx
      rw [hgrows.implements_iff hsize, Implements, hnone] at hx
      cases hx
    have hadapter : r'.Supports 3 2 := (supports_adapter_iff hreachable hmade).2 (.inr (.inr .refl))
    have hface : r'.Supports 2 1 := (supports_iff hreachable'.sound).2
      ⟨Nat.lt_of_lt_of_le hsize hgrows.size, .inr ⟨1, .single hsuper, .refl⟩⟩
    have hlost := htrans r' 3 2 1 hreachable' hadapter hface
    rcases (supports_adapter_iff hreachable hmade).1 hlost with hself | hroot | hpath
    · cases hself
    · cases hroot
    · rcases hpath.cases_head with heq | ⟨x, hx, -⟩
      · cases heq
      · exact hfaces x hx

end GuestHost.Registry

namespace GuestHost.Action

/-- A value without a class is an instance of nothing. -/
theorem instanceOf_of_error {h : Host} {v : Value} {fault : Fault} (hclass : h.classOf v = .error fault)
    (type : ClassId) : ((instanceOf v type).apply h).1 = .ok false := by
  show Except.ok (if v.isNull then (false, h) else _).1 = _
  by_cases hnull : v.isNull = true
  · rw [if_pos hnull]
  · rw [if_neg hnull]
    simp only [hclass]

/-- A value with a class is an instance of what the descriptor of the class lists. -/
theorem instanceOf_of_class {h : Host} {v : Value} {cls : ClassId} (hclass : h.classOf v = .ok cls)
    (type : ClassId) :
    ((instanceOf v type).apply h).1 = match h.registry.describe cls with
      | .ok (made, _) => .ok (made.supports type)
      | .error _ => .ok false := by
  have hnull : ¬ v.isNull = true := by
    intro hnull
    cases v with
    | null => cases hclass
    | ref | handle | int | long | float | double => cases hnull
  show Except.ok (if v.isNull then (false, h) else _).1 = _
  rw [if_neg hnull]
  simp only [hclass]
  cases h.registry.describe cls <;> rfl

/-- **An object answers for the types that its class answers for.** -/
theorem instanceOf_object_iff {h : Host} {x : Ref} {o : Object} {type : ClassId}
    (ho : h.heap.get? x = some (.object o)) :
    ((instanceOf (.ref x) type).apply h).1 = .ok true ↔ h.registry.Supports o.cls type := by
  have hclass : h.classOf (.ref x) = .ok o.cls := by
    unfold Host.classOf
    simp only [ho]
  rw [instanceOf_of_class hclass]
  unfold Registry.Supports
  cases h.registry.describe o.cls with
  | error fault => simp
  | ok result =>
    obtain ⟨made, r'⟩ := result
    simp

end GuestHost.Action
