import GuestHost.Proofs.Registry.Growth

/-!
# Which definition a class answers with

A method is looked up along the ancestry of a class: the class, its superclasses from the nearest on, and
then the interfaces. What a superclass defines is therefore overridden by the classes below it alone, and
no interface takes part as long as one of them defines the method.

* `Defines`, `Nearest` — a class defines a method of a key and a kind, and the first one on a chain of
  superclasses does;
* `LinksDown.superChain_eq_cons`, `LinksDown.ancestry_eq_cons` — the chain and the ancestry of a class
  from those of its superclass;
* `findMethod?_overriding` — what a lookup finds, and when it finds nothing.
-/

namespace GuestHost.Registry

open Relation (ReflTransGen TransGen)

variable {β : Type} {r : Registry β} {a c d s : ClassId} {seen seen' queue ids : List ClassId}
  {key : String} {kind : MethodKind} {m : Method β}

/-! ## Chains and walks above a class -/

/-- A chain stays the same if classes that it does not pass were seen or not. -/
theorem chainFrom_congr (h : ∀ x, ReflTransGen r.Extends a x → (x ∈ seen ↔ x ∈ seen')) :
    r.chainFrom seen a = r.chainFrom seen' a := by
  induction seen, a using chainFrom.induct r generalizing seen' with
  | case1 seen a ha => rw [chainFrom_of_mem ha, chainFrom_of_mem ((h a .refl).1 ha)]
  | case2 seen a ha hs => rw [chainFrom_of_none ha hs, chainFrom_of_none (mt (h a .refl).2 ha) hs]
  | case3 seen a ha s hs ih =>
    rw [chainFrom_of_some ha hs, chainFrom_of_some (mt (h a .refl).2 ha) hs, ih]
    intro x hx
    rw [List.mem_cons, List.mem_cons, h x (.head hs hx)]

/-- A walk stays the same if classes that it does not reach were seen or not. -/
theorem interfaceWalk_congr
    (h : ∀ q ∈ queue, ∀ x, ReflTransGen r.Implements q x → (x ∈ seen ↔ x ∈ seen')) :
    r.interfaceWalk seen queue = r.interfaceWalk seen' queue := by
  induction seen, queue using interfaceWalk.induct r generalizing seen' with
  | case1 seen => rw [interfaceWalk, interfaceWalk]
  | case2 seen id queue hid ih =>
    have hid' : id ∈ seen' := (h id List.mem_cons_self id .refl).1 hid
    rw [interfaceWalk, interfaceWalk, dif_pos hid, dif_pos hid',
      ih fun q hq => h q (List.mem_cons_of_mem id hq)]
  | case3 seen id queue hid ih =>
    have hid' : id ∉ seen' := mt (h id List.mem_cons_self id .refl).2 hid
    rw [interfaceWalk, interfaceWalk, dif_neg hid, dif_neg hid', ih]
    intro q hq x hx
    have hreached : x ∈ seen ↔ x ∈ seen' := by
      rcases List.mem_append.1 hq with hq | hq
      · exact h q (List.mem_cons_of_mem id hq) x hx
      · exact h id List.mem_cons_self x (.head hq hx)
    rw [List.mem_cons, List.mem_cons, hreached]

/-- What is below its start makes no difference to a chain or to a walk that leads down. -/
theorem mem_cons_iff_of_lt {x : ClassId} (hx : x < c) : x ∈ c :: seen ↔ x ∈ seen := by
  rw [List.mem_cons, or_iff_right (Nat.ne_of_lt hx)]

theorem LinksDown.superChain_eq_cons (h : r.LinksDown) (hs : r.Extends c s) :
    r.superChain c = c :: r.superChain s := by
  have hsc : s < c := h c s (.inl hs)
  show r.chainFrom [] c = c :: r.chainFrom [] s
  rw [chainFrom_of_some List.not_mem_nil hs, chainFrom_congr]
  intro x hx
  exact mem_cons_iff_of_lt (Nat.lt_of_le_of_lt (h.path .inl hx) hsc)

/-- The ancestry of a class without interfaces of its own is that of its superclass, behind the class. -/
theorem LinksDown.ancestry_eq_cons (h : r.LinksDown) (hs : r.Extends c s)
    (hfaces : r.interfaces c = []) : r.ancestry c = c :: r.ancestry s := by
  have hsc : s < c := h c s (.inl hs)
  unfold ancestry
  simp only [h.superChain_eq_cons hs, List.flatMap_cons, hfaces, List.nil_append, List.cons_append]
  rw [interfaceWalk_congr]
  intro q hq x hx
  obtain ⟨y, hy, hlink⟩ := List.mem_flatMap.1 hq
  have hys : y ≤ s := h.path .inl (mem_superChain.1 hy)
  have hqy : q < y := h y q (.inr hlink)
  have hxq : x ≤ q := h.path .inr hx
  exact mem_cons_iff_of_lt
    (Nat.lt_of_le_of_lt hxq (Nat.lt_trans (Nat.lt_of_lt_of_le hqy hys) hsc))

theorem mem_ancestry_of_extends (h : ReflTransGen r.Extends a d) : d ∈ r.ancestry a :=
  mem_ancestry.2 ⟨d, h, .refl⟩

/-! ## Definitions of methods -/

/-- A class defines a method under a key and with a kind. -/
def Defines (r : Registry β) (c : ClassId) (key : String) (kind : MethodKind) (m : Method β) : Prop :=
  ∃ record, r.get? c = some record ∧ record.methods.get? key = some m ∧ m.kind = kind

theorem defines_iff :
    r.Defines c key kind m ↔ ((r.get? c).bind fun record => record.method? key kind) = some m := by
  unfold Defines ClassRecord.method?
  simp only [Option.bind_eq_some_iff, Option.filter_eq_some_iff, decide_eq_true_eq]

/-- The first method that one of some classes defines under a key and with a kind. -/
def firstDefined? (r : Registry β) (ids : List ClassId) (key : String) (kind : MethodKind) :
    Option (Method β) :=
  ids.findSome? fun c => (r.get? c).bind fun record => record.method? key kind

theorem findMethod?_eq_firstDefined? (c : ClassId) :
    r.findMethod? c key kind = r.firstDefined? (r.ancestry c) key kind := rfl

theorem firstDefined?_cons_of_defines (h : r.Defines c key kind m) :
    r.firstDefined? (c :: ids) key kind = some m := by
  unfold firstDefined?
  rw [List.findSome?_cons, defines_iff.1 h]

theorem firstDefined?_cons_of_not (h : ∀ m, ¬ r.Defines c key kind m) :
    r.firstDefined? (c :: ids) key kind = r.firstDefined? ids key kind := by
  unfold firstDefined?
  rw [List.findSome?_cons, Option.eq_none_iff_forall_ne_some.2 fun m hm => h m (defines_iff.2 hm)]

theorem firstDefined?_eq_none_iff :
    r.firstDefined? ids key kind = none ↔ ∀ d ∈ ids, ∀ m, ¬ r.Defines d key kind m := by
  unfold firstDefined?
  rw [List.findSome?_eq_none_iff]
  refine forall₂_congr fun d _ => ?_
  rw [Option.eq_none_iff_forall_ne_some]
  exact forall_congr' fun m => not_congr defines_iff.symm

theorem firstDefined?_append :
    r.firstDefined? (ids ++ queue) key kind
      = (r.firstDefined? ids key kind).or (r.firstDefined? queue key kind) := by
  unfold firstDefined?
  rw [List.findSome?_append]

/-! ## The nearest definition -/

/-- Of a class and its superclasses, one defines a method under a key and with a kind, and none below it
does. -/
structure Nearest (r : Registry β) (c d : ClassId) (key : String) (kind : MethodKind) (m : Method β) :
    Prop where
  above : ReflTransGen r.Extends c d
  defines : r.Defines d key kind m
  first : ∀ e, ReflTransGen r.Extends c e → TransGen r.Extends e d → ∀ m', ¬ r.Defines e key kind m'

/-- A class that defines a method is the nearest one for itself. -/
theorem LinksDown.nearest_self (h : r.LinksDown) (hc : r.Defines c key kind m) :
    r.Nearest c c key kind m := by
  refine ⟨.refl, hc, fun e hce hec => ?_⟩
  obtain ⟨x, hex, hxc⟩ := TransGen.head'_iff.1 hec
  have hlt : c < c := Nat.lt_of_le_of_lt (h.path .inl hxc)
    (Nat.lt_of_lt_of_le (h e x (.inl hex)) (h.path .inl hce))
  exact absurd hlt (Nat.lt_irrefl c)

/-- A class that defines nothing has the nearest definition of its superclass. -/
theorem Nearest.head (h : r.Nearest s d key kind m) (hs : r.Extends c s)
    (hc : ∀ m, ¬ r.Defines c key kind m) : r.Nearest c d key kind m := by
  refine ⟨.head hs h.above, h.defines, fun e hce hed => ?_⟩
  rcases hce.cases_head with rfl | ⟨x, hx, hxe⟩
  · exact hc
  · obtain rfl : s = x := Option.some.inj (hs.symm.trans hx)
    exact h.first e hxe hed

/-- If a superclass defines a method, a nearest one does. -/
theorem LinksDown.exists_nearest (h : r.LinksDown) (hpath : ReflTransGen r.Extends c d)
    (hd : r.Defines d key kind m) : ∃ e m', r.Nearest c e key kind m' := by
  induction hpath using ReflTransGen.head_induction_on with
  | refl => exact ⟨d, m, h.nearest_self hd⟩
  | @head c s hs _ ih =>
    by_cases hc : ∃ m', r.Defines c key kind m'
    · obtain ⟨m', hc⟩ := hc
      exact ⟨c, m', h.nearest_self hc⟩
    · obtain ⟨e, m', he⟩ := ih
      exact ⟨e, m', he.head hs (not_exists.1 hc)⟩

/-- What a class defines itself comes first. -/
theorem firstDefined?_superChain_of_defines (hc : r.Defines c key kind m) :
    r.firstDefined? (r.superChain c) key kind = some m := by
  unfold superChain
  cases hs : r.superclass? c with
  | none =>
    rw [chainFrom_of_none List.not_mem_nil hs]
    exact firstDefined?_cons_of_defines hc
  | some s =>
    rw [chainFrom_of_some List.not_mem_nil hs]
    exact firstDefined?_cons_of_defines hc

/-- Along a chain of superclasses the nearest definition is the first. -/
theorem LinksDown.firstDefined?_superChain (h : r.LinksDown) (hd : r.Nearest c d key kind m) :
    r.firstDefined? (r.superChain c) key kind = some m := by
  obtain ⟨habove, hdefines, hfirst⟩ := hd
  induction habove using ReflTransGen.head_induction_on with
  | refl => exact firstDefined?_superChain_of_defines hdefines
  | @head c s hs hpath ih =>
    rw [h.superChain_eq_cons hs, firstDefined?_cons_of_not (hfirst c .refl (.head' hs hpath))]
    exact ih fun e hse => hfirst e (.head hs hse)

/-- What is found along the superclasses is found before anything that an interface defines. -/
theorem findMethod?_of_firstDefined? (hm : r.firstDefined? (r.superChain c) key kind = some m) :
    r.findMethod? c key kind = some m := by
  rw [findMethod?_eq_firstDefined?, ancestry, firstDefined?_append, hm, Option.some_or]

theorem findMethod?_of_defines (hc : r.Defines c key kind m) : r.findMethod? c key kind = some m :=
  findMethod?_of_firstDefined? (firstDefined?_superChain_of_defines hc)

theorem LinksDown.findMethod?_of_nearest (h : r.LinksDown) (hd : r.Nearest c d key kind m) :
    r.findMethod? c key kind = some m :=
  findMethod?_of_firstDefined? (h.firstDefined?_superChain hd)

theorem findMethod?_eq_none_iff :
    r.findMethod? c key kind = none ↔ ∀ d ∈ r.ancestry c, ∀ m, ¬ r.Defines d key kind m := by
  rw [findMethod?_eq_firstDefined?, firstDefined?_eq_none_iff]

theorem LinksDown.findMethod?_inherited (h : r.LinksDown) (hs : r.Extends c s)
    (hfaces : r.interfaces c = []) (hc : ∀ m, ¬ r.Defines c key kind m) :
    r.findMethod? c key kind = r.findMethod? s key kind := by
  rw [findMethod?_eq_firstDefined?, h.ancestry_eq_cons hs hfaces, firstDefined?_cons_of_not hc,
    findMethod?_eq_firstDefined?]

/-! ## Lookups -/

/-- **A lookup obeys overriding.** If a class or one of its superclasses defines a method under the key
and with the kind, there is a nearest one among them that does, and its definition is found, whatever the
interfaces define. A class that adds neither a definition nor an interface answers like its superclass.
Nothing is found exactly if nothing on the ancestry defines the method. -/
theorem findMethod?_overriding (h : r.Reachable) (c : ClassId) (key : String) (kind : MethodKind) :
    ((∃ d m, ReflTransGen r.Extends c d ∧ r.Defines d key kind m) →
      ∃ d m, r.Nearest c d key kind m) ∧
    (∀ d m, r.Nearest c d key kind m → r.findMethod? c key kind = some m) ∧
    (∀ s, r.Extends c s → r.interfaces c = [] → (∀ m, ¬ r.Defines c key kind m) →
      r.findMethod? c key kind = r.findMethod? s key kind) ∧
    (r.findMethod? c key kind = none ↔ ∀ d ∈ r.ancestry c, ∀ m, ¬ r.Defines d key kind m) := by
  have hdown : r.LinksDown := h.sound.down
  refine ⟨?_, fun d m => hdown.findMethod?_of_nearest, fun s => hdown.findMethod?_inherited,
    findMethod?_eq_none_iff⟩
  rintro ⟨d, m, hpath, hd⟩
  exact hdown.exists_nearest hpath hd

/-- An interface and a class that define one method, a class between them that defines it without a
receiver, and a class at the end that adds nothing. -/
def greeterDeclarations : List (Declaration Nat) :=
  [{ name := "Greeter", modifiers := interfaceBit, methods := [("I$greet$$", ⟨.onInstance, 1⟩)] },
    { name := "Base", methods := [("I$greet$$", ⟨.onInstance, 2⟩)] },
    { name := "Middle", superclass := some 2, interfaces := [1],
      methods := [("I$greet$$", ⟨.static, 3⟩)] },
    { name := "Leaf", superclass := some 3 }]

/-- The registry with the root class and these four. -/
def greeters : Registry Nat :=
  greeterDeclarations.foldl (fun r d => match r.register d with
    | .ok (_, r') => r'
    | .error _ => r) initial

theorem findMethod?_overriding_greeters : greeters.Reachable ∧
    greeters.Nearest 4 2 "I$greet$$" .onInstance ⟨.onInstance, 2⟩ ∧
    greeters.findMethod? 4 "I$greet$$" .onInstance = some ⟨.onInstance, 2⟩ ∧
    greeters.findMethod? 4 "I$greet$$" .onInstance = greeters.findMethod? 3 "I$greet$$" .onInstance := by
  have hreachable : greeters.Reachable := reachable_foldl greeterDeclarations .refl
  obtain ⟨-, hfound, hinherited, -⟩ :=
    findMethod?_overriding hreachable 4 "I$greet$$" .onInstance
  have hdown : greeters.LinksDown := hreachable.sound.down
  have hleaf : greeters.Extends 4 3 := by
    have : greeters.superclass? 4 = some 3 := by decide +kernel
    exact this
  have hmiddle : greeters.Extends 3 2 := by
    have : greeters.superclass? 3 = some 2 := by decide +kernel
    exact this
  have hbase : greeters.Defines 2 "I$greet$$" .onInstance ⟨.onInstance, 2⟩ :=
    ⟨_, rfl, rfl, rfl⟩
  have hnot : ∀ c, c = 3 ∨ c = 4 → ∀ m, ¬ greeters.Defines c "I$greet$$" .onInstance m := by
    have hnone : ∀ c, c = 3 ∨ c = 4 → ((greeters.get? c).bind fun record =>
        record.method? "I$greet$$" .onInstance).isNone := by
      rintro c (rfl | rfl) <;> rfl
    intro c hc m hm
    have := hnone c hc
    rw [defines_iff.1 hm] at this
    cases this
  have hnearest : greeters.Nearest 4 2 "I$greet$$" .onInstance ⟨.onInstance, 2⟩ :=
    ((hdown.nearest_self hbase).head hmiddle (hnot 3 (.inl rfl))).head hleaf (hnot 4 (.inr rfl))
  exact ⟨hreachable, hnearest, hfound 2 _ hnearest, hinherited 3 hleaf rfl (hnot 4 (.inr rfl))⟩

end GuestHost.Registry
