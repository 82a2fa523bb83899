import GuestHost.Proofs.Registry.Growth

/-!
# Well-formed registries

A registry keeps three tables: the classes by number, the numbers by name, and the adapters by kind and
interface. Registering a class and making an adapter fill them together, and a request that fails leaves
all of them as they were.

* `Filed` — what every step keeps of names, origins and adapters: `filed_initial`, `Filed.step`,
  `Reachable.filed`;
* `attempt`, `run` — what becomes of a registry that is asked for classes and adapters, some of them in
  vain;
* `WellFormed`, `wellFormed_run` — what holds of the three tables after any such requests.
-/

namespace GuestHost.Registry

open Relation (ReflTransGen TransGen)

variable {β : Type} {r r' : Registry β} {a b id target : ClassId} {kind : AdapterKind} {name : String}

/-! ## Registries that were changed -/

/-- What does not change in a record does not change in the registry. -/
theorem map_get?_update {γ : Type} (f : ClassRecord β → ClassRecord β) {g : ClassRecord β → γ}
    (hg : ∀ c, g (f c) = g c) : ((r.update id f).get? a).map g = (r.get? a).map g := by
  rw [get?_update]
  cases r.get? a <;> by_cases ha : id = a <;> simp [ha, hg]

theorem superclass?_update (f : ClassRecord β → ClassRecord β)
    (hsuper : ∀ c, (f c).superclass = c.superclass) :
    (r.update id f).superclass? a = r.superclass? a := by
  unfold superclass?
  rw [get?_update]
  cases r.get? a <;> by_cases ha : id = a <;> simp [ha, hsuper]

/-- A registry with one more class: the record and the name are there under the next number. -/
structure Adds (r : Registry β) (record : ClassRecord β) (r' : Registry β) : Prop where
  get? : ∀ a, r'.get? a = if a = r.size then some record else r.get? a
  number? : ∀ name, r'.number? name = if record.name = name then some r.size else r.number? name

theorem adds_of_registerAs {d : Declaration β} {origin : Origin}
    (h : r.registerAs d origin = .ok (id, r')) : r.Adds (d.record (some rootClass) origin) r' := by
  obtain ⟨-, -, -, rfl⟩ := registerAs_eq_ok_iff.1 h
  exact ⟨fun _ => get?_push _ _ _, fun _ => Dict.get?_set _ _ _ _⟩

namespace Adds

variable {record : ClassRecord β}

theorem name? (h : r.Adds record r') (a : ClassId) :
    r'.name? a = if a = r.size then some record.name else r.name? a := by
  unfold Registry.name?
  rw [h.get?]
  split <;> rfl

theorem origin? (h : r.Adds record r') (a : ClassId) :
    r'.origin? a = if a = r.size then some record.origin else r.origin? a := by
  unfold Registry.origin?
  rw [h.get?]
  split <;> rfl

theorem isInterface? (h : r.Adds record r') (a : ClassId) :
    r'.isInterface? a = if a = r.size then some record.isInterface else r.isInterface? a := by
  unfold Registry.isInterface?
  rw [h.get?]
  split <;> rfl

theorem superclass? (h : r.Adds record r') (a : ClassId) :
    r'.superclass? a = if a = r.size then record.superclass else r.superclass? a := by
  unfold Registry.superclass?
  rw [h.get?]
  split <;> rfl

end Adds

/-! ## What every step keeps -/

/-- The tables of a registry agree: names and numbers belong together, only interfaces and the root
class may lack a superclass, and the adapters are the classes that came to exist as such. -/
structure Filed (r : Registry β) : Prop where
  root : r.name? rootClass = some "java.lang.Object"
  named : ∀ {name id}, r.number? name = some id ↔ r.name? id = some name
  extending : ∀ {id}, r.isInterface? id = some false → id ≠ rootClass →
    ∃ s, r.superclass? id = some s
  adapted : ∀ {kind target id}, r.adapters.get? (kind, target) = some id →
    r.origin? id = some (.adapter kind) ∧ r.isInterface? target = some true ∧
      ∃ name, r.name? target = some name ∧ r.name? id = some (kind.adapterName name)
  memoized : ∀ {kind id}, r.origin? id = some (.adapter kind) →
    ∃ target, r.adapters.get? (kind, target) = some id

theorem filed_initial : Filed (initial : Registry β) where
  root := rfl
  named := by
    intro name id
    show (Dict.empty.set "java.lang.Object" rootClass).get? name = some id ↔ _
    rcases id with _ | id
    · show _ ↔ some "java.lang.Object" = some name
      rw [Dict.get?_set, Option.some.injEq]
      by_cases hname : "java.lang.Object" = name <;> simp [hname, rootClass]
    · show _ ↔ none = some name
      rw [Dict.get?_set]
      by_cases hname : "java.lang.Object" = name <;> simp [hname, rootClass]
  extending := by
    intro id hface hne
    rcases id with _ | id
    · exact absurd rfl hne
    · cases hface
  adapted hmade := by cases hmade
  memoized := by
    intro kind id horigin
    rcases id with _ | id <;> cases horigin

/-- A record that keeps what it was registered with keeps a registry filed. -/
theorem Filed.update (h : r.Filed) (id : ClassId) {f : ClassRecord β → ClassRecord β}
    (hname : ∀ c, (f c).name = c.name) (horigin : ∀ c, (f c).origin = c.origin)
    (hface : ∀ c, (f c).isInterface = c.isInterface)
    (hsuper : ∀ c, (f c).superclass = c.superclass) : (r.update id f).Filed := by
  have hname' : ∀ a, (r.update id f).name? a = r.name? a := fun _ => map_get?_update f hname
  have horigin' : ∀ a, (r.update id f).origin? a = r.origin? a := fun _ => map_get?_update f horigin
  have hface' : ∀ a, (r.update id f).isInterface? a = r.isInterface? a := fun _ =>
    map_get?_update f hface
  have hsuper' : ∀ a, (r.update id f).superclass? a = r.superclass? a := fun _ =>
    superclass?_update f hsuper
  refine ⟨?_, ?_, ?_, ?_, ?_⟩
  · rw [hname']
    exact h.root
  · intro name a
    rw [hname']
    exact h.named
  · intro a
    rw [hface', hsuper']
    exact h.extending
  · intro kind target a
    simp only [hname', horigin', hface']
    exact h.adapted
  · intro kind a
    rw [horigin']
    exact h.memoized

/-- What the adapter table becomes when a class is registered: it stays, or the class is a new adapter
of an interface. -/
inductive AdaptersAfter (r : Registry β) (record : ClassRecord β) (r' : Registry β) : Prop
  | same (horigin : record.origin = .declared)
    (hadapters : ∀ key, r'.adapters.get? key = r.adapters.get? key)
  | added (kind : AdapterKind) (target : ClassId) (name : String)
    (horigin : record.origin = .adapter kind) (hface : r.isInterface? target = some true)
    (htarget : r.name? target = some name) (hname : record.name = kind.adapterName name)
    (hnew : r.adapters.get? (kind, target) = none)
    (hadapters : ∀ key, r'.adapters.get? key
      = if (kind, target) = key then some r.size else r.adapters.get? key)

/-- Registering a class under a new name keeps a registry filed, if the adapters are kept in step. -/
theorem Filed.add (h : r.Filed) {record : ClassRecord β} (hadds : r.Adds record r')
    (hnew : r.number? record.name = none)
    (hextends : record.isInterface = false → ∃ s, record.superclass = some s)
    (hadapters : r.AdaptersAfter record r') : r'.Filed := by
  have hsize : ∀ {a name}, r.name? a = some name → a ≠ r.size := fun ha =>
    Nat.ne_of_lt (lt_size_of_name? ha)
  -- What holds of an adapter that was there before holds of it now.
  have hadapted : ∀ {kind target a}, r.adapters.get? (kind, target) = some a →
      r'.origin? a = some (.adapter kind) ∧ r'.isInterface? target = some true ∧
        ∃ name, r'.name? target = some name ∧ r'.name? a = some (kind.adapterName name) := by
    intro kind target a hmade
    obtain ⟨horigin, hface, name, htarget, ha⟩ := h.adapted hmade
    refine ⟨?_, ?_, name, ?_, ?_⟩
    · rw [hadds.origin?, if_neg (hsize ha)]
      exact horigin
    · rw [hadds.isInterface?, if_neg (hsize htarget)]
      exact hface
    · rw [hadds.name?, if_neg (hsize htarget)]
      exact htarget
    · rw [hadds.name?, if_neg (hsize ha)]
      exact ha
  refine ⟨?_, ?_, ?_, ?_, ?_⟩
  · rw [hadds.name?, if_neg (hsize h.root)]
    exact h.root
  · intro name a
    rw [hadds.number?, hadds.name?]
    by_cases hname : record.name = name
    · -- The name is new, so no class had it.
      have hold : r.name? a ≠ some name := by
        intro hold
        rw [← h.named, ← hname, hnew] at hold
        cases hold
      by_cases ha : a = r.size
      · simp [ha, hname]
      · simp [ha, hname, hold, Ne.symm ha]
    · by_cases ha : a = r.size
      · have hold : r.number? name ≠ some r.size := fun hnumber => hsize (h.named.1 hnumber) rfl
        simp [ha, hname, hold]
      · rw [if_neg hname, if_neg ha]
        exact h.named
  · intro a
    rw [hadds.isInterface?, hadds.superclass?]
    by_cases ha : a = r.size
    · simp only [ha, if_true, Option.some.injEq]
      exact fun hface _ => hextends hface
    · rw [if_neg ha, if_neg ha]
      exact h.extending
  · intro kind target a hmade
    cases hadapters with
    | same _ hsame =>
      rw [hsame] at hmade
      exact hadapted hmade
    | added kind' target' name horigin hface htarget hname _ hset =>
      rw [hset] at hmade
      split at hmade
      · next heq =>
        cases heq
        cases hmade
        refine ⟨?_, ?_, name, ?_, ?_⟩
        · rw [hadds.origin?, if_pos rfl, horigin]
        · rw [hadds.isInterface?, if_neg (hsize htarget), hface]
        · rw [hadds.name?, if_neg (hsize htarget), htarget]
        · rw [hadds.name?, if_pos rfl, hname]
      · exact hadapted hmade
  · intro kind a horigin'
    rw [hadds.origin?] at horigin'
    cases hadapters with
    | same horigin hsame =>
      split at horigin'
      · rw [horigin] at horigin'
        cases horigin'
      · obtain ⟨target, hmade⟩ := h.memoized horigin'
        exact ⟨target, (hsame _).trans hmade⟩
    | added kind' target' _ horigin _ _ _ hnone hset =>
      split at horigin'
      · next ha =>
        rw [horigin] at horigin'
        cases horigin'
        exact ⟨target', by rw [hset, if_pos rfl, ha]⟩
      · obtain ⟨target, hmade⟩ := h.memoized horigin'
        refine ⟨target, ?_⟩
        rw [hset, if_neg, hmade]
        intro heq
        rw [heq, hmade] at hnone
        cases hnone

/-- A class that is no interface extends the root class if it names no superclass. -/
theorem exists_superclass_of_record (d : Declaration β) (origin : Origin)
    (hface : (d.record (some rootClass) origin).isInterface = false) :
    ∃ s, (d.record (some rootClass) origin).superclass = some s := by
  have hbit : (d.modifiers &&& interfaceBit != 0) = false := hface
  unfold Declaration.record
  rw [hbit]
  cases d.superclass with
  | some s => exact ⟨s, rfl⟩
  | none => exact ⟨rootClass, rfl⟩

/-- **Every step keeps a registry filed.** -/
theorem Filed.step (h : r.Filed) (hstep : Step r r') : r'.Filed := by
  cases hstep with
  | @register _ d _ hmade =>
    obtain ⟨hname, -, -, hr'⟩ := registerAs_eq_ok_iff.1 hmade
    refine h.add (adds_of_registerAs hmade) hname (exists_superclass_of_record d _) (.same rfl ?_)
    rw [hr']
    exact fun _ => rfl
  | @adapter _ kind target _ hmade =>
    rcases adapter_eq_ok_iff.1 hmade with ⟨-, rfl⟩ | ⟨hnew, hface, name, made, htarget, hregister, rfl⟩
    · exact h
    · obtain ⟨hname, -, rfl, hsame⟩ := registerAs_eq_ok_iff.1 hregister
      have hadds := adds_of_registerAs hregister
      refine h.add ⟨hadds.get?, hadds.number?⟩ hname (exists_superclass_of_record _ _)
        (.added kind target name rfl hface htarget rfl hnew fun key => ?_)
      rw [hsame]
      exact Dict.get?_set _ _ _ _
  | describe hmade =>
    obtain ⟨-, -, ⟨-, rfl⟩ | ⟨-, -, rfl⟩⟩ := describe_eq_ok hmade
    · exact h
    · exact h.update _ (fun _ => rfl) (fun _ => rfl) (fun _ => rfl) fun _ => rfl
  | setStatic | setMirror =>
    exact h.update _ (fun _ => rfl) (fun _ => rfl) (fun _ => rfl) fun _ => rfl

theorem Reachable.filed (h : r.Reachable) : r.Filed := by
  induction h with
  | refl => exact filed_initial
  | tail _ hstep ih => exact ih.step hstep

/-! ## Requests -/

/-- What may be asked of a registry. -/
inductive Request (β : Type)
  /-- That a class be registered. -/
  | register (d : Declaration β)
  /-- The adapter of a kind for an interface. -/
  | adapter (kind : AdapterKind) (target : ClassId)

/-- What a registry answers to a request: the number of the class, and the registry with it. -/
def answer (r : Registry β) : Request β → Except Fault (ClassId × Registry β)
  | .register d => r.register d
  | .adapter kind target => r.adapter kind target

/-- A registry after a request; one that fails changes nothing. -/
def attempt (r : Registry β) (request : Request β) : Registry β :=
  match r.answer request with
  | .ok (_, r') => r'
  | .error _ => r

/-- A registry after requests, one after the other. -/
def run (r : Registry β) (requests : List (Request β)) : Registry β := requests.foldl attempt r

theorem step_of_answer {request : Request β} (h : r.answer request = .ok (id, r')) : Step r r' := by
  cases request with
  | register d => exact .register h
  | adapter kind target => exact .adapter h

theorem Reachable.attempt (h : r.Reachable) (request : Request β) :
    (r.attempt request).Reachable := by
  unfold Registry.attempt
  split
  · next hmade => exact h.tail (step_of_answer hmade)
  · exact h

theorem Reachable.run (h : r.Reachable) (requests : List (Request β)) :
    (r.run requests).Reachable := by
  induction requests generalizing r with
  | nil => exact h
  | cons request rest ih => exact ih (h.attempt request)

/-! ## The three tables -/

/-- A registry whose three tables agree. -/
structure WellFormed (r : Registry β) : Prop where
  /-- The numbers of the classes that have a name are those below the number of classes. -/
  dense : ∀ id, (∃ name, r.number? name = some id) ↔ id < r.size
  root : r.name? rootClass = some "java.lang.Object"
  /-- A name leads to the class that has it, and to no other. -/
  found : ∀ id name, r.number? name = some id ↔ r.name? id = some name
  unique : ∀ a b name, r.name? a = some name → r.name? b = some name → a = b
  /-- Superclasses and interfaces have smaller numbers. -/
  down : ∀ a b, r.superclass? a = some b ∨ b ∈ r.interfaces a → b < a
  acyclic : ∀ a, ¬ TransGen (fun a b => r.superclass? a = some b ∨ b ∈ r.interfaces a) a a
  /-- Only interfaces and the root class may lack a superclass. -/
  extending : ∀ id, r.isInterface? id = some false → id ≠ rootClass → ∃ s, r.superclass? id = some s
  /-- The adapter of a kind for a type is the only class of that kind that implements the type alone;
  it extends the root class, and the type is an interface. -/
  adapted : ∀ kind target id, r.adapters.get? (kind, target) = some id ↔
    r.origin? id = some (.adapter kind) ∧ r.superclass? id = some rootClass ∧
      r.interfaces id = [target] ∧ r.isInterface? target = some true
  distinct : ∀ key key' id, r.adapters.get? key = some id → r.adapters.get? key' = some id → key = key'
  /-- Every class that is an adapter is the adapter of some kind for some type. -/
  memoized : ∀ kind id, r.origin? id = some (.adapter kind) →
    ∃ target, r.adapters.get? (kind, target) = some id

theorem Filed.unique (h : r.Filed) (ha : r.name? a = some name) (hb : r.name? b = some name) :
    a = b :=
  Option.some.inj ((h.named.2 ha).symm.trans (h.named.2 hb))

/-- No links lead from a class back to it. -/
theorem LinksDown.acyclic (h : r.LinksDown) :
    ¬ TransGen (fun a b => r.Extends a b ∨ r.Implements a b) a a := by
  have hless : ∀ {b}, TransGen (fun a b => r.Extends a b ∨ r.Implements a b) a b → b < a := by
    intro b hpath
    induction hpath with
    | single hlink => exact h _ _ hlink
    | tail _ hlink ih => exact Nat.lt_trans (h _ _ hlink) ih
  exact fun hcycle => Nat.lt_irrefl a (hless hcycle)

theorem Reachable.wellFormed (h : r.Reachable) : r.WellFormed := by
  have hfiled := h.filed
  have hsound := h.sound
  -- Adapters are told apart by how they came to exist and by what they implement.
  have hkey : ∀ {kind target kind' target' id}, r.adapters.get? (kind, target) = some id →
      r.adapters.get? (kind', target') = some id → (kind, target) = (kind', target') := by
    intro kind target kind' target' id hmade hmade'
    have hkind := (hfiled.adapted hmade).1.symm.trans (hfiled.adapted hmade').1
    have hfaces := (hsound.adapted hmade).2.2.symm.trans (hsound.adapted hmade').2.2
    cases hkind
    cases hfaces
    rfl
  refine ⟨fun id => ?_, hfiled.root, fun id name => hfiled.named, fun a b name => hfiled.unique,
    hsound.down, fun a => hsound.down.acyclic, fun id => hfiled.extending,
    fun kind target id => ⟨fun hmade => ?_, ?_⟩, fun key key' id hmade hmade' => hkey hmade hmade',
    fun kind id => hfiled.memoized⟩
  · rw [← exists_name?_iff]
    exact exists_congr fun name => hfiled.named
  · obtain ⟨-, hsuper, hfaces⟩ := hsound.adapted hmade
    obtain ⟨horigin, hface, -⟩ := hfiled.adapted hmade
    exact ⟨horigin, hsuper, hfaces, hface⟩
  · rintro ⟨horigin, -, hfaces, -⟩
    obtain ⟨target', hmade⟩ := hfiled.memoized horigin
    have htarget : [target'] = [target] := (hsound.adapted hmade).2.2.symm.trans hfaces
    cases htarget
    exact hmade

/-- **A registry is well-formed whatever is asked of it**, and whichever of the requests fail. -/
theorem wellFormed_run (requests : List (Request β)) : (initial.run requests).WellFormed :=
  (Reachable.run .refl requests).wellFormed

end GuestHost.Registry
