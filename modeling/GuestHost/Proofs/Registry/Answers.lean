import GuestHost.Proofs.Registry.Ancestry

/-!
# What a registry answers

Exactly when a class is registered and an adapter is to be had, what a descriptor is, and what the
registry is afterwards.

* `registerAs_eq_ok_iff` — a class is registered exactly if its name is new and its links are known;
* `adapter_eq_ok_iff` — an adapter is the one that was made before, or a class that is registered now;
* `describe_eq_ok` — a descriptor is the one that was made before, or a fresh one.
-/

namespace GuestHost

/-- The name of the adapter of a kind for an interface with a given name. -/
def AdapterKind.adapterName (kind : AdapterKind) (name : String) : String :=
  name ++ "$" ++ kind.suffix

namespace Registry

variable {β : Type} {r r' : Registry β} {a id target : ClassId} {kind : AdapterKind} {name : String}

/-! ## Reading a registry that was changed -/

theorem lt_size_iff : a < r.size ↔ ∃ record, r.get? a = some record := by
  unfold get? size
  constructor
  · exact fun h => ⟨_, Array.getElem?_eq_getElem h⟩
  · rintro ⟨record, h⟩
    exact (Array.getElem?_eq_some_iff.1 h).1

theorem get?_update (f : ClassRecord β → ClassRecord β) :
    (r.update id f).get? a = if id = a then (r.get? a).map f else r.get? a :=
  Array.getElem?_modify

@[simp] theorem size_update (f : ClassRecord β → ClassRecord β) : (r.update id f).size = r.size :=
  Array.size_modify

theorem get?_push (record : ClassRecord β) (numbers : Dict String ClassId)
    (adapters : Dict (AdapterKind × ClassId) ClassId) :
    (Registry.mk (r.classes.push record) numbers adapters).get? a
      = if a = r.size then some record else r.get? a :=
  Array.getElem?_push

theorem superclass?_eq {record : ClassRecord β} (h : r.get? a = some record) :
    r.superclass? a = record.superclass := by
  simp [superclass?, h]

theorem interfaces_eq {record : ClassRecord β} (h : r.get? a = some record) :
    r.interfaces a = record.interfaces := by
  simp [interfaces, h]

/-! ## What a class was registered with -/

/-- The name of a class. -/
def name? (r : Registry β) (id : ClassId) : Option String := (r.get? id).map (·.name)

/-- How a class came to exist. -/
def origin? (r : Registry β) (id : ClassId) : Option Origin := (r.get? id).map (·.origin)

/-- Whether a class is an interface. -/
def isInterface? (r : Registry β) (id : ClassId) : Option Bool := (r.get? id).map (·.isInterface)

theorem exists_name?_iff : (∃ name, r.name? id = some name) ↔ id < r.size := by
  rw [lt_size_iff]
  unfold name?
  cases r.get? id <;> simp

theorem lt_size_of_name? (h : r.name? id = some name) : id < r.size := exists_name?_iff.1 ⟨name, h⟩

theorem exists_get?_of_isInterface? {face : Bool} (h : r.isInterface? id = some face) :
    ∃ record, r.get? id = some record ∧ record.isInterface = face := Option.map_eq_some_iff.1 h

/-! ## When a class is registered -/

/-- The links that a class is registered with lead to registered classes. -/
def KnowsLinks (r : Registry β) (record : ClassRecord β) : Prop :=
  ∀ b, record.superclass = some b ∨ b ∈ record.interfaces → b < r.size

theorem firstUnknown?_eq_none_iff {ids : List ClassId} :
    r.firstUnknown? ids = none ↔ ∀ b ∈ ids, b < r.size := by
  unfold firstUnknown?
  rw [List.find?_eq_none]
  refine forall₂_congr fun b _ => ?_
  rw [lt_size_iff]
  cases r.get? b <;> simp

/-- **A class is registered exactly if its name is new and its links are known.** -/
theorem registerAs_eq_ok_iff {d : Declaration β} {origin : Origin} :
    r.registerAs d origin = .ok (id, r') ↔
      r.number? d.name = none ∧ r.KnowsLinks (d.record (some rootClass) origin) ∧ id = r.size ∧
        r' = ⟨r.classes.push (d.record (some rootClass) origin), r.numbers.set d.name r.size,
          r.adapters⟩ := by
  have hlinks : r.firstUnknown? ((d.record (some rootClass) origin).superclass.toList
      ++ (d.record (some rootClass) origin).interfaces) = none ↔
        r.KnowsLinks (d.record (some rootClass) origin) := by
    rw [firstUnknown?_eq_none_iff]
    refine forall_congr' fun b => ?_
    rw [List.mem_append, Option.mem_toList]
  constructor
  · intro h
    unfold registerAs at h
    split at h
    · cases h
    · next hname =>
      dsimp only at h
      split at h
      · cases h
      · next hnone =>
        cases h
        exact ⟨by simpa [Dict.contains, number?] using hname, hlinks.1 hnone, rfl, rfl⟩
  · rintro ⟨hname, hknown, rfl, rfl⟩
    have hnew : ¬ r.numbers.contains d.name = true := by
      unfold Dict.contains
      rw [show r.numbers.get? d.name = none from hname]
      simp
    unfold registerAs
    rw [if_neg hnew]
    simp only [hlinks.2 hknown]

/-! ## When an adapter is to be had -/

/-- The declaration of the adapter of a kind for an interface. -/
def adapterDeclaration (kind : AdapterKind) (target : ClassId) (name : String) : Declaration β :=
  { name := kind.adapterName name, superclass := some rootClass, interfaces := [target] }

/-- An adapter extends the root class. -/
theorem superclass_adapterDeclaration (kind : AdapterKind) (target : ClassId) (name : String) :
    ((adapterDeclaration kind target name : Declaration β).record (some rootClass)
      (.adapter kind)).superclass = some rootClass := by
  simp [adapterDeclaration, Declaration.record]

/-- **An adapter is the one that was made before, or a class that is registered now.** -/
theorem adapter_eq_ok_iff : r.adapter kind target = .ok (id, r') ↔
    r.adapters.get? (kind, target) = some id ∧ r' = r ∨
      r.adapters.get? (kind, target) = none ∧ r.isInterface? target = some true ∧
        ∃ name made, r.name? target = some name ∧
          r.registerAs (adapterDeclaration kind target name) (.adapter kind) = .ok (id, made) ∧
            r' = { made with adapters := made.adapters.set (kind, target) id } := by
  unfold adapter
  cases hmade : r.adapters.get? (kind, target) with
  | some id' => simp [eq_comm]
  | none =>
    unfold Registry.get name? isInterface?
    cases hget : r.get? target with
    | none => simp
    | some record =>
      by_cases hface : record.isInterface = true
      · simp only [hface, if_true, reduceCtorEq, false_and, false_or, true_and, Option.map_some,
          Option.some.injEq]
        constructor
        · intro h
          split at h
          · cases h
          · next id' made hregister =>
            cases h
            exact ⟨_, made, rfl, hregister, rfl⟩
        · rintro ⟨_, made, rfl, hregister, rfl⟩
          unfold adapterDeclaration AdapterKind.adapterName at hregister
          rw [hregister]
      · simp [hface]

/-! ## Descriptors -/

theorem describe_eq_ok {d : Descriptor} (h : r.describe id = .ok (d, r')) :
    ∃ record, r.get? id = some record ∧
      (record.descriptor = some d ∧ r' = r ∨
        record.descriptor = none ∧ d = r.freshDescriptor id ∧
          r' = r.update id fun c => { c with descriptor := some d }) := by
  unfold describe Registry.get at h
  cases hget : r.get? id with
  | none => simp [hget] at h
  | some record =>
    simp only [hget] at h
    refine ⟨record, rfl, ?_⟩
    cases hd : record.descriptor with
    | some d' =>
      simp only [hd] at h
      cases h
      exact .inl ⟨rfl, rfl⟩
    | none =>
      simp only [hd] at h
      cases h
      exact .inr ⟨rfl, rfl, rfl⟩

end Registry

end GuestHost
