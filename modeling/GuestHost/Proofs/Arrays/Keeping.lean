import Mathlib.Logic.Relation
import GuestHost.Proofs.Boundary.Words
import GuestHost.Proofs.Stores

/-!
# Modules that keep their arrays

A module in memory stores an element wherever an array has one, and what was stored is seen nowhere else. A
module in a shared library answers as it likes: it may refuse an element although it has just reported a
greater length, or lose what it was given. What is said about stored elements is therefore said under a
condition on the module.

* `Module.Stored` — what a module looks like after an element was stored in it;
* `Module.KeepsArrays` — the module stores where there is an element and refuses what there is no room for,
  whatever was stored before;
* `keepsArrays_arena`, `Library.KeepsTable.keepsArrays` — modules in memory keep their arrays, and so do those
  that keep what they are given in a table.
-/

namespace GuestHost

namespace Module

/-- The element `i` of the array `k` holds `x`, and all else is as it was. -/
structure Stored (m m' : Module) (k : UInt32) (i : Nat) (x : Value) : Prop where
  self : m'.arrayGet k i = .ok x
  others : ∀ k' j, (k' = k → j ≠ i) → m'.arrayGet k' j = m.arrayGet k' j
  lengths : ∀ k', m'.arrayLength k' = m.arrayLength k'
  texts : ∀ k', m'.text k' = m.text k'
  streams : ∀ k', m'.stream k' = m.stream k'

/-- The module stores where there is an element, and refuses what there is no room for. -/
structure StoresWithin (m : Module) : Prop where
  stores : ∀ {k n i}, m.arrayLength k = .ok n → i < n → ∀ x,
    ∃ m', m.arraySet k i x = (.ok (), m') ∧ m.Stored m' k i x
  refuses : ∀ {k i}, (∀ n, m.arrayLength k = .ok n → n ≤ i) → ∀ x,
    ∃ fault, m.arraySet k i x = (.error fault, m)

/-- One module is another after something was stored. -/
def Stores (m m' : Module) : Prop := ∃ k i x, (m.arraySet k i x).2 = m'

/-- The module stores within its arrays, and goes on to do so whatever is stored. -/
def KeepsArrays (m : Module) : Prop :=
  ∀ m', Relation.ReflTransGen Stores m m' → m'.StoresWithin

variable {m : Module}

theorem KeepsArrays.storesWithin (hm : m.KeepsArrays) : m.StoresWithin := hm m .refl

theorem KeepsArrays.arraySet (hm : m.KeepsArrays) (k : UInt32) (i : Nat) (x : Value) :
    (m.arraySet k i x).2.KeepsArrays :=
  fun m' hm' => hm m' (.head ⟨k, i, x, rfl⟩ hm')

/-- Modules of a kind that storing does not lead out of keep their arrays if each of them stores within
them. -/
theorem keepsArrays_of_kind (kind : Module → Prop)
    (hstores : ∀ m m', kind m → m.Stores m' → kind m') (hwithin : ∀ m, kind m → m.StoresWithin)
    (hm : kind m) : m.KeepsArrays := by
  intro m' hm'
  refine hwithin m' ?_
  induction hm' with
  | refl => exact hm
  | tail _ hstore ih => exact hstores _ _ ih hstore

end Module

/-! ## In memory -/

namespace Arena

variable {a : Arena} {k : UInt32} {n i : Nat} {items : List Value}

theorem arrayLength_eq_ok : (Module.arena a).arrayLength k = .ok n ↔
    ∃ items, a.get? k = some (.array items) ∧ items.length = n := by
  simp only [Module.arrayLength, ← array_eq_ok]
  cases a.array k <;> simp [Except.map]

theorem stored_put (hget : a.get? k = some (.array items)) (hi : i < items.length) (x : Value) :
    (Module.arena a).Stored (.arena (a.put k (.array (items.set i x)))) k i x where
  self := by simp [Module.arrayGet, arrayGet, array, get?_put_self hget, hi]
  others k' j hj := by
    by_cases hk : k' = k
    · subst hk
      simp [Module.arrayGet, arrayGet, array, hget, get?_put_self hget, Ne.symm (hj rfl)]
    · simp [Module.arrayGet, arrayGet, array, get?_put_of_ne (Ne.symm hk)]
  lengths k' := by
    by_cases hk : k' = k
    · subst hk
      simp [Module.arrayLength, array, hget, get?_put_self hget, Except.map]
    · simp [Module.arrayLength, array, get?_put_of_ne (Ne.symm hk)]
  texts k' := by
    by_cases hk : k' = k
    · subst hk
      simp [Module.text, text, textEntry, hget, get?_put_self hget]
    · simp [Module.text, text, textEntry, get?_put_of_ne (Ne.symm hk)]
  streams k' := by
    by_cases hk : k' = k
    · subst hk
      simp [Module.stream, stream, hget, get?_put_self hget]
    · simp [Module.stream, stream, get?_put_of_ne (Ne.symm hk)]

theorem storesWithin (a : Arena) : (Module.arena a).StoresWithin where
  stores hn hi x := by
    obtain ⟨items, hget, rfl⟩ := arrayLength_eq_ok.1 hn
    exact ⟨_, by simp [Module.arraySet, Module.ofArena, arraySet_of_array hget hi],
      stored_put hget hi x⟩
  refuses {k i} hfull x := by
    cases hset : a.arraySet k i x with
    | error fault => exact ⟨fault, by simp [Module.arraySet, Module.ofArena, hset]⟩
    | ok a' =>
      obtain ⟨items, hget, hlt, -⟩ := arraySet_eq_ok.1 hset
      have := hfull _ (arrayLength_eq_ok.2 ⟨items, hget, rfl⟩)
      omega

end Arena

/-- **A module in memory keeps its arrays.** -/
theorem Module.keepsArrays_arena (a : Arena) : (Module.arena a).KeepsArrays := by
  refine keepsArrays_of_kind (fun m => ∃ a, m = .arena a) ?_ ?_ ⟨a, rfl⟩
  · rintro _ _ ⟨a, rfl⟩ ⟨k, i, x, rfl⟩
    cases hset : a.arraySet k i x with
    | error fault => exact ⟨a, by simp [arraySet, ofArena, hset]⟩
    | ok a' => exact ⟨a', by simp [arraySet, ofArena, hset]⟩
  · rintro _ ⟨a, rfl⟩
    exact a.storesWithin

/-! ## In a table -/

namespace LibraryMemory

variable {t : LibraryMemory} {k k' : UInt32} {o : LibraryObject}

theorem get?_put_self (ho : t.get? k = some o) (o' : LibraryObject) :
    (t.put k o').get? k = some o' :=
  Array.getElem?_setIfInBounds_self_of_lt (Array.getElem?_eq_some_iff.1 ho).1

theorem get?_put_of_ne (hne : k ≠ k') (o : LibraryObject) : (t.put k o).get? k' = t.get? k' :=
  Array.getElem?_setIfInBounds_ne fun heq => hne (UInt32.toNat_inj.1 heq)

end LibraryMemory

namespace Library

open LibraryMemory

variable {l : Library} {k : UInt32} {n i : Nat} {words : List Word}

/-- The module keeps what it is given in a table, and its arrays have lengths that it can report. -/
structure KeepsTable (l : Library) : Prop where
  accessors : l.accessors = .table
  reportable : ∀ k words, l.get? k = some (.array words) → words.length < 2 ^ 63

namespace KeepsTable

variable (hl : l.KeepsTable)

include hl

theorem arrayLength_eq_ok : l.arrayLength k = .ok n ↔
    ∃ words, l.get? k = some (.array words) ∧ words.length = n := by
  unfold arrayLength
  rw [hl.accessors]
  rcases hget : l.get? k with _ | _ | words | _
  · simp [Accessors.table, hget]
  · simp [Accessors.table, hget]
  · have hlength : (Int64.ofNat words.length).toInt = words.length :=
      Int64.toInt_ofNat_of_lt (hl.reportable k words hget)
    have hpos : ¬ (words.length : Int) < 0 := by omega
    simp [Accessors.table, hget, hlength, hpos]
  · simp [Accessors.table, hget]

theorem arraySet_of_array (hget : l.get? k = some (.array words)) (x : Value) :
    l.arraySet k i x = if i < words.length then
      (.ok (), l.withMemory (l.put k (.array (words.set i (Word.ofValue x)))))
    else (.error (.inModule (.accessor l.name "bytelink_array_set" 2)), l) := by
  unfold arraySet
  rw [hl.accessors]
  by_cases hi : i < words.length
  · simp [Accessors.table, hget, hi, changed, check]
  · simp [Accessors.table, hget, hi, changed, check, withMemory]

theorem arraySet_of_dead (hdead : ∀ words, l.get? k ≠ some (.array words)) (x : Value) :
    l.arraySet k i x = (.error (.inModule (.accessor l.name "bytelink_array_set" 1)), l) := by
  unfold arraySet
  rw [hl.accessors]
  rcases hget : l.get? k with _ | _ | words | _
  · simp [Accessors.table, hget, changed, check, withMemory]
  · simp [Accessors.table, hget, changed, check, withMemory]
  · exact absurd hget (hdead words)
  · simp [Accessors.table, hget, changed, check, withMemory]

/-- An element is kept as a word, which is read as the value that was stored. -/
theorem stored_put (hget : l.get? k = some (.array words)) (hi : i < words.length) (x : Value) :
    (Module.library l).Stored
      (.library (l.withMemory (l.put k (.array (words.set i (Word.ofValue x)))))) k i x where
  self := by
    simp [Module.arrayGet, arrayGet, withMemory, hl.accessors, Accessors.table,
      get?_put_self hget, hi, check]
  others k' j hj := by
    by_cases hk : k' = k
    · subst hk
      simp [Module.arrayGet, arrayGet, withMemory, hl.accessors, Accessors.table, hget,
        get?_put_self hget, Ne.symm (hj rfl), check]
    · simp [Module.arrayGet, arrayGet, withMemory, hl.accessors, Accessors.table,
        get?_put_of_ne (Ne.symm hk), check]
  lengths k' := by
    by_cases hk : k' = k
    · subst hk
      simp [Module.arrayLength, arrayLength, withMemory, hl.accessors, Accessors.table, hget,
        get?_put_self hget]
    · simp [Module.arrayLength, arrayLength, withMemory, hl.accessors, Accessors.table,
        get?_put_of_ne (Ne.symm hk)]
  texts k' := by
    have hanswers : (l.withMemory (l.put k (.array (words.set i (Word.ofValue x))))).responder k'
        = l.responder k' := by
      funext call buffer
      by_cases hk : k' = k
      · subst hk
        simp [responder, withMemory, hl.accessors, Accessors.table, hget, get?_put_self hget]
      · simp [responder, withMemory, hl.accessors, Accessors.table, get?_put_of_ne (Ne.symm hk)]
    simp only [Module.text, text, hanswers]
  streams k' := by
    by_cases hk : k' = k
    · subst hk
      simp [Module.stream, stream, withMemory, hl.accessors, Accessors.table, hget,
        get?_put_self hget]
    · simp [Module.stream, stream, withMemory, hl.accessors, Accessors.table,
        get?_put_of_ne (Ne.symm hk)]

theorem storesWithin : (Module.library l).StoresWithin where
  stores hn hi x := by
    obtain ⟨words, hget, rfl⟩ := hl.arrayLength_eq_ok.1 hn
    exact ⟨_, by simp [Module.arraySet, hl.arraySet_of_array hget, hi], hl.stored_put hget hi x⟩
  refuses {k i} hfull x := by
    by_cases harray : ∃ words, l.get? k = some (.array words)
    · obtain ⟨words, hget⟩ := harray
      have hle : ¬ i < words.length :=
        Nat.not_lt.2 (hfull _ (hl.arrayLength_eq_ok.2 ⟨words, hget, rfl⟩))
      refine ⟨.inModule (.accessor l.name "bytelink_array_set" 2), ?_⟩
      simp [Module.arraySet, hl.arraySet_of_array hget, hle]
    · refine ⟨.inModule (.accessor l.name "bytelink_array_set" 1), ?_⟩
      simp [Module.arraySet, hl.arraySet_of_dead (not_exists.1 harray)]

theorem arraySet (k : UInt32) (i : Nat) (x : Value) : (l.arraySet k i x).2.KeepsTable := by
  by_cases harray : ∃ words, l.get? k = some (.array words)
  · obtain ⟨words, hget⟩ := harray
    rw [hl.arraySet_of_array hget]
    split
    · refine ⟨hl.accessors, fun k' words' hget' => ?_⟩
      by_cases hk : k' = k
      · subst hk
        obtain rfl : words.set i (Word.ofValue x) = words' := by
          simpa [withMemory, get?_put_self hget] using hget'
        simpa using hl.reportable k' words hget
      · exact hl.reportable k' words' (by simpa [withMemory, get?_put_of_ne (Ne.symm hk)] using hget')
    · exact hl
  · rw [hl.arraySet_of_dead (not_exists.1 harray)]
    exact hl

/-- **A module that keeps a table keeps its arrays.** -/
theorem keepsArrays : (Module.library l).KeepsArrays := by
  refine Module.keepsArrays_of_kind (fun m => ∃ l : Library, m = .library l ∧ l.KeepsTable) ?_ ?_
    ⟨l, rfl, hl⟩
  · rintro _ _ ⟨l, rfl, hl⟩ ⟨k, i, x, rfl⟩
    exact ⟨_, rfl, hl.arraySet k i x⟩
  · rintro _ ⟨l, rfl, hl⟩
    exact hl.storesWithin

end KeepsTable

end Library

end GuestHost
