import Mathlib.Algebra.Group.Nat.Defs
import Mathlib.Data.List.FinRange
import GuestHost.Heap
import GuestHost.Module

/-!
# Laws of the heap and of arenas

The heap and the arena of a module are both arrays of entries that only grow. What a reference or a
handle leads to after an entry was added or replaced is said here once:

* `Heap.get?_put_self`, `Heap.get?_put_of_ne`, `Heap.get?_alloc_self`, `Heap.get?_alloc_of_some`, and
  the same for an `Arena`;
* `Heap.object_eq_ok`, `Heap.array_eq_ok`, `Arena.stream_eq_ok`, … — reading by kind;
* `Module.arrayValues_of_length`, `arrayValues_arena` — reading an array of a module element by element.

References and handles are 32-bit, so a new entry has a reference of its own as long as there are fewer
than `2 ^ 32` entries.
-/

namespace GuestHost

/-! ## The heap -/

namespace Heap

variable {h : Heap} {r r' : Ref} {e e' : Entry}

theorem lt_size_of_get? (hr : h.get? r = some e) : r.index.toNat < h.size :=
  (Array.getElem?_eq_some_iff.1 hr).1

@[simp] theorem size_put (e : Entry) : (h.put r e).size = h.size := Array.size_setIfInBounds

@[simp] theorem size_alloc (e : Entry) : (h.alloc e).2.size = h.size + 1 := Array.size_push e

theorem get?_put_self (hr : h.get? r = some e) (e' : Entry) : (h.put r e').get? r = some e' :=
  Array.getElem?_setIfInBounds_self_of_lt (lt_size_of_get? hr)

theorem get?_put_of_ne (hne : r ≠ r') (e : Entry) : (h.put r e).get? r' = h.get? r' := by
  refine Array.getElem?_setIfInBounds_ne fun heq => hne ?_
  cases r
  cases r'
  exact congrArg Ref.mk (UInt32.toNat_inj.1 heq)

theorem get?_alloc_of_some (hr : h.get? r = some e) (e' : Entry) :
    (h.alloc e').2.get? r = some e := by
  have hlt := lt_size_of_get? hr
  show (h.entries.push e')[r.index.toNat]? = some e
  rw [Array.getElem?_push_lt hlt]
  exact (Array.getElem?_eq_getElem hlt).symm.trans hr

/-- What is found after an entry was added was there before, or is the entry. -/
theorem get?_of_alloc (hr : (h.alloc e').2.get? r = some e) : h.get? r = some e ∨ e = e' := by
  have hpush : (h.entries.push e')[r.index.toNat]? = some e := hr
  rw [Array.getElem?_push] at hpush
  split at hpush
  · exact .inr (Option.some.inj hpush).symm
  · exact .inl hpush

/-- What is found after an entry was replaced was there before, or is the new entry. -/
theorem get?_of_put (hr : (h.put r e').get? r' = some e) : h.get? r' = some e ∨ e = e' := by
  by_cases heq : r = r'
  · subst heq
    obtain ⟨old, hold⟩ : ∃ old, h.get? r = some old := by
      have hlt := lt_size_of_get? hr
      rw [size_put] at hlt
      exact ⟨_, Array.getElem?_eq_getElem hlt⟩
    rw [get?_put_self hold] at hr
    exact .inr (Option.some.inj hr).symm
  · rw [get?_put_of_ne heq] at hr
    exact .inl hr

/-- The reference of a new entry, in a heap that has room for it. -/
theorem index_alloc (hroom : h.size < 2 ^ 32) (e : Entry) : (h.alloc e).1.index.toNat = h.size :=
  UInt32.toNat_ofNat_of_lt' hroom

theorem get?_alloc_self (hroom : h.size < 2 ^ 32) (e : Entry) :
    (h.alloc e).2.get? (h.alloc e).1 = some e := by
  show (h.entries.push e)[(h.alloc e).1.index.toNat]? = some e
  rw [index_alloc hroom]
  exact Array.getElem?_push_size

/-- A new entry is none of those that were there. -/
theorem ne_alloc_of_get? (hroom : h.size < 2 ^ 32) (hr : h.get? r = some e) (e' : Entry) :
    r ≠ (h.alloc e').1 := by
  rintro rfl
  have := lt_size_of_get? hr
  rw [index_alloc hroom] at this
  exact Nat.lt_irrefl _ this

theorem object_eq_ok {o : Object} : h.object r = .ok o ↔ h.get? r = some (.object o) := by
  unfold object
  rcases h.get? r with _ | ⟨_ | _⟩ <;> simp

theorem array_eq_ok {items : List Value} : h.array r = .ok items ↔ h.get? r = some (.array items) := by
  unfold array
  rcases h.get? r with _ | ⟨_ | _⟩ <;> simp

theorem field_eq_ok {name : String} {v : Value} :
    h.field r name = .ok v ↔
      ∃ o, h.get? r = some (.object o) ∧ (o.fields.get? name).getD .null = v := by
  unfold field
  cases ho : h.object r with
  | error fault =>
    simp only [reduceCtorEq, false_iff]
    rintro ⟨o, hr, -⟩
    rw [object_eq_ok.2 hr] at ho
    cases ho
  | ok o =>
    rw [object_eq_ok] at ho
    simp [ho]

/-- Setting a field of an object. -/
theorem setField_of_object {o : Object} (ho : h.get? r = some (.object o)) (name : String)
    (v : Value) :
    h.setField r name v = .ok (h.put r (.object { o with fields := o.fields.set name v })) := by
  rw [setField, object_eq_ok.2 ho]

/-- Setting an element of an array. -/
theorem arraySet_of_array {items : List Value} (ha : h.get? r = some (.array items)) {i : Nat}
    (hi : i < items.length) (v : Value) :
    h.arraySet r i v = .ok (h.put r (.array (items.set i v))) := by
  rw [arraySet, array_eq_ok.2 ha]
  exact if_pos hi

end Heap

/-! ## Arenas -/

namespace Arena

variable {a a' : Arena} {h h' : UInt32} {e e' : ArenaEntry}

theorem lt_size_of_get? (hh : a.get? h = some e) : h.toNat < a.size :=
  (Array.getElem?_eq_some_iff.1 hh).1

@[simp] theorem size_put (e : ArenaEntry) : (a.put h e).size = a.size := Array.size_setIfInBounds

@[simp] theorem size_alloc (e : ArenaEntry) : (a.alloc e).2.size = a.size + 1 := Array.size_push e

theorem get?_put_self (hh : a.get? h = some e) (e' : ArenaEntry) : (a.put h e').get? h = some e' :=
  Array.getElem?_setIfInBounds_self_of_lt (lt_size_of_get? hh)

theorem get?_put_of_ne (hne : h ≠ h') (e : ArenaEntry) : (a.put h e).get? h' = a.get? h' :=
  Array.getElem?_setIfInBounds_ne fun heq => hne (UInt32.toNat_inj.1 heq)

theorem get?_alloc_of_some (hh : a.get? h = some e) (e' : ArenaEntry) :
    (a.alloc e').2.get? h = some e := by
  have hlt := lt_size_of_get? hh
  show (a.entries.push e')[h.toNat]? = some e
  rw [Array.getElem?_push_lt hlt]
  exact (Array.getElem?_eq_getElem hlt).symm.trans hh

/-- The handle of the next object. -/
def next (a : Arena) : UInt32 := UInt32.ofNat a.size

theorem alloc_fst (e : ArenaEntry) : (a.alloc e).1 = .handle a.next := rfl

theorem toNat_next (hroom : a.size < 2 ^ 32) : a.next.toNat = a.size :=
  UInt32.toNat_ofNat_of_lt' hroom

theorem get?_alloc_next (hroom : a.size < 2 ^ 32) (e : ArenaEntry) :
    (a.alloc e).2.get? a.next = some e := by
  show (a.entries.push e)[a.next.toNat]? = some e
  rw [toNat_next hroom]
  exact Array.getElem?_push_size

/-- A new object is none of those that were there. -/
theorem ne_next_of_get? (hroom : a.size < 2 ^ 32) (hh : a.get? h = some e) : h ≠ a.next := by
  rintro rfl
  have := lt_size_of_get? hh
  rw [toNat_next hroom] at this
  exact Nat.lt_irrefl _ this

theorem array_eq_ok {items : List Value} : a.array h = .ok items ↔ a.get? h = some (.array items) := by
  unfold array
  rcases a.get? h with _ | ⟨_ | _ | _⟩ <;> simp

theorem stream_eq_ok {n : Int32} : a.stream h = .ok n ↔ a.get? h = some (.stream n) := by
  unfold stream
  rcases a.get? h with _ | ⟨_ | _ | _⟩ <;> simp

theorem setStream_of_stream {n : Int32} (hh : a.get? h = some (.stream n)) (m : Int32) :
    a.setStream h m = .ok (a.put h (.stream m)) := by
  rw [setStream, stream_eq_ok.2 hh]

theorem arraySet_of_array {items : List Value} (ha : a.get? h = some (.array items)) {i : Nat}
    (hi : i < items.length) (v : Value) :
    a.arraySet h i v = .ok (a.put h (.array (items.set i v))) := by
  rw [arraySet, array_eq_ok.2 ha]
  exact if_pos hi

theorem arraySet_eq_ok {i : Nat} {x : Value} : a.arraySet h i x = .ok a' ↔
    ∃ items, a.get? h = some (.array items) ∧ i < items.length ∧
      a.put h (.array (items.set i x)) = a' := by
  unfold arraySet
  simp only [← array_eq_ok]
  cases a.array h with
  | error fault => simp
  | ok items => by_cases hi : i < items.length <;> simp [hi]

end Arena

/-! ## Arrays of a module -/

/-- Elements read one after the other by index are those of the list. -/
theorem mapM_range_length {α β : Type} {xs : List α} {f : Nat → Except Fault β}
    {g : α → Except Fault β} (h : ∀ i, (hi : i < xs.length) → f i = g xs[i]) :
    (List.range xs.length).mapM f = xs.mapM g := by
  have hrange : List.range xs.length = (List.finRange xs.length).map Fin.val :=
    List.map_coe_finRange_eq_range.symm
  have hxs : xs = (List.finRange xs.length).map xs.get := (List.map_get_finRange xs).symm
  rw [hrange, List.mapM_map]
  conv_rhs => rw [hxs, List.mapM_map]
  exact congrArg (List.mapM · (List.finRange xs.length)) (funext fun i => h i i.isLt)

theorem Module.arrayValues_of_length {α : Type} {m : Module} {n : UInt32} {xs : List α}
    {g : α → Except Fault Value} (hlength : m.arrayLength n = .ok xs.length)
    (hget : ∀ i, (hi : i < xs.length) → m.arrayGet n i = g xs[i]) : m.arrayValues n = xs.mapM g := by
  unfold arrayValues
  rw [hlength]
  exact mapM_range_length hget

theorem Module.arrayValues_of_error {m : Module} {n : UInt32} {fault : Fault}
    (hlength : m.arrayLength n = .error fault) : m.arrayValues n = .error fault := by
  unfold arrayValues
  rw [hlength]

/-- The elements of an array of the module, read one after the other. -/
theorem arrayValues_arena {a : Arena} {n : UInt32} {items : List Value}
    (ha : a.get? n = some (.array items)) : (Module.arena a).arrayValues n = .ok items := by
  have harray := Arena.array_eq_ok.2 ha
  have hlength : (Module.arena a).arrayLength n = .ok items.length := by
    simp only [Module.arrayLength, harray, Except.map]
  have hget : ∀ i, (hi : i < items.length) → (Module.arena a).arrayGet n i = pure items[i] := by
    intro i hi
    simp only [Module.arrayGet, Arena.arrayGet, harray, List.getElem?_eq_getElem hi]
    rfl
  rw [Module.arrayValues_of_length hlength hget, List.mapM_pure, List.map_id']
  rfl

end GuestHost
