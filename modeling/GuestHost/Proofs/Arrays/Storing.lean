import GuestHost.Proofs.Actions
import GuestHost.Proofs.Arrays.Keeping

/-!
# Storing in arrays

A host finds arrays in its heap and in the attached module. Natives store elements one after the other, and
storing stops where the array ends.

* `Host.Fills` — what an array that was filled looks like, and that every other array is as it was;
* `Host.OnlyArrays` — nothing but what arrays hold is different;
* `Host.KeepsArray` — an array is one of the heap, or one of a module that keeps its arrays;
* `apply_arrayFill` — filling stores what there is room for, and changes nothing else, by induction on the
  elements.
-/

namespace GuestHost

/-! ## Arrays before and after -/

namespace Host

/-- All arrays have the same elements. -/
def SameArrays (h h' : Host) : Prop :=
  (∀ v, h'.arrayLength v = h.arrayLength v) ∧ ∀ v j, h'.arrayGet v j = h.arrayGet v j

/-- From `start` on an array holds the given elements, and all else is as it was. -/
structure Fills (h h' : Host) (array : Value) (start : Nat) (items : List Value) : Prop where
  length : ∀ v, h'.arrayLength v = h.arrayLength v
  inside : ∀ i, (hi : i < items.length) → h'.arrayGet array (start + i) = .ok items[i]
  outside : ∀ v j, (v = array → j < start ∨ start + items.length ≤ j) →
    h'.arrayGet v j = h.arrayGet v j

/-- Two hosts differ in nothing but what their arrays hold. -/
structure OnlyArrays (h h' : Host) : Prop where
  beside : { h' with heap := h.heap, attached := h.attached } = h
  objects : ∀ r, h'.heap.object r = h.heap.object r
  texts : ∀ v, h'.text v = h.text v
  descriptors : ∀ v, h'.descriptor v = h.descriptor v

/-- The number of elements that an array has from an index on; what is no array has none. -/
def room (h : Host) (v : Value) (i : Nat) : Nat :=
  match h.arrayLength v with
  | .ok n => n - i
  | .error _ => 0

/-- If an array is one of the attached module, this keeps its arrays. -/
def KeepsArray (h : Host) (v : Value) : Prop :=
  ∀ k m, v = .handle k → h.attached = some m → m.KeepsArrays

variable {h h₁ h' : Host} {v x : Value} {items : List Value} {n i : Nat}

/-- Arrays of the heap are always kept. -/
theorem keepsArray_ref (h : Host) (r : Ref) : h.KeepsArray (.ref r) :=
  fun _ _ hv => Value.noConfusion hv

/-- So are all arrays of a host to which no shared library is attached. -/
theorem keepsArray_of_no_library (hl : ∀ l, h.attached ≠ some (.library l)) (v : Value) :
    h.KeepsArray v := by
  intro k m _ hm
  cases m with
  | arena a => exact Module.keepsArrays_arena a
  | library l => exact absurd hm (hl l)

theorem sameArrays_refl (h : Host) : h.SameArrays h := ⟨fun _ => rfl, fun _ _ => rfl⟩

theorem fills_nil : h.Fills h' v i [] ↔ h.SameArrays h' := by
  constructor
  · intro hfills
    refine ⟨hfills.length, fun w j => hfills.outside w j fun _ => ?_⟩
    simp
    omega
  · rintro ⟨hlength, hget⟩
    exact ⟨hlength, fun i hi => absurd hi (Nat.not_lt_zero i), fun w j _ => hget w j⟩

theorem SameArrays.fills (hfirst : h.SameArrays h₁) (hrest : h₁.Fills h' v i items) :
    h.Fills h' v i items :=
  ⟨fun w => (hrest.length w).trans (hfirst.1 w), hrest.inside,
    fun w j hj => (hrest.outside w j hj).trans (hfirst.2 w j)⟩

/-- No array is kept in the file table. -/
theorem sameArrays_withFiles (h : Host) (t : FileTable) : h.SameArrays { h with files := t } :=
  ⟨fun w => by cases w <;> rfl, fun w j => by cases w <;> rfl⟩

theorem Fills.cons (hfirst : h.Fills h₁ v i [x]) (hrest : h₁.Fills h' v (i + 1) items) :
    h.Fills h' v i (x :: items) := by
  refine ⟨fun w => (hrest.length w).trans (hfirst.length w), fun j hj => ?_, fun w j hj => ?_⟩
  · cases j with
    | zero =>
      rw [hrest.outside v (i + 0) fun _ => by omega]
      exact hfirst.inside 0 (by simp)
    | succ j =>
      have hlt : j < items.length := by simpa using hj
      rw [show i + (j + 1) = i + 1 + j by omega, hrest.inside j hlt, List.getElem_cons_succ]
  · simp only [List.length_cons] at hj
    rw [hrest.outside w j fun hw => by have := hj hw; omega]
    refine hfirst.outside w j fun hw => ?_
    have := hj hw
    simp
    omega

/-- Elements that were there already make no difference. -/
theorem Fills.sameArrays (hfills : h.Fills h' v i items)
    (hsame : ∀ j, (hj : j < items.length) → h.arrayGet v (i + j) = .ok items[j]) :
    h.SameArrays h' := by
  refine ⟨hfills.length, fun w j => ?_⟩
  by_cases hin : w = v ∧ i ≤ j ∧ j < i + items.length
  · obtain ⟨rfl, hle, hlt⟩ := hin
    obtain ⟨k, rfl⟩ := Nat.exists_eq_add_of_le hle
    have hk : k < items.length := by omega
    rw [hfills.inside k hk, hsame k hk]
  · refine hfills.outside w j fun hw => ?_
    by_contra hnot
    exact hin ⟨hw, by omega, by omega⟩

theorem OnlyArrays.refl (h : Host) : h.OnlyArrays h :=
  ⟨rfl, fun _ => rfl, fun _ => rfl, fun _ => rfl⟩

theorem OnlyArrays.trans (hfirst : h.OnlyArrays h₁) (hrest : h₁.OnlyArrays h') : h.OnlyArrays h' where
  beside := by
    rw [← hfirst.beside, ← hrest.beside]
  objects r := (hrest.objects r).trans (hfirst.objects r)
  texts v := (hrest.texts v).trans (hfirst.texts v)
  descriptors v := (hrest.descriptors v).trans (hfirst.descriptors v)

theorem room_of_length (hn : h.arrayLength v = .ok n) (i : Nat) : h.room v i = n - i := by
  rw [room, hn]

theorem exists_length_of_room (hroom : 0 < h.room v i) : ∃ n, h.arrayLength v = .ok n ∧ i < n := by
  unfold room at hroom
  cases hn : h.arrayLength v with
  | error fault => simp [hn] at hroom
  | ok n =>
    simp only [hn] at hroom
    exact ⟨n, rfl, by omega⟩

end Host

/-! ## Storing one element -/

namespace Heap

/-- The element `i` of the array `r` holds `x`, and all else is as it was. -/
structure Stored (h h' : Heap) (r : Ref) (i : Nat) (x : Value) : Prop where
  self : h'.arrayGet r i = .ok x
  others : ∀ r' j, (r' = r → j ≠ i) → h'.arrayGet r' j = h.arrayGet r' j
  lengths : ∀ r', (h'.array r').map List.length = (h.array r').map List.length
  objects : ∀ r', h'.object r' = h.object r'

variable {h : Heap} {r : Ref} {i : Nat} {items : List Value}

theorem stored_put (hget : h.get? r = some (.array items)) (hi : i < items.length) (x : Value) :
    h.Stored (h.put r (.array (items.set i x))) r i x where
  self := by simp [arrayGet, array, get?_put_self hget, hi]
  others r' j hj := by
    by_cases hr : r' = r
    · subst hr
      simp [arrayGet, array, hget, get?_put_self hget, Ne.symm (hj rfl)]
    · simp [arrayGet, array, get?_put_of_ne (Ne.symm hr)]
  lengths r' := by
    by_cases hr : r' = r
    · subst hr
      simp [array, hget, get?_put_self hget, Except.map]
    · simp [array, get?_put_of_ne (Ne.symm hr)]
  objects r' := by
    by_cases hr : r' = r
    · subst hr
      simp [object, hget, get?_put_self hget]
    · simp [object, get?_put_of_ne (Ne.symm hr)]

/-- What there is no room for is not stored. -/
theorem exists_fault_of_arraySet (h : Heap) (r : Ref) {i : Nat}
    (hi : ∀ items, h.array r = .ok items → items.length ≤ i) (x : Value) :
    ∃ fault, h.arraySet r i x = .error fault := by
  unfold arraySet
  cases hr : h.array r with
  | error fault => exact ⟨fault, rfl⟩
  | ok items => exact ⟨_, if_neg (Nat.not_lt.2 (hi items hr))⟩

end Heap

namespace Host

variable {h : Host} {heap : Heap} {m m' : Module} {r : Ref} {k : UInt32} {i : Nat} {x : Value}

theorem fills_of_heap (hs : h.heap.Stored heap r i x) : h.Fills { h with heap } (.ref r) i [x] where
  length w := by
    cases w with
    | ref r' => exact hs.lengths r'
    | null | int | long | float | double | handle => rfl
  inside j hj := by
    obtain rfl : j = 0 := by simpa using hj
    exact hs.self
  outside w j hj := by
    cases w with
    | ref r' =>
      refine hs.others r' j fun hr => ?_
      have := hj (congrArg Value.ref hr)
      simp at this
      omega
    | null | int | long | float | double | handle => rfl

theorem onlyArrays_of_heap (hs : h.heap.Stored heap r i x) : h.OnlyArrays { h with heap } where
  beside := rfl
  objects := hs.objects
  texts w := by
    have hmode : { h with heap }.mode = h.mode := rfl
    cases w <;> simp only [text, Heap.text, hs.objects, hmode]
    rfl
  descriptors w := by
    cases w <;> simp only [descriptor, Heap.field, hs.objects]
    rfl

theorem fills_of_module (hm : h.attached = some m) (hs : m.Stored m' k i x) :
    h.Fills { h with attached := some m' } (.handle k) i [x] where
  length w := by
    cases w with
    | handle k' =>
      rw [arrayLength_handle rfl, arrayLength_handle hm]
      exact hs.lengths k'
    | null | int | long | float | double | ref => rfl
  inside j hj := by
    obtain rfl : j = 0 := by simpa using hj
    rw [arrayGet_handle rfl]
    exact hs.self
  outside w j hj := by
    cases w with
    | handle k' =>
      rw [arrayGet_handle rfl, arrayGet_handle hm]
      refine hs.others k' j fun hk => ?_
      have := hj (congrArg Value.handle hk)
      simp at this
      omega
    | null | int | long | float | double | ref => rfl

theorem onlyArrays_of_module (hm : h.attached = some m) (hs : m.Stored m' k i x) :
    h.OnlyArrays { h with attached := some m' } where
  beside := rfl
  objects _ := rfl
  texts w := by
    have hmode : { h with attached := some m' }.mode = h.mode := rfl
    cases w with
    | handle n =>
      cases hexported : h.mode <;> simp only [text, hmode, hexported, module?, hm]
      exact hs.texts n
    | null | int | long | float | double | ref => simp only [text]
  descriptors w := by
    cases w with
    | handle n =>
      rw [descriptor_handle rfl, descriptor_handle hm]
      exact hs.streams n
    | null | int | long | float | double | ref => rfl

end Host

namespace Action

variable {h h' : Host} {v x : Value} {items : List Value} {n i : Nat}

/-- Where there is an element another one can be stored, and it is the only one that changes. -/
theorem arraySet_of_length (hk : h.KeepsArray v) (hn : h.arrayLength v = .ok n) (hi : i < n)
    (x : Value) : ∃ h', (arraySet v i x).apply h = (.ok (), h') ∧ h.Fills h' v i [x] ∧
      h.OnlyArrays h' ∧ h'.KeepsArray v := by
  cases v with
  | ref r =>
    simp only [Host.arrayLength, Except.map] at hn
    cases ha : h.heap.array r with
    | error fault => simp [ha] at hn
    | ok items =>
      have hget := Heap.array_eq_ok.1 ha
      obtain rfl : items.length = n := by simpa [ha] using hn
      have hs := Heap.stored_put hget hi x
      refine ⟨{ h with heap := _ }, ?_, Host.fills_of_heap hs, Host.onlyArrays_of_heap hs,
        Host.keepsArray_ref _ r⟩
      show (updateHeap fun heap => heap.arraySet r i x).apply h = _
      exact apply_updateHeap_of_ok (Heap.arraySet_of_array hget hi x)
  | handle k =>
    cases hm : h.attached with
    | none =>
      rw [Host.arrayLength, Host.module?_of_none hm] at hn
      cases hn
    | some m =>
      rw [Host.arrayLength_handle hm] at hn
      obtain ⟨m', hset, hs⟩ := (hk k m rfl hm).storesWithin.stores hn hi x
      refine ⟨{ h with attached := some m' }, ?_, Host.fills_of_module hm hs,
        Host.onlyArrays_of_module hm hs, ?_⟩
      · show (onModule fun m => m.arraySet k i x).apply h = _
        rw [apply_onModule_of_attached hm, hset]
      · rintro _ _ - ⟨⟩
        have hkeeps := (hk k m rfl hm).arraySet k i x
        rwa [hset] at hkeeps
  | null | int | long | float | double => cases hn

/-- Where there is no room nothing is stored. -/
theorem arraySet_refused (hk : h.KeepsArray v) (hroom : h.room v i = 0) (x : Value) :
    Refuses (arraySet v i x) h := by
  have hfull : ∀ n, h.arrayLength v = .ok n → n ≤ i := by
    intro n hn
    rw [Host.room_of_length hn] at hroom
    omega
  cases v with
  | ref r =>
    obtain ⟨fault, ha⟩ := h.heap.exists_fault_of_arraySet r (i := i) (fun items hr => hfull _ (by
      simp [Host.arrayLength, hr, Except.map])) x
    refine ⟨fault, ?_⟩
    show (updateHeap fun heap => heap.arraySet r i x).apply h = _
    rw [apply_updateHeap, ha]
  | handle k =>
    show Refuses (onModule fun m => m.arraySet k i x) h
    cases hm : h.attached with
    | none => exact ⟨.inModule .notAttached, by rw [apply_onModule, Host.module?_of_none hm]⟩
    | some m =>
      rw [Host.arrayLength_handle hm] at hfull
      obtain ⟨fault, hset⟩ := (hk k m rfl hm).storesWithin.refuses hfull x
      exact ⟨fault, by rw [apply_onModule_of_attached hm, hset, ← hm]⟩
  | null | int | long | float | double => exact ⟨_, rfl⟩

/-! ## Storing elements one after the other -/

/-- **Filling stores what there is room for**, and has no fault exactly if there is room for all. Nothing
but the array changes. -/
theorem apply_arrayFill (hk : h.KeepsArray v) (items : List Value) (i : Nat) :
    ∃ r h', (arrayFill v i items).apply h = (r, h') ∧ h.Fills h' v i (items.take (h.room v i)) ∧
      h.OnlyArrays h' ∧ h'.KeepsArray v ∧ (r = .ok () ↔ items.length ≤ h.room v i) := by
  induction items generalizing h i with
  | nil =>
    exact ⟨.ok (), h, rfl, by simpa using Host.fills_nil.2 h.sameArrays_refl, .refl h, hk, by simp⟩
  | cons x rest ih =>
    by_cases hroom : h.room v i = 0
    · obtain ⟨fault, hset⟩ := arraySet_refused hk hroom x
      refine ⟨.error fault, h, apply_bind_of_error hset _, ?_, .refl h, hk, by simp [hroom]⟩
      simpa [hroom] using Host.fills_nil.2 h.sameArrays_refl
    · obtain ⟨n, hn, hi⟩ := Host.exists_length_of_room (Nat.pos_of_ne_zero hroom)
      obtain ⟨h₁, hset, hfirst, honly, hk₁⟩ := arraySet_of_length hk hn hi x
      obtain ⟨r, h', hrest, hfills, honly', hk', hok⟩ := ih hk₁ (i + 1)
      have hmore : h.room v i = h₁.room v (i + 1) + 1 := by
        rw [Host.room_of_length hn, Host.room_of_length ((hfirst.length v).trans hn)]
        omega
      refine ⟨r, h', (apply_bind_of_ok hset _).trans hrest, ?_, honly.trans honly', hk', ?_⟩
      · rw [hmore, List.take_succ_cons]
        exact hfirst.cons hfills
      · rw [hok, hmore, List.length_cons]
        omega

/-- Filling a window within an array has no fault. -/
theorem arrayFill_of_length (hk : h.KeepsArray v) (hn : h.arrayLength v = .ok n)
    (hi : i + items.length ≤ n) :
    ∃ h', (arrayFill v i items).apply h = (.ok (), h') ∧ h.Fills h' v i items := by
  obtain ⟨r, h', hfill, hfills, -, -, hok⟩ := apply_arrayFill hk items i
  rw [Host.room_of_length hn] at hfills hok
  obtain rfl := hok.2 (by omega)
  rw [List.take_of_length_le (by omega)] at hfills
  exact ⟨h', hfill, hfills⟩

end Action

end GuestHost
