import GuestHost.Proofs.TextObjects.Access

/-!
# New arrays

Natives hand out characters and bytes in arrays. Wherever a host keeps its arrays, a new one is beside all
that was there.

* `Host.newArray_of_holdsTexts` — a new array holds the elements that it was made of, as long as references
  do not run out;
* `Host.arrayValues_withArray`, `Host.text_withArray` — what a host then reads.
-/

namespace GuestHost

open GuestHost.Action

/-! ## New arrays -/

namespace Contents

variable {K E : Type}

/-- The contents after an array was made. -/
def withArray [DecidableEq K] (c : Contents K) (k : K) (items : List Value) : Contents K :=
  { c with arrays := Function.update c.arrays k (some items) }

variable [DecidableEq K] {place : K → Nat} {text? : E → Option (List Char)}
  {items? : E → Option (List Value)} {entries : Array E} {k : K} {e : E} {items : List Value}

/-- Contents that differ in one array only. -/
theorem eq_withArray {c c' : Contents K} (hself : c'.arrays k = some items)
    (harrays : ∀ j ≠ k, c'.arrays j = c.arrays j) (htexts : ∀ j, c'.texts j = c.texts j) :
    c' = c.withArray k items := by
  have heq : c'.arrays = Function.update c.arrays k (some items) :=
    Function.eq_update_iff.2 ⟨hself, harrays⟩
  cases c'
  obtain rfl : _ = c.texts := funext htexts
  exact congrArg (Contents.mk c.texts) heq

/-- A new entry that is an array. -/
theorem ofEntries_push_array (hplace : place.Injective) (hk : place k = entries.size)
    (harray : items? e = some items) (htext : text? e = none) :
    ofEntries place text? items? (entries.push e)
      = (ofEntries place text? items? entries).withArray k items := by
  refine eq_withArray ?_ (fun j hj => ?_) fun j => ?_
  · show (entries.push e)[place k]?.bind items? = _
    rw [getElem?_push_place hplace hk, if_pos rfl, Option.bind_some, harray]
  · show (entries.push e)[place j]?.bind items? = _
    rw [getElem?_push_place hplace hk, if_neg hj]
    rfl
  · show (entries.push e)[place j]?.bind text? = entries[place j]?.bind text?
    rw [getElem?_push_place hplace hk]
    by_cases hj : j = k
    · rw [if_pos hj, hj, hk, Array.getElem?_eq_none (Nat.le_refl _), Option.bind_some, htext]
      rfl
    · rw [if_neg hj]

omit [DecidableEq K] in
theorem ofEntries_arrays_size (hk : place k = entries.size) :
    (ofEntries place text? items? entries).arrays k = none := by
  show entries[place k]?.bind items? = none
  rw [hk, Array.getElem?_eq_none (Nat.le_refl _)]
  rfl

variable {heap : Contents Ref} {inModule : Contents UInt32}

theorem join_withArray_ref (r : Ref) (items : List Value) :
    (heap.withArray r items).join inModule = (heap.join inModule).withArray (.ref r) items := by
  refine eq_withArray ?_ (fun v hv => ?_) fun v => ?_
  · exact Function.update_self r (some items) heap.arrays
  · cases v with
    | ref r' => exact Function.update_of_ne (fun heq => hv (congrArg Value.ref heq)) _ _
    | null | int | long | float | double | handle => rfl
  · cases v <;> rfl

theorem join_withArray_handle (n : UInt32) (items : List Value) :
    heap.join (inModule.withArray n items) = (heap.join inModule).withArray (.handle n) items := by
  refine eq_withArray ?_ (fun v hv => ?_) fun v => ?_
  · exact Function.update_self n (some items) inModule.arrays
  · cases v with
    | handle n' => exact Function.update_of_ne (fun heq => hv (congrArg Value.handle heq)) _ _
    | null | int | long | float | double | ref => rfl
  · cases v <;> rfl

end Contents

/-- A new array is beside all that was there, in a heap that has room for it. -/
theorem Heap.alloc_array (h : Heap) (items : List Value) :
    ∃ r h', h.alloc (.array items) = (r, h') ∧ h'.size = h.size + 1 ∧
      (h.size < 2 ^ 32 →
        h.contents.arrays r = none ∧ h'.contents = h.contents.withArray r items) := by
  refine ⟨_, _, rfl, size_alloc _, fun hroom => ?_⟩
  have hindex := index_alloc hroom (.array items)
  rw [contents_eq, contents_eq]
  exact ⟨Contents.ofEntries_arrays_size hindex,
    Contents.ofEntries_push_array index_injective hindex rfl rfl⟩

/-- A new array is beside all that was there, in a module that has room for it. -/
theorem Arena.newArray_eq (a : Arena) (items : List Value) :
    ∃ n a', (Module.arena a).newArray items = (.ok (.handle n), .arena a') ∧ a'.size = a.size + 1 ∧
      (a.size < 2 ^ 32 → (Module.arena a).contents.arrays n = none ∧
        (Module.arena a').contents = (Module.arena a).contents.withArray n items) := by
  refine ⟨a.next, (a.alloc (.array items)).2, rfl, size_alloc _, fun hroom => ?_⟩
  rw [contents_eq, contents_eq]
  exact ⟨Contents.ofEntries_arrays_size (toNat_next hroom),
    Contents.ofEntries_push_array toNat_injective (toNat_next hroom) rfl rfl⟩

namespace Action

variable {h : Host}

theorem apply_newArray_direct (hm : h.mode = .direct) (items : List Value) :
    (newArray items).apply h = (.ok (.ref (h.heap.alloc (.array items)).1),
      { h with heap := (h.heap.alloc (.array items)).2 }) := by
  unfold newArray
  rw [apply_bind, apply_get]
  simp only [hm]
  rw [apply_bind, apply_allocArray]
  rfl

theorem apply_newArray_exported (hm : h.mode = .exported) (items : List Value) :
    (newArray items).apply h = (onModule fun m => m.newArray items).apply h := by
  unfold newArray
  rw [apply_bind, apply_get]
  simp only [hm]

end Action

/-- A new array is beside all that was there, as long as references do not run out. -/
theorem Host.newArray_of_holdsTexts {h : Host} (hh : h.HoldsTexts) (items : List Value) :
    ∃ v h', (newArray items).apply h = (.ok v, h') ∧ h'.HoldsTexts ∧
      h'.storeSize = h.storeSize + 1 ∧
      (h.storeSize < 2 ^ 32 →
        h.contents.arrays v = none ∧ h'.contents = h.contents.withArray v items) := by
  cases hm : h.mode with
  | direct =>
    obtain ⟨r, heap, halloc, hsize, hroom⟩ := h.heap.alloc_array items
    refine ⟨.ref r, { h with heap }, ?_, hh, ?_, ?_⟩
    · rw [apply_newArray_direct hm, halloc]
    · rw [storeSize_direct hm, storeSize_with_heap hm, hsize]
    · rw [storeSize_direct hm]
      intro hlt
      obtain ⟨hfresh, hcontents⟩ := hroom hlt
      rw [contents_with_heap heap, hcontents, contents_eq_join h, Contents.join_withArray_ref]
      exact ⟨hfresh, rfl⟩
  | exported =>
    obtain ⟨a, ha⟩ := hh hm
    obtain ⟨n, a', hnew, hsize, hroom⟩ := a.newArray_eq items
    refine ⟨.handle n, { h with attached := some (.arena a') }, ?_, fun _ => ⟨a', rfl⟩, ?_, ?_⟩
    · rw [apply_newArray_exported hm, apply_onModule_of_attached ha]
      simp only [hnew]
    · rw [storeSize_exported hm ha, storeSize_with_module hm, hsize]
    · rw [storeSize_exported hm ha]
      intro hlt
      obtain ⟨hfresh, hcontents⟩ := hroom hlt
      rw [contents_with_module hm, hcontents, contents_eq_join h, moduleContents_exported hm ha,
        Contents.join_withArray_handle]
      exact ⟨hfresh, rfl⟩

/-! ## Reading what was made -/

namespace Host

variable {h : Host} {v : Value} {s : String} {cs : List Char} {items : List Value}

theorem contents_texts_eq (hs : h.text v = .ok s) : h.contents.texts v = some s.toList := by
  show readText (h.text v) = _
  rw [hs, readText_ok]

theorem text_of_contents (ht : h.contents.texts v = some cs) : h.text v = .ok (String.ofList cs) := by
  have hread : readText (h.text v) = some cs := ht
  cases hv : h.text v with
  | error fault =>
    rw [hv] at hread
    cases hread
  | ok s =>
    rw [hv, readText_ok, Option.some.injEq] at hread
    rw [← hread, String.ofList_toList]

theorem contents_arrays_eq_some : h.contents.arrays v = some items ↔ h.arrayValues v = .ok items := by
  show (h.arrayValues v).toOption = _ ↔ _
  cases h.arrayValues v <;> simp [Except.toOption]

/-- A host reads an array that was made. -/
theorem arrayValues_withArray {h' : Host} (hh : h'.contents = h.contents.withArray v items) :
    h'.arrayValues v = .ok items := by
  refine contents_arrays_eq_some.1 ?_
  rw [hh]
  exact Function.update_self v (some items) h.contents.arrays

/-- It reads every text as before. -/
theorem text_withArray {h' : Host} {array : Value} (hh : h'.contents = h.contents.withArray array items)
    (hs : h.text v = .ok s) : h'.text v = .ok s := by
  have htexts : h'.contents.texts v = some s.toList := by
    rw [hh]
    exact contents_texts_eq hs
  rw [text_of_contents htexts, String.ofList_toList]

/-- A host reads a text that was written. -/
theorem text_write {h' : Host} (hh : h'.contents = h.contents.write v cs) :
    h'.text v = .ok (String.ofList cs) := by
  refine text_of_contents ?_
  rw [hh]
  exact Function.update_self v (some cs) h.contents.texts

end Host

end GuestHost
