import Mathlib.Algebra.Group.Nat.Defs
import GuestHost.Files.Table

/-!
# Slots of the file table

What the pieces of a file operation do to the slots of a table.

* `place?_eq_some`, `le_of_place?` — numbers and places correspond, in order;
* `slot?_putSlot_self`, `slot?_putSlot_of_ne`, `slot?_flush`, `slots_occupy` — what a number stands for
  after one slot was replaced, the console was flushed, or a file was opened;
* `slots_freePlace`, `exists_slot_of_lt_freePlace` — the first free place is free, and those before it
  are not;
* `openCount_occupy`, `openCount_putReading`, `openCount_release` — how many readings are open then.
-/

namespace GuestHost.FileTable

variable {t : FileTable} {m n : Int32} {i j : Nat}

/-! ## Numbers and places -/

theorem place?_eq_some : place? n = some i ↔ n.toInt = i := by
  unfold place?
  by_cases h : n < 0
  · have h' : n.toInt < 0 := by simpa [Int32.lt_iff_toInt_lt] using h
    simp only [if_pos h, reduceCtorEq, false_iff]
    omega
  · have h' : 0 ≤ n.toInt := by simpa [Int32.lt_iff_toInt_lt] using h
    simp only [if_neg h, Option.some.injEq]
    omega

theorem place?_ofNat (h : i < 2 ^ 31) : place? (Int32.ofNat i) = some i :=
  place?_eq_some.2 (Int32.toInt_ofNat_of_lt h)

/-- Two numbers with the same place are the same number. -/
theorem place?_inj (hm : place? m = some i) (hn : place? n = some i) : m = n := by
  rw [place?_eq_some] at hm hn
  exact Int32.toInt_inj.1 (hm.trans hn.symm)

/-- Numbers are 32-bit, so the places that have a number are those below `2 ^ 31`. -/
theorem place?_lt (h : place? n = some i) : i < 2 ^ 31 := by
  have := n.toInt_lt
  rw [place?_eq_some] at h
  omega

theorem le_of_place? (hm : place? m = some i) (hn : place? n = some j) : m ≤ n ↔ i ≤ j := by
  rw [place?_eq_some] at hm hn
  rw [Int32.le_iff_toInt_le]
  omega

/-- The numbers from 3 on are those whose place is. -/
theorem exists_place?_of_three_le (h : 3 ≤ n) : ∃ i, place? n = some i ∧ firstReading ≤ i := by
  have h' : 3 ≤ n.toInt := by simpa [Int32.le_iff_toInt_le] using h
  refine ⟨n.toInt.toNat, place?_eq_some.2 (by omega), ?_⟩
  unfold firstReading
  omega

/-! ## What a number stands for -/

theorem slot?_of_place? (h : place? n = some i) : t.slot? n = (t.slots[i]?).join := by
  simp [slot?, h]

theorem slot?_eq_some {s : Slot} :
    t.slot? n = some s ↔ ∃ i, place? n = some i ∧ t.slots[i]? = some (some s) := by
  unfold slot?
  cases place? n <;> simp [Option.join_eq_some_iff]

theorem slot?_putSlot_self {s₀ : Slot} (h : t.slot? n = some s₀) (s : Option Slot) :
    (t.putSlot n s).slot? n = s := by
  obtain ⟨i, hi, hs⟩ := slot?_eq_some.1 h
  have hlt : i < t.slots.length := (List.getElem?_eq_some_iff.1 hs).1
  simp [putSlot, slot?, hi, List.getElem?_set_self hlt]

theorem slot?_putSlot_of_ne (h : n ≠ m) (s : Option Slot) :
    (t.putSlot n s).slot? m = t.slot? m := by
  unfold putSlot slot?
  cases hn : place? n with
  | none => rfl
  | some i =>
    cases hm : place? m with
    | none => rfl
    | some j =>
      have hij : i ≠ j := by
        rintro rfl
        exact h (place?_inj hn hm)
      simp [List.getElem?_set_ne hij]

@[simp] theorem slot?_emit (stream : ConsoleStream) (lines : List Bytes) :
    (t.emit stream lines).slot? n = t.slot? n := rfl

/-- A flush takes the unfinished lines from the console streams, and does nothing else to a slot. -/
theorem slot?_flush : t.flush.slot? n = (t.slot? n).map Slot.flushed := by
  unfold slot? flush
  cases place? n with
  | none => rfl
  | some i =>
    cases h : t.slots[i]? with
    | none => simp [h]
    | some s => cases s <;> simp [h]

/-! ## Open readings -/

theorem reading?_eq_some {r : Reading} : t.reading? n = some r ↔ t.slot? n = some (.reading r) := by
  unfold reading?
  cases t.slot? n with
  | none => simp
  | some s => cases s <;> simp [Slot.reading?]

theorem reading?_putReading_self {r : Reading} (h : t.reading? n = some r) (r' : Reading) :
    (t.putReading n r').reading? n = some r' :=
  reading?_eq_some.2 (slot?_putSlot_self (reading?_eq_some.1 h) _)

theorem reading?_congr {t' : FileTable} (h : t'.slot? n = t.slot? n) :
    t'.reading? n = t.reading? n := by
  rw [reading?, reading?, h]

/-! ## The first free place -/

theorem freePlace_le (t : FileTable) : t.freePlace ≤ t.slots.length := by
  unfold freePlace
  split
  · rename_i offset hf
    have := (List.findIdx?_eq_some_iff_getElem.1 hf).1
    rw [List.length_drop] at this
    omega
  · exact Nat.le_refl _

theorem three_le_freePlace (h : firstReading ≤ t.slots.length) : firstReading ≤ t.freePlace := by
  unfold freePlace
  split
  · exact Nat.le_add_right _ _
  · exact h

theorem slots_freePlace : (t.slots[t.freePlace]?).join = none := by
  unfold freePlace
  split
  · rename_i offset hf
    obtain ⟨hlt, hnone, -⟩ := List.findIdx?_eq_some_iff_getElem.1 hf
    rw [← List.getElem?_drop, List.getElem?_eq_getElem hlt]
    simpa using hnone
  · simp

/-- Every place before the first free one is taken. -/
theorem exists_slot_of_lt_freePlace (h : firstReading ≤ j) (hj : j < t.freePlace) :
    ∃ s, t.slots[j]? = some (some s) := by
  obtain ⟨k, rfl⟩ : ∃ k, j = firstReading + k := ⟨j - firstReading, by omega⟩
  rw [← List.getElem?_drop]
  unfold freePlace at hj
  split at hj
  · rename_i offset hf
    obtain ⟨hlt, -, hbefore⟩ := List.findIdx?_eq_some_iff_getElem.1 hf
    have hk : k < offset := by omega
    rw [List.getElem?_eq_getElem (Nat.lt_trans hk hlt)]
    have := hbefore k hk
    exact ⟨_, by simpa [Option.isSome_iff_ne_none] using congrArg some (Option.some_get (by
      simpa [Option.isSome_iff_ne_none] using this)).symm⟩
  · rename_i hf
    have hlt : k < (t.slots.drop firstReading).length := by
      rw [List.length_drop]
      omega
    rw [List.getElem?_eq_getElem hlt]
    have := List.findIdx?_eq_none_iff.1 hf _ (List.getElem_mem hlt)
    cases hs : (t.slots.drop firstReading)[k] with
    | none => simp [hs] at this
    | some s => exact ⟨s, rfl⟩

theorem slots_occupy (t : FileTable) (buffer : Bytes) (j : Nat) :
    (t.occupy buffer).slots[j]? =
      if j = t.freePlace then some (some (.reading (.start buffer))) else t.slots[j]? := by
  have hle := t.freePlace_le
  unfold occupy
  by_cases hlt : t.freePlace < t.slots.length
  · simp only [if_pos hlt, List.getElem?_set]
    grind
  · have heq : t.freePlace = t.slots.length := by omega
    simp only [if_neg hlt, List.getElem?_append]
    grind

/-! ## Counting open readings -/

/-- Replacing a slot by one of the same sort leaves as many readings open. -/
theorem openCount_set {s₀ s : Option Slot} (h : t.slots[i]? = some s₀)
    (hs : (s₀.bind Slot.reading?).isSome = (s.bind Slot.reading?).isSome) :
    { t with slots := t.slots.set i s }.openCount = t.openCount := by
  obtain ⟨hlt, rfl⟩ := List.getElem?_eq_some_iff.1 h
  have hpos : (t.slots[i].bind Slot.reading?).isSome = true → 0 < t.openCount := fun hp =>
    List.countP_pos_iff.2 ⟨_, List.getElem_mem hlt, hp⟩
  unfold openCount at hpos ⊢
  simp only [List.countP_set hlt, ← hs]
  by_cases hp : (t.slots[i].bind Slot.reading?).isSome = true
  · have := hpos hp
    simp only [if_pos hp]
    omega
  · simp only [if_neg hp]
    omega

theorem openCount_occupy (t : FileTable) (buffer : Bytes) :
    (t.occupy buffer).openCount = t.openCount + 1 := by
  unfold occupy openCount
  by_cases hlt : t.freePlace < t.slots.length
  · have hnone : t.slots[t.freePlace] = none := by
      simpa [List.getElem?_eq_getElem hlt] using slots_freePlace (t := t)
    simp only [if_pos hlt, List.countP_set hlt, hnone]
    rfl
  · simp only [if_neg hlt, List.countP_append, List.countP_singleton]
    rfl

theorem openCount_putReading {r : Reading} (h : t.reading? n = some r) (r' : Reading) :
    (t.putReading n r').openCount = t.openCount := by
  obtain ⟨i, hi, hs⟩ := slot?_eq_some.1 (reading?_eq_some.1 h)
  have := openCount_set hs (s := some (.reading r')) rfl
  simpa only [putReading, putSlot, hi] using this

theorem openCount_release {r : Reading} (h : t.reading? n = some r) :
    (t.putSlot n none).openCount + 1 = t.openCount := by
  obtain ⟨i, hi, hs⟩ := slot?_eq_some.1 (reading?_eq_some.1 h)
  obtain ⟨hlt, hr⟩ := List.getElem?_eq_some_iff.1 hs
  have hpos : 0 < t.openCount := List.countP_pos_iff.2 ⟨_, List.getElem_mem hlt, by rw [hr]; rfl⟩
  unfold openCount at hpos ⊢
  simp only [putSlot, hi, List.countP_set hlt, hr]
  show _ - 1 + 0 + 1 = _
  omega

end GuestHost.FileTable
