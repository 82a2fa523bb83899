import GuestHost.Proofs.Files.Operations

/-!
# Tables before files are enabled

As long as files may not be opened and none is open, nothing that is done to a file table opens one:
openings answer -1, no path exists, and only console streams change. It stays so until files are enabled.

* `Closed` — files may not be opened, and none is open;
* `Closed.openForRead`, `Closed.holds`, `Closed.reading?` — what such a table answers;
* `Closed.apply` — whatever is done to it other than enabling leaves such a table.
-/

namespace GuestHost.FileTable

variable {t : FileTable}

/-- Replacing a slot leaves whether files may be opened alone. -/
theorem enabled_putSlot (t : FileTable) (n : Int32) (s : Option Slot) :
    (t.putSlot n s).enabled = t.enabled := by
  unfold putSlot
  split <;> rfl

theorem enabled_write (t : FileTable) (n : Int32) (bytes : Bytes) :
    (t.write n bytes).2.enabled = t.enabled := by
  unfold FileTable.write
  split
  · exact enabled_putSlot _ n _
  · rfl

/-- Files may not be opened, and none is open. -/
structure Closed (t : FileTable) : Prop where
  disabled : t.enabled = false
  none_open : t.openCount = 0

theorem closed_empty : Closed empty := ⟨rfl, rfl⟩

namespace Closed

/-- An opening answers -1 and changes nothing. -/
theorem openForRead (ht : t.Closed) (source : FileSource) (path : String) :
    t.openForRead source path = (-1, t) := by
  unfold FileTable.openForRead
  rw [ht.disabled]
  rfl

/-- No path exists. -/
theorem holds (ht : t.Closed) (source : FileSource) (path : String) : t.holds source path = false := by
  unfold FileTable.holds
  rw [ht.disabled]
  rfl

/-- No number is that of a reading. -/
theorem reading? (ht : t.Closed) (n : Int32) : t.reading? n = none := by
  have hnone : ∀ s ∈ t.slots, ¬ (s.bind Slot.reading?).isSome = true :=
    List.countP_eq_zero.1 ht.none_open
  cases hr : t.reading? n with
  | none => rfl
  | some r =>
    obtain ⟨i, -, hs⟩ := slot?_eq_some.1 (reading?_eq_some.1 hr)
    exact absurd rfl (hnone _ (List.mem_of_getElem? hs))

/-- **Whatever is done to a closed table**, other than enabling, leaves it closed. -/
theorem apply (ht : t.Closed) {op : FileOp} (hop : op ≠ .enable) : (op.apply t).2.Closed := by
  cases op with
  | enable => exact absurd rfl hop
  | openForRead source path =>
    rw [FileOp.apply, ht.openForRead]
    exact ht
  | holds | available => exact ht
  | skip n amount =>
    rw [FileOp.apply, FileTable.skip, ht.reading?]
    exact ht
  | readByte n =>
    rw [FileOp.apply, FileTable.readByte, ht.reading?]
    exact ht
  | readBytes n length =>
    rw [FileOp.apply, FileTable.readBytes, ht.reading?]
    exact ht
  | release n =>
    rw [FileOp.apply, FileTable.release, ht.reading?, ite_self]
    exact ht
  | write n bytes =>
    refine ⟨(enabled_write t n bytes).trans ht.disabled, ?_⟩
    rw [← ht.none_open]
    exact openCount_step (slotStep_write t n bytes) (fun _ _ => FileOp.noConfusion) fun _ =>
      FileOp.noConfusion
  | flush =>
    refine ⟨ht.disabled, ?_⟩
    rw [← ht.none_open]
    exact openCount_step (slotStep_apply t .flush) (fun _ _ => FileOp.noConfusion) fun _ =>
      FileOp.noConfusion

end Closed

end GuestHost.FileTable
