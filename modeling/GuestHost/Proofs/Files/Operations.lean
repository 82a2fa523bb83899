import GuestHost.Proofs.Files.Slots

/-!
# Operations on a file table

The operations on a file table as data, so that sequences of them can be spoken of. `SlotStep` says once
what an operation may do to the slots, and `slotStep_apply` that it does nothing else. Every statement
about a table that was reached by operations goes through it:

* `Sound` — slot 0 is empty, slots 1 and 2 are the console streams, and every other slot is empty or
  an open reading; `sound_after` — so is every table that operations lead to from the one at the start;
* `reading?_step_of_ne` — an operation that is not on a number leaves an open reading with that number
  alone;
* `openCount_step` — only openings and releases change how many readings are open.
-/

namespace GuestHost

/-- An operation on a file table. Opening and probing see the source as it is at that moment. -/
inductive FileOp
  | enable
  | openForRead (source : FileSource) (path : String)
  | holds (source : FileSource) (path : String)
  | skip (number : Int32) (amount : Int64)
  | available (number : Int32)
  | readByte (number : Int32)
  | readBytes (number : Int32) (length : Nat)
  | write (number : Int32) (bytes : Bytes)
  | flush
  | release (number : Int32)

/-- What an operation on a file table answers. -/
inductive FileAnswer
  | done
  | number (n : Int32)
  | moved (n : Int64)
  | bytes (count : Int32) (bytes : Bytes)
  | truth (b : Bool)
deriving Repr, DecidableEq

namespace FileOp

/-- The number that an operation is on, if it is on one. -/
def number? : FileOp → Option Int32
  | .skip n _ | .available n | .readByte n | .readBytes n _ | .write n _ | .release n => some n
  | .enable | .openForRead _ _ | .holds _ _ | .flush => none

/-- Whether an operation is on a number. -/
def isOn (n : Int32) (op : FileOp) : Bool := op.number? == some n

/-- The answer of an operation, and the table it leaves. -/
def apply (t : FileTable) : FileOp → FileAnswer × FileTable
  | .enable => (.done, t.enable)
  | .openForRead source path => let (n, t') := t.openForRead source path; (.number n, t')
  | .holds source path => (.truth (t.holds source path), t)
  | .skip n amount => let (k, t') := t.skip n amount; (.moved k, t')
  | .available n => (.number (t.available n), t)
  | .readByte n => let (b, t') := t.readByte n; (.number b, t')
  | .readBytes n length => let (k, bs, t') := t.readBytes n length; (.bytes k bs, t')
  | .write n bytes => let (b, t') := t.write n bytes; (.truth b, t')
  | .flush => (.done, t.flush)
  | .release n => let (b, t') := t.release n; (.truth b, t')

end FileOp

namespace FileTable

/-- The table that a sequence of operations leads to. -/
def after (t : FileTable) (ops : List FileOp) : FileTable := ops.foldl (fun t op => (op.apply t).2) t

/-- The operations of a sequence, each with its answer. -/
def transcript (t : FileTable) : List FileOp → List (FileOp × FileAnswer)
  | [] => []
  | op :: rest => (op, (op.apply t).1) :: (op.apply t).2.transcript rest

/-! ## What an operation may do -/

/-- What an operation may do to the slots of a table. -/
inductive SlotStep (t : FileTable) (op : FileOp) : FileTable → Prop
  /-- Nothing. -/
  | unchanged {t' : FileTable} (h : t'.slots = t.slots) : SlotStep t op t'
  /-- It moves an open reading. -/
  | moved {n : Int32} {r : Reading} (hop : op.number? = some n) (h : t.reading? n = some r)
      (r' : Reading) : SlotStep t op (t.putReading n r')
  /-- It adds to the unfinished line of a console stream. -/
  | written {n : Int32} {stream : ConsoleStream} {pending : Bytes}
      (h : t.slot? n = some (.console stream pending)) (lines : List Bytes) (rest : Bytes) :
      SlotStep t op ((t.emit stream lines).putSlot n (some (.console stream rest)))
  | flushed : SlotStep t op t.flush
  /-- It opens a reading in the first free place. -/
  | opened {source : FileSource} {path : String} (hop : op = .openForRead source path)
      (buffer : Bytes) : SlotStep t op (t.occupy buffer)
  /-- It closes a reading. -/
  | released {n : Int32} {r : Reading} (hop : op = .release n) (hn : 3 ≤ n)
      (h : t.reading? n = some r) : SlotStep t op (t.putSlot n none)

/-- Opening a file fails and leaves the table alone, or occupies the first free place. -/
theorem openForRead_cases (t : FileTable) (source : FileSource) (path : String) :
    t.openForRead source path = (-1, t) ∨
      ∃ buffer, t.enabled = true ∧ source.fetch path = .ok buffer ∧
        t.openForRead source path = (Int32.ofNat t.freePlace, t.occupy buffer) := by
  unfold openForRead
  by_cases he : t.enabled = true
  · rw [if_pos he]
    cases hf : source.fetch path with
    | error _ => exact .inl rfl
    | ok buffer => exact .inr ⟨buffer, he, rfl, rfl⟩
  · rw [if_neg he]
    exact .inl rfl

theorem slotStep_skip (t : FileTable) (n : Int32) (amount : Int64) :
    SlotStep t (.skip n amount) (t.skip n amount).2 := by
  unfold skip
  cases h : t.reading? n with
  | none => exact .unchanged rfl
  | some r =>
    by_cases ha : amount ≤ 0
    · simp only [if_pos ha]
      exact .unchanged rfl
    · simp only [if_neg ha]
      exact .moved rfl h _

theorem slotStep_readByte (t : FileTable) (n : Int32) :
    SlotStep t (.readByte n) (t.readByte n).2 := by
  unfold readByte
  cases h : t.reading? n with
  | none => exact .unchanged rfl
  | some r =>
    cases hb : r.buffer[r.position]? with
    | none =>
      simp only [hb]
      exact .unchanged rfl
    | some b =>
      simp only [hb]
      exact .moved rfl h _

theorem slotStep_readBytes (t : FileTable) (n : Int32) (length : Nat) :
    SlotStep t (.readBytes n length) (t.readBytes n length).2.2 := by
  unfold readBytes
  cases h : t.reading? n with
  | none => exact .unchanged rfl
  | some r =>
    by_cases hl : length = 0
    · simp only [if_pos hl]
      exact .unchanged rfl
    · simp only [if_neg hl]
      split
      · exact .unchanged rfl
      · exact .moved rfl h _

theorem slotStep_write (t : FileTable) (n : Int32) (bytes : Bytes) :
    SlotStep t (.write n bytes) (t.write n bytes).2 := by
  unfold write
  split
  · rename_i stream pending h
    exact .written h _ _
  · exact .unchanged rfl

theorem slotStep_release (t : FileTable) (n : Int32) :
    SlotStep t (.release n) (t.release n).2 := by
  unfold release
  by_cases hn : n < 3
  · rw [if_pos hn]
    exact .unchanged rfl
  · rw [if_neg hn]
    have hn' : 3 ≤ n := by
      rw [Int32.le_iff_toInt_le]
      rw [Int32.lt_iff_toInt_lt] at hn
      omega
    cases h : t.reading? n with
    | none => exact .unchanged rfl
    | some r => exact .released rfl hn' h

/-- **What an operation does to the slots.** -/
theorem slotStep_apply (t : FileTable) (op : FileOp) : SlotStep t op (op.apply t).2 := by
  cases op with
  | enable => exact .unchanged rfl
  | openForRead source path =>
    rcases openForRead_cases t source path with h | ⟨buffer, -, -, h⟩
    · rw [FileOp.apply, h]
      exact .unchanged rfl
    · rw [FileOp.apply, h]
      exact .opened rfl buffer
  | holds => exact .unchanged rfl
  | skip n amount => exact slotStep_skip t n amount
  | available => exact .unchanged rfl
  | readByte n => exact slotStep_readByte t n
  | readBytes n length => exact slotStep_readBytes t n length
  | write n bytes => exact slotStep_write t n bytes
  | flush => exact .flushed
  | release n => exact slotStep_release t n

/-! ## Tables that operations lead to -/

/-- Slot 0 is empty, slots 1 and 2 are the console streams, and every other slot is empty or an open
reading. -/
structure Sound (t : FileTable) : Prop where
  gap : t.slots[0]? = some none
  out : ∃ pending, t.slots[1]? = some (some (.console .stdout pending))
  err : ∃ pending, t.slots[2]? = some (some (.console .stderr pending))
  files : ∀ i s, firstReading ≤ i → t.slots[i]? = some (some s) → ∃ r, s = .reading r

variable {t t' : FileTable} {op : FileOp} {n : Int32} {i : Nat}

theorem sound_empty : Sound empty where
  gap := rfl
  out := ⟨[], rfl⟩
  err := ⟨[], rfl⟩
  files i s hi h := by
    have : i < 3 := (List.getElem?_eq_some_iff.1 h).1
    unfold firstReading at hi
    omega

theorem Sound.firstReading_le (h : Sound t) : firstReading ≤ t.slots.length := by
  obtain ⟨_, herr⟩ := h.err
  exact (List.getElem?_eq_some_iff.1 herr).1

/-- Open readings have numbers from 3 on. -/
theorem Sound.firstReading_le_of_reading (h : Sound t) {r : Reading}
    (hr : t.slots[i]? = some (some (.reading r))) : firstReading ≤ i := by
  obtain ⟨_, hout⟩ := h.out
  obtain ⟨_, herr⟩ := h.err
  match i with
  | 0 => simp [h.gap] at hr
  | 1 => simp [hout] at hr
  | 2 => simp [herr] at hr
  | i + 3 =>
    unfold firstReading
    omega

theorem Sound.three_le (h : Sound t) {r : Reading} (hr : t.reading? n = some r) : 3 ≤ n := by
  obtain ⟨i, hi, hs⟩ := slot?_eq_some.1 (reading?_eq_some.1 hr)
  have h3 : place? 3 = some firstReading := rfl
  exact (le_of_place? h3 hi).2 (h.firstReading_le_of_reading hs)

/-- Releasing an open reading closes it. -/
theorem Sound.release_eq (h : Sound t) {r : Reading} (hr : t.reading? n = some r) :
    t.release n = (true, t.putSlot n none) := by
  have hn : ¬ n < 3 := Int32.not_lt.2 (h.three_le hr)
  rw [FileTable.release, if_neg hn, hr]

/-- A slot from 3 on may be replaced by an empty one or a reading. -/
theorem Sound.set (h : Sound t) (hi : firstReading ≤ i) {s : Option Slot}
    (hs : ∀ s', s = some s' → ∃ r, s' = .reading r) (ht : t'.slots = t.slots.set i s) :
    Sound t' := by
  unfold firstReading at hi
  have hne : ∀ k, k < 3 → t'.slots[k]? = t.slots[k]? := fun k hk => by
    rw [ht, List.getElem?_set_ne (by omega)]
  refine ⟨(hne 0 (by omega)).trans h.gap, ?_, ?_, ?_⟩
  · rw [hne 1 (by omega)]
    exact h.out
  · rw [hne 2 (by omega)]
    exact h.err
  · intro k s' hk hs'
    rw [ht, List.getElem?_set] at hs'
    split at hs'
    · split at hs'
      · exact hs s' (Option.some.inj hs')
      · cases hs'
    · exact h.files k s' hk hs'

theorem Sound.putReading (h : Sound t) {r : Reading} (hr : t.reading? n = some r) (r' : Reading) :
    Sound (t.putReading n r') := by
  obtain ⟨i, hi, hs⟩ := slot?_eq_some.1 (reading?_eq_some.1 hr)
  refine h.set (i := i) (s := some (.reading r')) (h.firstReading_le_of_reading hs) ?_ ?_
  · rintro _ ⟨⟩
    exact ⟨r', rfl⟩
  · simp [FileTable.putReading, putSlot, hi]

theorem Sound.release (h : Sound t) {r : Reading} (hr : t.reading? n = some r) :
    Sound (t.putSlot n none) := by
  obtain ⟨i, hi, hs⟩ := slot?_eq_some.1 (reading?_eq_some.1 hr)
  refine h.set (i := i) (s := none) (h.firstReading_le_of_reading hs) (by simp) ?_
  simp [putSlot, hi]

/-- Only the console streams have console slots, so a write keeps each of them in its place. -/
theorem Sound.write (h : Sound t) {stream : ConsoleStream} {pending : Bytes}
    (hc : t.slot? n = some (.console stream pending)) (lines : List Bytes) (rest : Bytes) :
    Sound ((t.emit stream lines).putSlot n (some (.console stream rest))) := by
  obtain ⟨i, hi, hs⟩ := slot?_eq_some.1 hc
  have hslots : ((t.emit stream lines).putSlot n (some (.console stream rest))).slots
      = t.slots.set i (some (.console stream rest)) := by
    simp [putSlot, hi, emit]
  have hlt := (List.getElem?_eq_some_iff.1 hs).1
  have hfiles : i < firstReading → ∀ k s, firstReading ≤ k →
      (t.slots.set i (some (.console stream rest)))[k]? = some (some s) → ∃ r, s = .reading r := by
    intro hi k s hk hs'
    rw [List.getElem?_set_ne (by omega)] at hs'
    exact h.files k s hk hs'
  obtain ⟨p, hout⟩ := h.out
  obtain ⟨q, herr⟩ := h.err
  rcases i with _ | _ | _ | i
  · simp [h.gap] at hs
  · obtain ⟨rfl, rfl⟩ : ConsoleStream.stdout = stream ∧ p = pending := by
      simpa using hout.symm.trans hs
    refine ⟨?_, ⟨rest, ?_⟩, ⟨q, ?_⟩, ?_⟩ <;> rw [hslots]
    · simpa using h.gap
    · exact List.getElem?_set_self hlt
    · simpa using herr
    · exact hfiles (by decide)
  · obtain ⟨rfl, rfl⟩ : ConsoleStream.stderr = stream ∧ q = pending := by
      simpa using herr.symm.trans hs
    refine ⟨?_, ⟨p, ?_⟩, ⟨rest, ?_⟩, ?_⟩ <;> rw [hslots]
    · simpa using h.gap
    · simpa using hout
    · exact List.getElem?_set_self hlt
    · exact hfiles (by decide)
  · obtain ⟨r, hr⟩ := h.files (i + 3) _ (by unfold firstReading; omega) hs
    cases hr

theorem Sound.flush (h : Sound t) : Sound t.flush := by
  obtain ⟨p, hout⟩ := h.out
  obtain ⟨q, herr⟩ := h.err
  refine ⟨?_, ⟨[], ?_⟩, ⟨[], ?_⟩, ?_⟩
  · simp [FileTable.flush, h.gap]
  · simp [FileTable.flush, hout, Slot.flushed]
  · simp [FileTable.flush, herr, Slot.flushed]
  · intro i s hi hs
    simp only [FileTable.flush, List.getElem?_map, Option.map_eq_some_iff] at hs
    obtain ⟨o, ho, s', rfl, rfl⟩ := hs
    obtain ⟨r, rfl⟩ := h.files i s' hi ho
    exact ⟨r, rfl⟩

theorem Sound.occupy (h : Sound t) (buffer : Bytes) : Sound (t.occupy buffer) := by
  have hlen := h.firstReading_le
  have hfree := three_le_freePlace hlen
  have hne : ∀ k, k < firstReading → (t.occupy buffer).slots[k]? = t.slots[k]? := fun k hk => by
    rw [slots_occupy, if_neg (by omega)]
  refine ⟨(hne 0 (by decide)).trans h.gap, ?_, ?_, ?_⟩
  · rw [hne 1 (by decide)]
    exact h.out
  · rw [hne 2 (by decide)]
    exact h.err
  · intro i s hi hs
    rw [slots_occupy] at hs
    split at hs
    · cases hs
      exact ⟨_, rfl⟩
    · exact h.files i s hi hs

theorem Sound.step (h : Sound t) (hstep : SlotStep t op t') : Sound t' := by
  cases hstep with
  | unchanged hs => exact ⟨hs ▸ h.gap, hs ▸ h.out, hs ▸ h.err, hs ▸ h.files⟩
  | moved _ hr r' => exact h.putReading hr r'
  | written hc lines rest => exact h.write hc lines rest
  | flushed => exact h.flush
  | opened _ buffer => exact h.occupy buffer
  | released _ _ hr => exact h.release hr

theorem Sound.after (h : Sound t) (ops : List FileOp) : Sound (t.after ops) := by
  induction ops generalizing t with
  | nil => exact h
  | cons op rest ih => exact ih (h.step (slotStep_apply t op))

/-- **Every table that operations lead to is sound.** -/
theorem sound_after (ops : List FileOp) : Sound (empty.after ops) := sound_empty.after ops

/-! ## What an operation leaves alone -/

theorem slot?_occupy_of_some {s : Slot} (hs : t.slot? n = some s) (buffer : Bytes) :
    (t.occupy buffer).slot? n = some s := by
  obtain ⟨i, hi, hs'⟩ := slot?_eq_some.1 hs
  refine slot?_eq_some.2 ⟨i, hi, ?_⟩
  rw [slots_occupy, if_neg, hs']
  rintro rfl
  simpa [hs'] using slots_freePlace (t := t)

/-- An operation that is not on a number leaves an open reading with that number alone. -/
theorem reading?_step_of_ne (hstep : SlotStep t op t') {r : Reading}
    (hr : t.reading? n = some r) (hop : op.number? ≠ some n) : t'.reading? n = some r := by
  rw [reading?_eq_some] at hr ⊢
  cases hstep with
  | unchanged hs =>
    rw [← hr]
    simp only [slot?, hs]
  | @moved m _ hm _ r' =>
    have hne : m ≠ n := by
      rintro rfl
      exact hop hm
    rw [FileTable.putReading, slot?_putSlot_of_ne hne, hr]
  | @written m _ _ hc lines rest =>
    have hne : m ≠ n := by
      rintro rfl
      rw [hr] at hc
      cases hc
    rw [slot?_putSlot_of_ne hne, slot?_emit, hr]
  | flushed =>
    rw [slot?_flush, hr]
    rfl
  | opened _ buffer => exact slot?_occupy_of_some hr buffer
  | @released m _ hm _ _ =>
    have hne : m ≠ n := by
      rintro rfl
      exact hop (by rw [hm]; rfl)
    rw [slot?_putSlot_of_ne hne, hr]

/-! ## How many readings are open -/

/-- Only openings and releases change how many readings are open. -/
theorem openCount_step (hstep : SlotStep t op t') (hopen : ∀ source path, op ≠ .openForRead source path)
    (hrelease : ∀ n, op ≠ .release n) : t'.openCount = t.openCount := by
  cases hstep with
  | unchanged hs => rw [openCount, openCount, hs]
  | moved _ hr r' => exact openCount_putReading hr r'
  | @written n stream pending hc lines rest =>
    obtain ⟨i, hi, hs⟩ := slot?_eq_some.1 hc
    simp only [putSlot, hi]
    exact openCount_set (t := t.emit stream lines) hs (s := some (.console stream rest)) rfl
  | flushed =>
    unfold openCount flush
    rw [List.countP_map]
    refine List.countP_congr fun s _ => ?_
    rcases s with _ | ⟨_ | _⟩ <;> rfl
  | opened hop _ => exact absurd hop (hopen _ _)
  | released hop _ _ => exact absurd hop (hrelease _)

end FileTable

end GuestHost
