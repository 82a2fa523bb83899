import Mathlib.Data.List.Basic
import GuestHost.Proofs.Files.Operations

/-!
# What a reading gives

An open reading is its file and how far it was read. Every operation on it is determined by the bytes
that are left: it gives some of the first of them, or passes over them, and moves by as many.

* `readByte_of_cons`, `readByte_of_nil`, `readBytes_of_rest`, `readBytes_of_nil`, `skip_eq`,
  `toInt_available` — each operation, by what is left;
* `readByte_eq_neg_one_iff`, `readBytes_eq_neg_one_iff` — when a read has no bytes;
* `Covers` — the bytes that an operation gives or passes over, by its answer;
* `covers_apply` — they are the next ones, and the reading moves over them;
* `position_le_after` — no reading ever gets past the end of its file.
-/

namespace GuestHost

namespace Reading

variable {r : Reading} {k : Nat}

/-- The bytes that are left. -/
def rest (r : Reading) : Bytes := r.buffer.drop r.position

/-- The reading `k` bytes further on. -/
def moved (r : Reading) (k : Nat) : Reading := { r with position := r.position + k }

@[simp] theorem buffer_moved (r : Reading) (k : Nat) : (r.moved k).buffer = r.buffer := rfl

@[simp] theorem position_moved (r : Reading) (k : Nat) : (r.moved k).position = r.position + k := rfl

@[simp] theorem moved_zero (r : Reading) : r.moved 0 = r := rfl

@[simp] theorem moved_moved (r : Reading) (j k : Nat) : (r.moved j).moved k = r.moved (j + k) := by
  simp [moved, Nat.add_assoc]

theorem length_rest (r : Reading) : r.rest.length = r.remaining := List.length_drop

theorem rest_moved (r : Reading) (k : Nat) : (r.moved k).rest = r.rest.drop k := by
  simp [rest, List.drop_drop]

theorem take_eq (r : Reading) (k : Nat) :
    r.take k = (r.rest.take k, r.moved (r.rest.take k).length) := rfl

theorem rest_eq_nil_iff (hr : r.position ≤ r.size) : r.rest = [] ↔ r.position = r.size := by
  unfold rest
  rw [List.drop_eq_nil_iff]
  exact ⟨fun h => Nat.le_antisymm hr h, fun h => Nat.le_of_eq h.symm⟩

/-- What is covered from here on stays within the file. -/
theorem position_moved_le (hr : r.position ≤ r.size) {piece : Bytes} (hp : piece <+: r.rest) :
    (r.moved piece.length).position ≤ (r.moved piece.length).size := by
  have hle := hp.length_le
  rw [length_rest, remaining] at hle
  show r.position + piece.length ≤ r.size
  omega

/-- The file up to where the reading is after it covered some bytes. -/
theorem take_position_moved {piece : Bytes} (hp : piece <+: r.rest) :
    r.buffer.take (r.moved piece.length).position = r.buffer.take r.position ++ piece := by
  rw [position_moved, List.take_add]
  exact congrArg _ (List.prefix_iff_eq_take.1 hp).symm

end Reading

/-- The int of a byte is not negative. -/
theorem toInt_byte (b : UInt8) : b.toUInt32.toInt32.toInt = b.toNat := by
  have hb := b.toNat_lt
  rw [← Int32.toInt_toBitVec, UInt32.toBitVec_toInt32, BitVec.toInt_eq_toNat_of_lt]
  · simp
  · simp only [UInt8.toBitVec_toUInt32, BitVec.toNat_setWidth, UInt8.toNat_toBitVec]
    omega

theorem byte_ne_neg_one (b : UInt8) : b.toUInt32.toInt32 ≠ -1 := by
  intro h
  have hb := toInt_byte b
  rw [h] at hb
  have : (-1 : Int32).toInt = -1 := rfl
  omega

namespace FileTable

variable {t t' : FileTable} {n m : Int32} {r r' : Reading}

/-! ## Replacing a reading -/

theorem putSlot_putSlot (t : FileTable) (n : Int32) (s s' : Option Slot) :
    (t.putSlot n s).putSlot n s' = t.putSlot n s' := by
  unfold putSlot
  cases place? n with
  | none => rfl
  | some i => simp [List.set_set]

/-- Only the last place of a reading counts. -/
@[simp] theorem putReading_putReading (t : FileTable) (n : Int32) (r r' : Reading) :
    (t.putReading n r).putReading n r' = t.putReading n r' := putSlot_putSlot t n _ _

theorem putReading_self (hr : t.reading? n = some r) : t.putReading n r = t := by
  obtain ⟨i, hi, hs⟩ := slot?_eq_some.1 (reading?_eq_some.1 hr)
  obtain ⟨hlt, hget⟩ := List.getElem?_eq_some_iff.1 hs
  simp only [putReading, putSlot, hi, ← hget, List.set_getElem_self]

/-! ## Each operation, by what is left -/

theorem readByte_of_nil (hr : t.reading? n = some r) (hrest : r.rest = []) :
    t.readByte n = (-1, t) := by
  have hget : r.buffer[r.position]? = none :=
    List.getElem?_eq_none (List.drop_eq_nil_iff.1 hrest)
  simp only [readByte, hr, hget]

theorem readByte_of_cons (hr : t.reading? n = some r) {b : UInt8} {bs : Bytes}
    (hrest : r.rest = b :: bs) :
    t.readByte n = (b.toUInt32.toInt32, t.putReading n (r.moved 1)) := by
  have hget : r.buffer[r.position]? = some b := by
    rw [← List.head?_drop]
    exact congrArg List.head? hrest
  simp only [readByte, hr, hget]
  rfl

theorem readBytes_zero (hr : t.reading? n = some r) : t.readBytes n 0 = (0, [], t) := by
  simp only [readBytes, hr, if_true]

theorem readBytes_of_nil (hr : t.reading? n = some r) (hrest : r.rest = []) {length : Nat}
    (hl : 0 < length) : t.readBytes n length = (-1, [], t) := by
  simp only [readBytes, hr, if_neg (Nat.ne_of_gt hl), Reading.take_eq, hrest, List.take_nil,
    List.isEmpty_nil, if_true]

/-- As many of the bytes that are left as are asked for. -/
theorem readBytes_of_rest (hr : t.reading? n = some r) (hrest : r.rest ≠ []) {length : Nat}
    (hl : 0 < length) :
    t.readBytes n length = (Int32.ofNat (r.rest.take length).length, r.rest.take length,
      t.putReading n (r.moved (r.rest.take length).length)) := by
  have hne : (r.rest.take length).isEmpty = false := by
    rw [List.isEmpty_eq_false_iff, Ne, List.take_eq_nil_iff, not_or]
    exact ⟨Nat.ne_of_gt hl, hrest⟩
  simp only [readBytes, hr, if_neg (Nat.ne_of_gt hl), Reading.take_eq, hne, Bool.false_eq_true,
    if_false]

/-- A reading is moved by as much as is asked for and left; a negative amount counts as none. -/
theorem skip_eq (hr : t.reading? n = some r) (amount : Int64) :
    t.skip n amount = (Int64.ofNat (min amount.toInt.toNat r.remaining),
      t.putReading n (r.moved (min amount.toInt.toNat r.remaining))) := by
  by_cases ha : amount ≤ 0
  · have hzero : amount.toInt.toNat = 0 := by
      have : amount.toInt ≤ 0 := by simpa [Int64.le_iff_toInt_le] using ha
      omega
    simp only [skip, hr, if_pos ha, hzero, Nat.zero_min, Reading.moved_zero, putReading_self hr]
    rfl
  · simp only [skip, hr, if_neg ha]
    rfl

/-- The answer of a skip is the amount that the reading moved by. -/
theorem toInt_skip (hr : t.reading? n = some r) (amount : Int64) :
    (t.skip n amount).1.toInt = (min amount.toInt.toNat r.remaining : Nat) := by
  have hlt := amount.toInt_lt
  rw [skip_eq hr, Int64.toInt_ofNat_of_lt]
  omega

theorem toInt_available (hr : t.reading? n = some r) :
    (t.available n).toInt = (min r.remaining 0x7FFFFFFF : Nat) := by
  simp only [available, hr]
  exact Int32.toInt_ofNat_of_lt (by omega)

/-- A number of bytes that fits into an int. -/
theorem toInt_count {length : Nat} (hl : length < 2 ^ 31) (r : Reading) :
    (Int32.ofNat (r.rest.take length).length).toInt = (min length r.remaining : Nat) := by
  rw [List.length_take, Reading.length_rest]
  exact Int32.toInt_ofNat_of_lt (by omega)

/-- The answer of a read of a byte is -1 only at the end of the file. -/
theorem readByte_eq_neg_one_iff (hr : t.reading? n = some r) :
    (t.readByte n).1 = -1 ↔ r.rest = [] := by
  cases hrest : r.rest with
  | nil => simp [readByte_of_nil hr hrest]
  | cons b bs => simp [readByte_of_cons hr hrest, byte_ne_neg_one]

theorem toInt_readBytes (hr : t.reading? n = some r) (hrest : r.rest ≠ []) {length : Nat}
    (hl : 0 < length) (hfits : length < 2 ^ 31) :
    (t.readBytes n length).1.toInt = (min length r.remaining : Nat) := by
  rw [readBytes_of_rest hr hrest hl]
  exact toInt_count hfits r

/-- The answer of a read of several bytes is -1 only there, too. -/
theorem readBytes_eq_neg_one_iff (hr : t.reading? n = some r) {length : Nat} (hl : 0 < length)
    (hfits : length < 2 ^ 31) : (t.readBytes n length).1 = -1 ↔ r.rest = [] := by
  constructor
  · intro heq
    by_contra hrest
    have hcount := toInt_readBytes hr hrest hl hfits
    have hneg : (-1 : Int32).toInt = -1 := rfl
    rw [heq] at hcount
    omega
  · intro hrest
    rw [readBytes_of_nil hr hrest hl]

/-! ## What an operation covers -/

/-- The bytes that an operation gives of the file with number `n`, or passes over. -/
inductive Covers (n : Int32) : FileOp → FileAnswer → Bytes → Prop
  | byte (b : UInt8) : Covers n (.readByte n) (.number b.toUInt32.toInt32) [b]
  | noByte : Covers n (.readByte n) (.number (-1)) []
  | bytes (length : Nat) (bytes : Bytes) (h : bytes.length ≤ length) :
    Covers n (.readBytes n length) (.bytes (Int32.ofNat bytes.length) bytes) bytes
  | noBytes (length : Nat) : Covers n (.readBytes n length) (.bytes (-1) []) []
  | skipped (amount k : Int64) (passed : Bytes) (h : k.toInt = passed.length) :
    Covers n (.skip n amount) (.moved k) passed
  | available (a : Int32) : Covers n (.available n) (.number a) []
  | refused (bytes : Bytes) : Covers n (.write n bytes) (.truth false) []
  /-- An operation that is not on the number. -/
  | other (op : FileOp) (answer : FileAnswer) (h : op.number? ≠ some n) : Covers n op answer []

/-- A reading is over the bytes that an operation covered. -/
def Passes (n : Int32) (r : Reading) (op : FileOp) (answer : FileAnswer) (t' : FileTable) : Prop :=
  ∃ piece, Covers n op answer piece ∧ piece <+: r.rest ∧
    t'.reading? n = some (r.moved piece.length)

theorem passes_none (hr : t.reading? n = some r) {op : FileOp} {answer : FileAnswer}
    (hc : Covers n op answer []) : Passes n r op answer t :=
  ⟨[], hc, List.nil_prefix, hr⟩

theorem passes_readByte (hr : t.reading? n = some r) :
    Passes n r (.readByte n) (.number (t.readByte n).1) (t.readByte n).2 := by
  cases hrest : r.rest with
  | nil =>
    rw [readByte_of_nil hr hrest]
    exact passes_none hr .noByte
  | cons b bs =>
    rw [readByte_of_cons hr hrest]
    refine ⟨[b], .byte b, ?_, reading?_putReading_self hr _⟩
    rw [hrest]
    exact List.prefix_append [b] bs

theorem passes_readBytes (hr : t.reading? n = some r) (length : Nat) :
    Passes n r (.readBytes n length) (.bytes (t.readBytes n length).1 (t.readBytes n length).2.1)
      (t.readBytes n length).2.2 := by
  rcases Nat.eq_zero_or_pos length with rfl | hl
  · rw [readBytes_zero hr]
    exact passes_none hr (.bytes 0 [] (Nat.le_refl 0))
  · by_cases hrest : r.rest = []
    · rw [readBytes_of_nil hr hrest hl]
      exact passes_none hr (.noBytes length)
    · rw [readBytes_of_rest hr hrest hl]
      exact ⟨_, .bytes length _ (List.length_take_le _ _), List.take_prefix _ _,
        reading?_putReading_self hr _⟩

theorem passes_skip (hr : t.reading? n = some r) (amount : Int64) :
    Passes n r (.skip n amount) (.moved (t.skip n amount).1) (t.skip n amount).2 := by
  have hlength : (r.rest.take (min amount.toInt.toNat r.remaining)).length
      = min amount.toInt.toNat r.remaining := by
    rw [List.length_take, Reading.length_rest]
    omega
  refine ⟨r.rest.take (min amount.toInt.toNat r.remaining), ?_, List.take_prefix _ _, ?_⟩
  · exact .skipped amount _ _ (by rw [toInt_skip hr, hlength])
  · rw [skip_eq hr, hlength]
    exact reading?_putReading_self hr _

/-- **An operation covers the next bytes** of an open reading, none if it is on another number, and moves
the reading over them. -/
theorem covers_apply (hr : t.reading? n = some r) {op : FileOp} (hop : op ≠ .release n) :
    Passes n r op (op.apply t).1 (op.apply t).2 := by
  by_cases hn : op.number? = some n
  · cases op with
    | enable | openForRead | holds | flush => cases hn
    | readByte => cases hn; exact passes_readByte hr
    | readBytes _ length => cases hn; exact passes_readBytes hr length
    | skip _ amount => cases hn; exact passes_skip hr amount
    | available => cases hn; exact passes_none hr (.available _)
    | write _ bytes =>
      cases hn
      have hw : t.write n bytes = (false, t) := by
        simp only [FileTable.write, reading?_eq_some.1 hr]
      simp only [FileOp.apply, hw]
      exact passes_none hr (.refused bytes)
    | release => cases hn; exact absurd rfl hop
  · exact passes_none (reading?_step_of_ne (slotStep_apply t op) hr hn) (.other op _ hn)

/-! ## Readings stay within their files -/

/-- A reading that was not open before an operation is at the start of its file. -/
theorem eq_start_of_opened {op : FileOp} (hstep : SlotStep t op t') (hr : t.reading? n = none)
    (hr' : t'.reading? n = some r) : ∃ buffer, r = .start buffer := by
  have hslot := reading?_eq_some.1 hr'
  have hnone : ∀ r, t.slot? n ≠ some (.reading r) := by
    intro r hr₀
    rw [reading?_eq_some.2 hr₀] at hr
    cases hr
  cases hstep with
  | unchanged hs =>
    rw [slot?, hs] at hslot
    exact absurd hslot (hnone r)
  | @moved m r₀ _ hm r₁ =>
    have hne : m ≠ n := by
      rintro rfl
      exact hnone r₀ (reading?_eq_some.1 hm)
    rw [putReading, slot?_putSlot_of_ne hne] at hslot
    exact absurd hslot (hnone r)
  | @written m _ _ hc lines rest =>
    by_cases heq : m = n
    · subst heq
      rw [slot?_putSlot_self (t := t.emit _ lines) hc] at hslot
      cases hslot
    · rw [slot?_putSlot_of_ne heq, slot?_emit] at hslot
      exact absurd hslot (hnone r)
  | flushed =>
    rw [slot?_flush, Option.map_eq_some_iff] at hslot
    obtain ⟨s, hs, hflushed⟩ := hslot
    cases s with
    | console => cases hflushed
    | reading r₀ => exact absurd hs (hnone r₀)
  | opened _ buffer =>
    obtain ⟨i, hi, hget⟩ := slot?_eq_some.1 hslot
    rw [slots_occupy] at hget
    split at hget
    · cases hget
      exact ⟨buffer, rfl⟩
    · exact absurd (slot?_eq_some.2 ⟨i, hi, hget⟩) (hnone r)
  | @released m _ _ _ hm =>
    by_cases heq : m = n
    · subst heq
      rw [slot?_putSlot_self (reading?_eq_some.1 hm)] at hslot
      cases hslot
    · rw [slot?_putSlot_of_ne heq] at hslot
      exact absurd hslot (hnone r)

/-- The release of a number closes its reading, or does nothing. -/
theorem reading?_release (hr : t.reading? n = some r) :
    (t.release n).2.reading? n = none ∨ (t.release n).2 = t := by
  unfold FileTable.release
  by_cases hn : n < 3
  · rw [if_pos hn]
    exact .inr rfl
  · rw [if_neg hn, hr]
    refine .inl ?_
    show (t.putSlot n none).reading? n = none
    rw [reading?, slot?_putSlot_self (reading?_eq_some.1 hr)]
    rfl

/-- No reading is past the end of its file. -/
def Within (t : FileTable) : Prop := ∀ n r, t.reading? n = some r → r.position ≤ r.size

theorem within_empty : Within empty := by
  intro n r hr
  have hcount : empty.openCount = 0 := rfl
  have := openCount_release hr
  omega

/-- **One operation** leaves every reading within its file. -/
theorem Within.apply (ht : Within t) (op : FileOp) : Within (op.apply t).2 := by
  intro n r' hr'
  cases hr : t.reading? n with
  | none =>
    obtain ⟨buffer, rfl⟩ := eq_start_of_opened (slotStep_apply t op) hr hr'
    exact Nat.zero_le _
  | some r =>
    have hle := ht n r hr
    by_cases hop : op = .release n
    · subst hop
      rcases reading?_release hr with hnone | hsame
      · simp only [FileOp.apply, hnone] at hr'
        cases hr'
      · simp only [FileOp.apply, hsame, hr] at hr'
        cases hr'
        exact hle
    · obtain ⟨piece, -, hprefix, hmoved⟩ := covers_apply hr hop
      obtain rfl : r.moved piece.length = r' := Option.some.inj (hmoved.symm.trans hr')
      exact Reading.position_moved_le hle hprefix

/-- **No reading ever gets past the end of its file**, whatever is done to a table. -/
theorem position_le_after (ops : List FileOp) : Within (empty.after ops) := by
  suffices h : ∀ t, Within t → Within (t.after ops) from h empty within_empty
  induction ops with
  | nil => exact fun t ht => ht
  | cons op rest ih => exact fun t ht => ih _ (ht.apply op)

end FileTable

end GuestHost
