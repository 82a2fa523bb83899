import GuestHost.Proofs.Streams.Failure

/-!
# Reading into a window of an array

A stream can be read byte by byte, or many bytes at once into a window of an array. Both give the same bytes
and leave the same file table, but the one answers with a byte as it is, the other stores it with its sign.

* `apply_readTimes` — what reading byte by byte gives, by induction on the number of bytes;
* `exists_bytes_of_rest` — the bytes that fill a window are those that it gives;
* `readBytes_eq_reads` — the two ways agree.
-/

namespace GuestHost

/-! ## Bytes and signs -/

/-- A byte with its sign, from the int of the byte. -/
theorem toInt8_byte (b : UInt8) : b.toUInt32.toInt32.toInt8 = b.toInt8 := by
  have hwidth : BitVec.signExtend 8 (BitVec.setWidth 32 b.toBitVec) = b.toBitVec := by
    rw [BitVec.signExtend_eq_setWidth_of_le _ (by decide),
      BitVec.setWidth_setWidth_of_le _ (by decide), BitVec.setWidth_eq]
  apply Int8.toBitVec_inj.1
  simpa using hwidth

/-- The low bits of a byte with its sign are the byte. -/
theorem low_of_signed (b : UInt8) : b.toInt8.toInt32 &&& 0xFF = b.toUInt32.toInt32 := by
  have hlow : BitVec.signExtend 32 b.toBitVec &&& 255#32 = BitVec.setWidth 32 b.toBitVec := by
    have hmask : (255#32).toNat = 2 ^ 8 - 1 := rfl
    have hb : b.toBitVec.toNat < 2 ^ 8 := b.toBitVec.isLt
    apply BitVec.eq_of_toNat_eq
    rw [BitVec.toNat_and, hmask, Nat.and_two_pow_sub_one_eq_mod, BitVec.toNat_signExtend,
      BitVec.toNat_setWidth]
    split <;> omega
  apply Int32.toBitVec_inj.1
  simpa using hlow

namespace StreamNative

open GuestHost.Action

variable {h : Host} {stream array : Value} {n : Int32} {r : Reading}

/-! ## Byte by byte -/

/-- Reads single bytes, one after the other. -/
def readTimes (stream : Value) : (count : Nat) → Action (List Value)
  | 0 => pure []
  | count + 1 => do
    let byte ← run .read [stream]
    return byte :: (← readTimes stream count)

theorem apply_number_of_descriptor (hn : h.descriptor stream = .ok n) (args : List Value) :
    (number (stream :: args)).apply h = (.ok n, h) :=
  number_eq_ok.2 ⟨⟨stream, rfl, hn⟩, rfl⟩

theorem apply_read (hn : h.descriptor stream = .ok n) :
    (run .read [stream]).apply h
      = (.ok (.int (h.files.readByte n).1), { h with files := (h.files.readByte n).2 }) :=
  apply_bind_of_ok (apply_number_of_descriptor hn []) _

theorem read_eq_neg_one_iff (hn : h.descriptor stream = .ok n) (hr : h.files.reading? n = some r) :
    ((run .read [stream]).apply h).1 = .ok (.int (-1)) ↔ r.rest = [] := by
  rw [apply_read hn, ← FileTable.readByte_eq_neg_one_iff hr]
  simp

/-- Reading as many bytes as are left, or fewer, gives them and moves the reading behind them. -/
theorem apply_readTimes {count : Nat} (hn : h.descriptor stream = .ok n)
    (hr : h.files.reading? n = some r) (hcount : count ≤ r.rest.length) :
    (readTimes stream count).apply h
      = (.ok ((r.rest.take count).map fun b => .int b.toUInt32.toInt32),
          { h with files := h.files.putReading n (r.moved count) }) := by
  induction count generalizing h r with
  | zero =>
    rw [Reading.moved_zero, FileTable.putReading_self hr]
    rfl
  | succ count ih =>
    cases hrest : r.rest with
    | nil =>
      rw [hrest] at hcount
      cases hcount
    | cons b bs =>
      let h₁ : Host := { h with files := h.files.putReading n (r.moved 1) }
      have hread : (run .read [stream]).apply h = (.ok (.int b.toUInt32.toInt32), h₁) := by
        rw [apply_read hn, FileTable.readByte_of_cons hr hrest]
      have hn₁ : h₁.descriptor stream = .ok n := by
        rw [← hn]
        cases stream <;> rfl
      have hrest₁ : (r.moved 1).rest = bs := by
        rw [Reading.rest_moved, hrest]
        rfl
      have hmore := ih hn₁ (FileTable.reading?_putReading_self hr (r.moved 1))
        (by simpa [hrest, hrest₁] using hcount)
      rw [hrest₁, FileTable.putReading_putReading, Reading.moved_moved, Nat.add_comm] at hmore
      show (run .read [stream] >>= fun byte => readTimes stream count >>= _).apply h = _
      rw [apply_bind_of_ok hread, apply_bind_of_ok hmore]
      rfl

/-! ## Many bytes at once -/

/-- Bytes that are read go into the window, and the answer is that of the file table. -/
theorem apply_readBytes {offset length : Int32} {size start count : Nat}
    (hn : h.descriptor stream = .ok n) (hsize : h.arrayLength array = .ok size)
    (hrange : Args.range offset length size = .ok (start, count)) (hcount : count ≠ 0) :
    (run .readBytes [stream, array, .int offset, .int length]).apply h
      = (arrayFill array start ((h.files.readBytes n count).2.1.map Value.ofByte) >>= fun _ =>
          pure (.int (h.files.readBytes n count).1)).apply
            { h with files := (h.files.readBytes n count).2.2 } := by
  have hwindow : (window [stream, array, .int offset, .int length]).apply h
      = (.ok (array, start, count), h) :=
    window_eq_ok.2 ⟨⟨offset, length, size, rfl, rfl, rfl, hsize, hrange⟩, rfl⟩
  exact (runReadBytes_eq (apply_number_of_descriptor hn _) hwindow).trans
    (apply_readBytesAt hcount n array start h)

/-- Bytes that are left fill the window from its start on; nothing else of the array changes. -/
theorem apply_readBytes_of_rest {offset length : Int32} {size start count : Nat}
    (hk : h.KeepsArray array) (hn : h.descriptor stream = .ok n)
    (hsize : h.arrayLength array = .ok size)
    (hrange : Args.range offset length size = .ok (start, count)) (hcount : 0 < count)
    (hr : h.files.reading? n = some r) (hrest : r.rest ≠ []) :
    ∃ h', (run .readBytes [stream, array, .int offset, .int length]).apply h
        = (.ok (.int (h.files.readBytes n count).1), h') ∧
      h'.files = h.files.putReading n (r.moved (r.rest.take count).length) ∧
      (∀ i, (hi : i < (r.rest.take count).length) →
        h'.arrayGet array (start + i) = .ok (.ofByte (r.rest.take count)[i])) ∧
      ∀ j, j < start ∨ start + (r.rest.take count).length ≤ j →
        h'.arrayGet array j = h.arrayGet array j := by
  have hrun := apply_readBytes hn hsize hrange (Nat.ne_of_gt hcount)
  rw [FileTable.readBytes_of_rest hr hrest hcount] at hrun ⊢
  generalize hpiece : r.rest.take count = piece at hrun ⊢
  let read : Host := { h with files := h.files.putReading n (r.moved piece.length) }
  have hsize' : read.arrayLength array = .ok size := by
    rw [← hsize]
    cases array <;> rfl
  have hle : start + (piece.map Value.ofByte).length ≤ size := by
    obtain ⟨-, -, -, -, hle⟩ := Args.range_eq_ok.1 hrange
    have : piece.length ≤ count := hpiece ▸ List.length_take_le count r.rest
    rw [List.length_map]
    omega
  obtain ⟨h', hfill, hfills⟩ := arrayFill_of_length (h := read) hk hsize' hle
  have hfiles := (ignoresFiles_arrayFill array start (piece.map Value.ofByte)).files_eq read
  rw [hfill] at hfiles
  refine ⟨h', hrun.trans (apply_bind_of_ok hfill _), hfiles, ?_, ?_⟩
  · intro i hi
    have hread := hfills.inside i (by simpa using hi)
    rwa [List.getElem_map] at hread
  · intro j hj
    rw [hfills.outside array j fun _ => by simpa using hj]
    cases array <;> rfl

/-- The bytes that fill the window are those that as many reads of a byte give, with their signs, and the
file table is as these would leave it. -/
theorem exists_bytes_of_rest {offset length : Int32} {size start count : Nat}
    (hk : h.KeepsArray array) (hn : h.descriptor stream = .ok n)
    (hsize : h.arrayLength array = .ok size)
    (hrange : Args.range offset length size = .ok (start, count)) (hcount : 0 < count)
    (hr : h.files.reading? n = some r) (hrest : r.rest ≠ []) :
    ∃ h', (run .readBytes [stream, array, .int offset, .int length]).apply h
        = (.ok (.int (h.files.readBytes n count).1), h') ∧
      ∃ bytes : List Int32, bytes.length = min count r.remaining ∧
        (readTimes stream bytes.length).apply h
          = (.ok (bytes.map Value.int), { h with files := h'.files }) ∧
        (∀ i, (hi : i < bytes.length) →
          h'.arrayGet array (start + i) = .ok (.int bytes[i].toInt8.toInt32) ∧
            bytes[i].toInt8.toInt32 &&& 0xFF = bytes[i]) ∧
        ∀ j, j < start ∨ start + bytes.length ≤ j → h'.arrayGet array j = h.arrayGet array j := by
  obtain ⟨h', hrun, hfiles, hinside, houtside⟩ :=
    apply_readBytes_of_rest hk hn hsize hrange hcount hr hrest
  refine ⟨h', hrun, (r.rest.take count).map fun b => b.toUInt32.toInt32, ?_, ?_, ?_, ?_⟩
  · rw [List.length_map, List.length_take, Reading.length_rest]
  · have htake : r.rest.take (r.rest.take count).length = r.rest.take count :=
      (List.prefix_iff_eq_take.1 (List.take_prefix _ _)).symm
    rw [List.length_map, apply_readTimes hn hr (List.length_take_le' _ _), htake, hfiles,
      List.map_map]
    rfl
  · intro i hi
    rw [List.length_map] at hi
    rw [hinside i hi, List.getElem_map, toInt8_byte]
    exact ⟨rfl, low_of_signed _⟩
  · intro j hj
    rw [List.length_map] at hj
    exact houtside j hj

/-- Nothing is read where a read of a byte gives none. -/
theorem apply_readBytes_of_ended {offset length : Int32} {size start count : Nat}
    (hn : h.descriptor stream = .ok n) (hsize : h.arrayLength array = .ok size)
    (hrange : Args.range offset length size = .ok (start, count)) (hcount : 0 < count)
    (hr : ∀ r, h.files.reading? n = some r → r.rest = []) :
    (run .readBytes [stream, array, .int offset, .int length]).apply h = (.ok (.int (-1)), h) ∧
      (run .read [stream]).apply h = (.ok (.int (-1)), h) := by
  rw [apply_readBytes hn hsize hrange (Nat.ne_of_gt hcount), apply_read hn]
  cases hreading : h.files.reading? n with
  | none =>
    have hbyte : h.files.readByte n = (-1, h.files) := by simp only [FileTable.readByte, hreading]
    have hbytes : h.files.readBytes n count = (-1, [], h.files) := by
      simp only [FileTable.readBytes, hreading]
    rw [hbyte, hbytes]
    exact ⟨rfl, rfl⟩
  | some r =>
    rw [FileTable.readByte_of_nil hreading (hr r hreading),
      FileTable.readBytes_of_nil hreading (hr r hreading) hcount]
    exact ⟨rfl, rfl⟩

/-- **Reading into a window agrees with reading byte by byte.** Take a stream with any number, any array of
the heap, or of a module that keeps its arrays, and a window of it with at least one element. The answer is
-1 exactly if that of reading a byte is, and then nothing is changed. Otherwise it is the number of bytes that
are left, or the size of the window if that is less. As many reads of a byte, made instead, would leave the
same file table, and each element of the window is the byte that the read in its place gives, with its sign.
Every other element is as it was. -/
theorem readBytes_eq_reads {offset length : Int32} {size : Nat} (hk : h.KeepsArray array)
    (hn : h.descriptor stream = .ok n) (hsize : h.arrayLength array = .ok size)
    (hoffset : 0 ≤ offset) (hlength : 1 ≤ length)
    (hfits : offset.toInt.toNat + length.toInt.toNat ≤ size) :
    ∃ answer h', (run .readBytes [stream, array, .int offset, .int length]).apply h
        = (.ok (.int answer), h') ∧
      (answer = -1 ↔ ((run .read [stream]).apply h).1 = .ok (.int (-1))) ∧
      (answer = -1 → h' = h) ∧
      (answer ≠ -1 → answer.toInt = min length.toInt (h.files.available n).toInt ∧
        ∃ bytes : List Int32, bytes.length = answer.toInt.toNat ∧
          (readTimes stream bytes.length).apply h
            = (.ok (bytes.map Value.int), { h with files := h'.files }) ∧
          (∀ i, (hi : i < bytes.length) →
            h'.arrayGet array (offset.toInt.toNat + i) = .ok (.int bytes[i].toInt8.toInt32) ∧
              bytes[i].toInt8.toInt32 &&& 0xFF = bytes[i]) ∧
          ∀ j, j < offset.toInt.toNat ∨ offset.toInt.toNat + bytes.length ≤ j →
            h'.arrayGet array j = h.arrayGet array j) := by
  have hpos : 0 < length.toInt.toNat := by
    have : (1 : Int32).toInt = 1 := rfl
    rw [Int32.le_iff_toInt_le] at hlength
    omega
  have hlt : length.toInt.toNat < 2 ^ 31 := by
    have := length.toInt_lt
    omega
  have hrange : Args.range offset length size = .ok (offset.toInt.toNat, length.toInt.toNat) :=
    Args.range_eq_ok.2 ⟨hoffset, Int32.le_trans (by decide) hlength, rfl, rfl, hfits⟩
  by_cases hmore : ∃ r, h.files.reading? n = some r ∧ r.rest ≠ []
  · obtain ⟨r, hr, hrest⟩ := hmore
    obtain ⟨h', hrun, bytes, hbytes, hreads⟩ :=
      exists_bytes_of_rest hk hn hsize hrange hpos hr hrest
    have hcount := FileTable.toInt_readBytes hr hrest hpos hlt
    have hne : (h.files.readBytes n length.toInt.toNat).1 ≠ -1 := fun heq =>
      hrest ((FileTable.readBytes_eq_neg_one_iff hr hpos hlt).1 heq)
    have hread : ((run .read [stream]).apply h).1 ≠ .ok (.int (-1)) := fun heq =>
      hrest ((read_eq_neg_one_iff hn hr).1 heq)
    refine ⟨_, h', hrun, iff_of_false hne hread, fun heq => absurd heq hne,
      fun _ => ⟨?_, bytes, ?_, hreads⟩⟩
    · rw [hcount, FileTable.toInt_available hr]
      omega
    · rw [hcount, hbytes, Int.toNat_natCast]
  · obtain ⟨hbytes, hbyte⟩ := apply_readBytes_of_ended hn hsize hrange hpos fun r hr => by
      by_contra hrest
      exact hmore ⟨r, hr, hrest⟩
    refine ⟨-1, h, hbytes, iff_of_true rfl ?_, fun _ => rfl, fun hne => absurd rfl hne⟩
    rw [hbyte]

/-- A file with two bytes left is read into a window of three elements, in the midst of an array. -/
theorem readBytes_eq_reads_short :
    let stream : Object := ⟨0, .ofList [("fd", .ref ⟨1⟩)], .empty⟩
    let descriptor : Object := ⟨CoreClass.fileDescriptor, .ofList [("fd", .int 3)], .empty⟩
    let host : Host :=
      { config := {},
        heap := ⟨#[.object stream, .object descriptor, .array [.int 7, .int 7, .int 7, .int 7]]⟩,
        registry := .initial, linkage := .empty, files := FileTable.empty.enable.occupy [200, 1],
        source := .staged .empty, imports := .empty, attached := none,
        surroundings := { millis := 0, seed := 0 } }
    host.KeepsArray (.ref ⟨2⟩) ∧ host.descriptor (.ref ⟨0⟩) = .ok 3 ∧
      host.arrayLength (.ref ⟨2⟩) = .ok 4 ∧
      ∃ h', (run .readBytes [.ref ⟨0⟩, .ref ⟨2⟩, .int 1, .int 3]).apply host = (.ok (.int 2), h') ∧
        h'.arrayGet (.ref ⟨2⟩) 0 = .ok (.int 7) ∧ h'.arrayGet (.ref ⟨2⟩) 1 = .ok (.int (-56)) ∧
          h'.arrayGet (.ref ⟨2⟩) 2 = .ok (.int 1) ∧ h'.arrayGet (.ref ⟨2⟩) 3 = .ok (.int 7) := by
  intro stream descriptor host
  have hk : host.KeepsArray (.ref ⟨2⟩) := host.keepsArray_ref ⟨2⟩
  have hn : host.descriptor (.ref ⟨0⟩) = .ok 3 := rfl
  have hsize : host.arrayLength (.ref ⟨2⟩) = .ok 4 := rfl
  obtain ⟨answer, h', hrun, hended, -, hmore⟩ :=
    @readBytes_eq_reads host (.ref ⟨0⟩) (.ref ⟨2⟩) 3 1 3 4 hk hn hsize (by decide) (by decide)
      (by decide)
  have hbyte : ((run .read [.ref ⟨0⟩]).apply host).1 ≠ .ok (.int (-1)) := by
    show (Except.ok (Value.int 200) : Except Fault Value) ≠ _
    decide
  obtain ⟨hcount, bytes, hlength, hreads, hinside, houtside⟩ := hmore (hbyte ∘ hended.1)
  have htwo : answer.toInt = 2 := hcount
  obtain rfl : answer = 2 := Int32.toInt_inj.1 htwo
  have hreads' : (Except.ok [.int 200, .int 1] : Except Fault (List Value))
      = .ok (bytes.map Value.int) := by
    rw [hlength] at hreads
    exact congrArg Prod.fst hreads
  obtain rfl : [200, 1] = bytes :=
    (List.map_inj_right fun _ _ => Value.int.inj).1 (Except.ok.inj hreads')
  exact ⟨hk, hn, hsize, h', hrun, houtside 0 (by decide), (hinside 0 (by decide)).1,
    (hinside 1 (by decide)).1, houtside 3 (by decide)⟩

end StreamNative

end GuestHost
