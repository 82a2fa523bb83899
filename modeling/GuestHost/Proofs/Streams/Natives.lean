import GuestHost.Natives.Streams
import GuestHost.Proofs.Arguments
import GuestHost.Proofs.Files.Operations
import GuestHost.Proofs.Streams.Descriptors

/-!
# How the natives of file streams run

Most natives of file streams read the number of the stream and do one operation of the file table on
it; `run_eq_bind` says so for all of them at once. Those that store something behind the operation are run
step by step: `runReadBytes_cases`, `runOpen_cases` and `apply_runClose`.
-/

namespace GuestHost

open GuestHost.Action

/-! ## Operations on one number -/

namespace Action

variable {α β : Type} {n : Int32}

/-- The action does to the file table at most one operation on the number `n`, and closes nothing. -/
def TouchesOnly (n : Int32) (a : Action α) : Prop :=
  ∀ h, (a.apply h).2.files = h.files ∨
    ∃ op : FileOp, op.number? = some n ∧ op ≠ .release n ∧
      (a.apply h).2.files = (op.apply h.files).2

theorem IgnoresFiles.touchesOnly {a : Action α} (ha : IgnoresFiles a) : TouchesOnly n a :=
  fun h => .inl (ha.files_eq h)

theorem touchesOnly_onFiles {f : FileTable → α × FileTable} (op : FileOp)
    (hn : op.number? = some n) (hop : op ≠ .release n) (hf : ∀ t, (f t).2 = (op.apply t).2) :
    TouchesOnly n (onFiles f) :=
  fun h => .inr ⟨op, hn, hop, hf h.files⟩

theorem touchesOnly_skip (n : Int32) (amount : Int64) :
    TouchesOnly n (onFiles fun t => t.skip n amount) :=
  touchesOnly_onFiles (.skip n amount) rfl (by simp) fun _ => rfl

theorem touchesOnly_readByte (n : Int32) : TouchesOnly n (onFiles fun t => t.readByte n) :=
  touchesOnly_onFiles (.readByte n) rfl (by simp) fun _ => rfl

theorem touchesOnly_readBytes (n : Int32) (length : Nat) :
    TouchesOnly n (onFiles fun t =>
      (((t.readBytes n length).1, (t.readBytes n length).2.1), (t.readBytes n length).2.2)) :=
  touchesOnly_onFiles (.readBytes n length) rfl (by simp) fun _ => rfl

theorem touchesOnly_write (n : Int32) (bytes : Bytes) :
    TouchesOnly n (onFiles fun t => t.write n bytes) :=
  touchesOnly_onFiles (.write n bytes) rfl (by simp) fun _ => rfl

theorem IgnoresFiles.bind_touchesOnly {a : Action α} {f : α → Action β} (ha : IgnoresFiles a)
    (hf : ∀ x, TouchesOnly n (f x)) : TouchesOnly n (a >>= f) := by
  intro h
  have hfiles := ha.files_eq h
  rw [apply_bind]
  rcases hx : a.apply h with ⟨fault | x, h'⟩ <;> rw [hx] at hfiles
  · exact .inl hfiles
  · show _ = h.files ∨ _
    rw [← hfiles]
    exact hf x h'

theorem TouchesOnly.bind {a : Action α} {f : α → Action β} (ha : TouchesOnly n a)
    (hf : ∀ x, IgnoresFiles (f x)) : TouchesOnly n (a >>= f) := by
  intro h
  have htouch := ha h
  rw [apply_bind]
  rcases hx : a.apply h with ⟨fault | x, h'⟩ <;> rw [hx] at htouch
  · exact htouch
  · show ((f x).apply h').2.files = _ ∨ ∃ op, _ ∧ _ ∧ ((f x).apply h').2.files = _
    rw [(hf x).files_eq h']
    exact htouch

end Action

/-! ## Answers for a number that no file has -/

namespace FileTable

variable (t : FileTable)

theorem skip_neg_one (amount : Int64) : t.skip (-1) amount = (-1, t) := rfl

theorem readByte_neg_one : t.readByte (-1) = (-1, t) := rfl

theorem write_neg_one (bytes : Bytes) : t.write (-1) bytes = (false, t) := rfl

end FileTable

/-! ## Arrays -/

/-- The values of an array are as many as its length says. -/
theorem Host.arrayLength_of_arrayValues {h : Host} {array : Value} {values : List Value}
    (hvalues : h.arrayValues array = .ok values) : h.arrayLength array = .ok values.length := by
  cases array with
  | ref r =>
    have harray : h.heap.array r = .ok values := hvalues
    simp [arrayLength, harray, Except.map]
  | handle n =>
    cases hm : h.module? with
    | error fault => simp [arrayValues, hm, bind, Except.bind] at hvalues
    | ok m =>
      have hread : m.arrayValues n = .ok values := by
        simpa [arrayValues, hm, bind, Except.bind] using hvalues
      unfold Module.arrayValues at hread
      cases hlength : m.arrayLength n with
      | error fault => simp [hlength] at hread
      | ok length =>
        rw [hlength] at hread
        have hsame := Args.length_of_mapM hread
        rw [List.length_range] at hsame
        simp [arrayLength, hm, bind, Except.bind, hlength, hsame]
  | null | int | long | float | double => cases hvalues

namespace StreamNative

variable {h h' : Host} {args : List Value} {r : Ref} {n : Int32}

/-! ## Arguments -/

theorem descriptor_of_number (hn : h.heap.number r = .ok n) : h.descriptor (.ref r) = .ok n := hn

theorem apply_descriptor (hn : h.heap.number r = .ok n) :
    (descriptor (.ref r)).apply h = (.ok n, h) := apply_view_of_ok (descriptor_of_number hn)

theorem apply_number (hn : h.heap.number r = .ok n) (args : List Value) :
    (number (.ref r :: args)).apply h = (.ok n, h) := by
  show (ofResult (.ok (Value.ref r)) >>= _).apply h = _
  rw [apply_bind, apply_ofResult]
  exact apply_descriptor hn

theorem ignoresFiles_number (args : List Value) : IgnoresFiles (number args) :=
  (ignoresFiles_ofResult _).bind ignoresFiles_descriptor

theorem readsOnly_number (args : List Value) : ReadsOnly (number args) :=
  (readsOnly_ofResult _).bind fun _ => readsOnly_view _

/-- The number of the stream that is the first argument. -/
theorem number_eq_ok : (number args).apply h = (.ok n, h') ↔
    (∃ stream, args[0]? = some stream ∧ h.descriptor stream = .ok n) ∧ h = h' := by
  unfold number
  rw [apply_bind_eq_ok]
  constructor
  · rintro ⟨stream, h₁, hget, hview⟩
    obtain ⟨hstream, rfl⟩ := apply_ofResult_eq_ok.1 hget
    obtain ⟨hn, rfl⟩ := apply_view_eq_ok.1 hview
    exact ⟨⟨stream, Args.get_eq_ok.1 hstream, hn⟩, rfl⟩
  · rintro ⟨⟨stream, hstream, hn⟩, rfl⟩
    exact ⟨stream, h, apply_ofResult_eq_ok.2 ⟨Args.get_eq_ok.2 hstream, rfl⟩, apply_view_of_ok hn⟩

theorem readsOnly_window (args : List Value) : ReadsOnly (window args) := by
  refine (readsOnly_ofResult _).bind fun array => ?_
  refine (readsOnly_ofResult _).bind fun offset => ?_
  refine (readsOnly_ofResult _).bind fun count => ?_
  refine (readsOnly_view _).bind fun length => ?_
  exact (readsOnly_ofResult _).bind fun _ => readsOnly_pure _

theorem ignoresFiles_window (args : List Value) : IgnoresFiles (window args) := by
  refine (ignoresFiles_ofResult _).bind fun array => ?_
  refine (ignoresFiles_ofResult _).bind fun offset => ?_
  refine (ignoresFiles_ofResult _).bind fun count => ?_
  refine (ignoresFiles_arrayLength array).bind fun length => ?_
  exact (ignoresFiles_ofResult _).bind fun _ => ignoresFiles_pure _

/-- The window that the second argument and the two ints after it give: it lies within the array. -/
theorem window_eq_ok {array : Value} {start count : Nat} :
    (window args).apply h = (.ok (array, start, count), h') ↔
      (∃ offset length size, args[1]? = some array ∧ args[2]? = some (.int offset) ∧
        args[3]? = some (.int length) ∧ h.arrayLength array = .ok size ∧
          Args.range offset length size = .ok (start, count)) ∧ h = h' := by
  unfold window
  constructor
  · intro hw
    obtain ⟨array', h₁, h₁', hw⟩ := apply_bind_eq_ok.1 hw
    obtain ⟨offset, h₂, h₂', hw⟩ := apply_bind_eq_ok.1 hw
    obtain ⟨length, h₃, h₃', hw⟩ := apply_bind_eq_ok.1 hw
    obtain ⟨size, h₄, h₄', hw⟩ := apply_bind_eq_ok.1 hw
    obtain ⟨⟨start', count'⟩, h₅, h₅', hw⟩ := apply_bind_eq_ok.1 hw
    obtain ⟨harray, rfl⟩ := apply_ofResult_eq_ok.1 h₁'
    obtain ⟨hoffset, rfl⟩ := apply_ofResult_eq_ok.1 h₂'
    obtain ⟨hlength, rfl⟩ := apply_ofResult_eq_ok.1 h₃'
    obtain ⟨hsize, rfl⟩ := apply_view_eq_ok.1 h₄'
    obtain ⟨hrange, rfl⟩ := apply_ofResult_eq_ok.1 h₅'
    cases hw
    exact ⟨⟨offset, length, size, Args.get_eq_ok.1 harray, Args.int_eq_ok.1 hoffset,
      Args.int_eq_ok.1 hlength, hsize, hrange⟩, rfl⟩
  · rintro ⟨⟨offset, length, size, harray, hoffset, hlength, hsize, hrange⟩, rfl⟩
    rw [Args.get_eq_ok.2 harray, Args.int_eq_ok.2 hoffset, Args.int_eq_ok.2 hlength]
    have hview : (arrayLength array).apply h = (.ok size, h) := apply_view_of_ok hsize
    show (arrayLength array >>= _).apply h = _
    rw [apply_bind_of_ok hview, hrange]
    rfl

/-- The window of an array lies within it. -/
theorem window_ok {array : Value} {start count : Nat}
    (hw : (window args).apply h = (.ok (array, start, count), h')) :
    ∃ length, h'.arrayLength array = .ok length ∧ start + count ≤ length := by
  obtain ⟨⟨offset, length, size, -, -, -, hsize, hrange⟩, rfl⟩ := window_eq_ok.1 hw
  obtain ⟨-, -, -, -, hle⟩ := Args.range_eq_ok.1 hrange
  exact ⟨size, hsize, hle⟩

/-! ## Natives that work on the number of the stream -/

/-- Whether a native reads the number of the stream, and then works on the file with that number. -/
def usesNumber : StreamNative → Bool
  | .skip | .available | .read | .readBytes | .writeBytes | .writeByte => true
  | .openFile | .close | .attributes => false

/-- What a native does with the number of its stream. -/
structure OnNumber (k : Int32 → Action Value) : Prop where
  touches : ∀ n, TouchesOnly n (k n)
  keeps : ∀ n, KeepsObjects (k n)
  /-- A stream without a number has nothing to do with the file table. -/
  quiet : IgnoresFiles (k (-1))

/-- **Natives that use the number of a stream** read it, and do one operation on it. -/
theorem run_eq_bind {native : StreamNative} (hnative : native.usesNumber = true)
    (args : List Value) : ∃ k, run native args = number args >>= k ∧ OnNumber k := by
  cases native with
  | openFile | close | attributes => cases hnative
  | skip =>
    refine ⟨_, rfl, ?_, ?_, ?_⟩
    · intro n
      refine (ignoresFiles_ofResult _).bind_touchesOnly fun amount => ?_
      refine (touchesOnly_skip n amount).bind fun _ => ?_
      exact ignoresFiles_pure _
    · intro n
      refine (readsOnly_ofResult _).keepsObjects.bind fun amount => ?_
      exact (keepsObjects_onFiles _).bind fun _ => (readsOnly_pure _).keepsObjects
    · refine (ignoresFiles_ofResult _).bind fun amount => ?_
      refine (ignoresFiles_onFiles fun t => t.skip_neg_one amount).bind fun _ => ?_
      exact ignoresFiles_pure _
  | available =>
    refine ⟨_, rfl, ?_, ?_, ?_⟩
    · exact fun n h => .inl rfl
    · exact fun n h r o ho => ho
    · exact fun h t => rfl
  | read =>
    refine ⟨_, rfl, ?_, ?_, ?_⟩
    · intro n
      refine (touchesOnly_readByte n).bind fun _ => ?_
      exact ignoresFiles_pure _
    · intro n
      exact (keepsObjects_onFiles _).bind fun _ => (readsOnly_pure _).keepsObjects
    · refine (ignoresFiles_onFiles fun t => t.readByte_neg_one).bind fun _ => ?_
      exact ignoresFiles_pure _
  | readBytes =>
    refine ⟨_, rfl, ?_, ?_, ?_⟩
    · intro n
      refine (ignoresFiles_window args).bind_touchesOnly fun (array, start, length) => ?_
      by_cases hl : length = 0
      · simp only [if_pos hl]
        exact (ignoresFiles_pure _).touchesOnly
      · simp only [if_neg hl]
        refine (touchesOnly_readBytes n length).bind ?_
        intro (count, bytes)
        exact (ignoresFiles_arrayFill array start _).bind fun _ => ignoresFiles_pure _
    · intro n
      refine (readsOnly_window args).keepsObjects.bind fun (array, start, length) => ?_
      by_cases hl : length = 0
      · simp only [if_pos hl]
        exact (readsOnly_pure _).keepsObjects
      · simp only [if_neg hl]
        refine (keepsObjects_onFiles _).bind fun (count, bytes) => ?_
        refine (keepsObjects_arrayFill array start _).bind fun _ => ?_
        exact (readsOnly_pure _).keepsObjects
    · refine (ignoresFiles_window args).bind fun (array, start, length) => ?_
      by_cases hl : length = 0
      · simp only [if_pos hl]
        exact ignoresFiles_pure _
      · simp only [if_neg hl]
        refine (ignoresFiles_onFiles (a := (-1, [])) fun t => rfl).bind fun (count, bytes) => ?_
        exact (ignoresFiles_arrayFill array start _).bind fun _ => ignoresFiles_pure _
  | writeBytes =>
    refine ⟨_, rfl, ?_, ?_, ?_⟩
    · intro n
      refine (ignoresFiles_window args).bind_touchesOnly fun (array, start, length) => ?_
      refine (ignoresFiles_arrayValues array).bind_touchesOnly fun values => ?_
      refine (ignoresFiles_ofResult _).bind_touchesOnly fun ints => ?_
      refine (touchesOnly_write n _).bind fun _ => ?_
      exact ignoresFiles_pure _
    · intro n
      refine (readsOnly_window args).keepsObjects.bind fun (array, start, length) => ?_
      refine (readsOnly_view _).keepsObjects.bind fun values => ?_
      refine (readsOnly_ofResult _).keepsObjects.bind fun ints => ?_
      exact (keepsObjects_onFiles _).bind fun _ => (readsOnly_pure _).keepsObjects
    · refine (ignoresFiles_window args).bind fun (array, start, length) => ?_
      refine (ignoresFiles_arrayValues array).bind fun values => ?_
      refine (ignoresFiles_ofResult _).bind fun ints => ?_
      refine (ignoresFiles_onFiles fun t => t.write_neg_one _).bind fun _ => ?_
      exact ignoresFiles_pure _
  | writeByte =>
    refine ⟨_, rfl, ?_, ?_, ?_⟩
    · intro n
      refine (ignoresFiles_ofResult _).bind_touchesOnly fun i => ?_
      refine (touchesOnly_write n _).bind fun _ => ?_
      exact ignoresFiles_pure _
    · intro n
      refine (readsOnly_ofResult _).keepsObjects.bind fun i => ?_
      exact (keepsObjects_onFiles _).bind fun _ => (readsOnly_pure _).keepsObjects
    · refine (ignoresFiles_ofResult _).bind fun i => ?_
      refine (ignoresFiles_onFiles fun t => t.write_neg_one _).bind fun _ => ?_
      exact ignoresFiles_pure _

/-! ## Reading bytes -/

/-- What a reading of bytes does once its arguments are read. -/
def readBytesAt (n : Int32) (array : Value) (start length : Nat) : Action Value := do
  if length = 0 then return .int 0
  let (count, bytes) ← onFiles fun t =>
    let (count, bytes, t') := t.readBytes n length
    ((count, bytes), t')
  Action.arrayFill array start (bytes.map Value.ofByte)
  return .int count

theorem runReadBytes_eq {array : Value} {start length : Nat} (hnumber : (number args).apply h = (.ok n, h))
    (hwindow : (window args).apply h = (.ok (array, start, length), h)) :
    (runReadBytes args).apply h = (readBytesAt n array start length).apply h := by
  unfold runReadBytes
  rw [apply_bind_of_ok hnumber, apply_bind_of_ok hwindow]
  rfl

/-- A reading of bytes is refused before it does anything, or has its arguments. -/
theorem runReadBytes_cases (args : List Value) (h : Host) :
    (Refuses (runReadBytes args) h ∧ ∀ n array start length, (number args).apply h = (.ok n, h) →
      (window args).apply h ≠ (.ok (array, start, length), h)) ∨
    ∃ n array start length, (number args).apply h = (.ok n, h) ∧
      (window args).apply h = (.ok (array, start, length), h) ∧
      (runReadBytes args).apply h = (readBytesAt n array start length).apply h := by
  rcases (readsOnly_number args).result_or_refuses h with ⟨n, hnumber⟩ | ⟨fault, hrefused⟩
  · rcases (readsOnly_window args).result_or_refuses h with
      ⟨⟨array, start, length⟩, hwindow⟩ | ⟨fault, hrefused⟩
    · exact .inr ⟨n, array, start, length, hnumber, hwindow, runReadBytes_eq hnumber hwindow⟩
    · refine .inl ⟨(readsOnly_number args).bind_refuses fun _ _ => Refuses.bind ⟨fault, hrefused⟩ _, ?_⟩
      simp [hrefused]
  · refine .inl ⟨Refuses.bind ⟨fault, hrefused⟩ _, ?_⟩
    simp [hrefused]

/-- Nothing is read into a window without elements. -/
theorem apply_readBytesAt_zero (n : Int32) (array : Value) (start : Nat) (h : Host) :
    (readBytesAt n array start 0).apply h = (.ok (.int 0), h) := rfl

/-- The bytes that are read are stored, and the answer is that of the file table. -/
theorem apply_readBytesAt {length : Nat} (hl : length ≠ 0) (n : Int32) (array : Value) (start : Nat)
    (h : Host) : (readBytesAt n array start length).apply h
      = (arrayFill array start ((h.files.readBytes n length).2.1.map Value.ofByte) >>= fun _ =>
          pure (.int (h.files.readBytes n length).1)).apply
            { h with files := (h.files.readBytes n length).2.2 } := by
  unfold readBytesAt
  simp only [if_neg hl]
  rfl

/-! ## Opening and closing -/

/-- What an opening does once its arguments are read. -/
def openAt (stream : Value) (path : String) : Action Value := do
  let n ← Action.openFile path
  if 0 ≤ n then Action.setDescriptor stream n
  return .int n

theorem runOpen_eq {stream p : Value} {path : String} (h₀ : Args.get args 0 = .ok stream)
    (h₁ : Args.get args 1 = .ok p) (hpath : h.text p = .ok path) :
    (runOpen args).apply h = (openAt stream path).apply h := by
  unfold runOpen
  rw [apply_bind, apply_ofResult, h₀]
  show (ofResult (Args.get args 1) >>= _).apply h = _
  rw [apply_bind, apply_ofResult, h₁]
  show (text p >>= _).apply h = _
  have htext : (text p).apply h = (.ok path, h) := apply_view_of_ok hpath
  rw [apply_bind_of_ok htext]
  rfl

/-- An opening meets a fault before it does anything, or has its arguments. -/
theorem runOpen_cases (args : List Value) (h : Host) :
    (∃ fault, (runOpen args).apply h = (.error fault, h) ∧
      ∀ stream p path, Args.get args 0 = .ok stream → Args.get args 1 = .ok p →
        h.text p ≠ .ok path) ∨
    ∃ stream p path, Args.get args 0 = .ok stream ∧ Args.get args 1 = .ok p ∧
      h.text p = .ok path ∧ (runOpen args).apply h = (openAt stream path).apply h := by
  cases h₀ : Args.get args 0 with
  | error fault =>
    refine .inl ⟨fault, ?_, fun _ _ _ hx => by cases hx⟩
    exact apply_bind_of_error (by rw [apply_ofResult, h₀]) _
  | ok stream =>
    cases h₁ : Args.get args 1 with
    | error fault =>
      refine .inl ⟨fault, ?_, fun _ _ _ _ hx => by cases hx⟩
      unfold runOpen
      rw [apply_bind, apply_ofResult, h₀]
      exact apply_bind_of_error (by rw [apply_ofResult, h₁]) _
    | ok p =>
      cases hpath : h.text p with
      | error fault =>
        refine .inl ⟨fault, ?_, ?_⟩
        · unfold runOpen
          rw [apply_bind, apply_ofResult, h₀]
          show (ofResult (Args.get args 1) >>= _).apply h = _
          rw [apply_bind, apply_ofResult, h₁]
          have htext : (text p).apply h = (.error fault, h) := apply_view_of_error hpath
          exact apply_bind_of_error htext _
        · rintro _ _ _ ⟨⟩ ⟨⟩ hx
          rw [hpath] at hx
          cases hx
      | ok path => exact .inr ⟨stream, p, path, rfl, rfl, hpath, runOpen_eq h₀ h₁ hpath⟩

/-- An opening that fails answers with a negative number. -/
theorem apply_openAt_of_neg {stream : Value} {path : String}
    (hn : ¬ 0 ≤ (h.files.openForRead h.source path).1) :
    (openAt stream path).apply h = (.ok (.int (h.files.openForRead h.source path).1),
      { h with files := (h.files.openForRead h.source path).2 }) := by
  unfold openAt
  rw [apply_bind, apply_openFile]
  simp only [if_neg hn]
  rfl

/-- An opening gives the number of the file to the stream. -/
theorem apply_openAt_of_nonneg {stream : Value} {path : String}
    (hn : 0 ≤ (h.files.openForRead h.source path).1) :
    (openAt stream path).apply h =
      (setDescriptor stream (h.files.openForRead h.source path).1 >>=
        fun _ => pure (.int (h.files.openForRead h.source path).1)).apply
          { h with files := (h.files.openForRead h.source path).2 } := by
  unfold openAt
  rw [apply_bind, apply_openFile]
  simp only [if_pos hn]

/-- A stream without a number is closed already. -/
theorem apply_runClose_of_neg {stream : Value} (hn : h.descriptor stream = .ok n) (hneg : ¬ 0 ≤ n)
    (args : List Value) : (runClose (stream :: args)).apply h = (.ok .null, h) := by
  have hview : (descriptor stream).apply h = (.ok n, h) := apply_view_of_ok hn
  show (descriptor stream >>= _).apply h = _
  rw [apply_bind_of_ok hview]
  simp only [if_neg hneg]
  rfl

/-- Closing releases the number of a stream and takes it from the stream. -/
theorem apply_runClose_of_nonneg {stream : Value} (hn : h.descriptor stream = .ok n) (hpos : 0 ≤ n)
    (args : List Value) :
    (runClose (stream :: args)).apply h =
      (setDescriptor stream (-1) >>= fun _ => pure .null).apply
        { h with files := (h.files.release n).2 } := by
  have hview : (descriptor stream).apply h = (.ok n, h) := apply_view_of_ok hn
  show (descriptor stream >>= _).apply h = _
  rw [apply_bind_of_ok hview]
  simp only [if_pos hpos]
  rw [apply_bind, apply_onFiles]

end StreamNative

end GuestHost
