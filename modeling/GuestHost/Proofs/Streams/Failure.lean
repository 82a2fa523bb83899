import GuestHost.Proofs.Arrays.Storing
import GuestHost.Proofs.Files.Reading
import GuestHost.Proofs.Streams.Natives

/-!
# File streams that meet a fault

Three natives of file streams touch the file table and then store something elsewhere: an opening and a
closing set the number of the stream, and a reading of bytes fills a window of an array. If the file table is
another and nothing can be stored, the work was done in vain, and the table stays as it is then.

* `failsCleanly_iff_of_stores` — a native that stores something last leaves another table behind a fault
  exactly if it changed the table and the store is refused;
* `OpensInVain`, `ReadsInVain`, `ClosesInVain` — what that comes to for each of them;
* `failsCleanly_iff` — no other native does, and of the three only an opening does as long as no shared
  library is attached: what the other two store is stored where something was read before. A file that was
  opened in vain stays open, and nobody knows its number.
-/

namespace GuestHost

/-! ## Storing last -/

namespace Action

variable {α β : Type} {h : Host}

theorem Refuses.failsCleanly {a : Action α} (ha : Refuses a h) : FailsCleanly a h := by
  obtain ⟨fault, ha⟩ := ha
  intro fault' h' herr
  rw [ha] at herr
  cases herr
  rfl

/-- What stores something after it changed the file table leaves the table changed if the store fails. -/
theorem failsCleanly_iff_of_stores {a : Action α} {b : Action β} {t : FileTable} {x : β}
    (ha : IgnoresFiles a) (hb : b.apply h = (a >>= fun _ => pure x).apply { h with files := t }) :
    FailsCleanly b h ↔ ¬ (t ≠ h.files ∧ ∃ fault, (a.apply h).1 = .error fault) := by
  unfold FailsCleanly
  rw [hb, apply_bind, ha h t]
  rcases a.apply h with ⟨fault | y, h'⟩ <;> simp

/-- A stream that has a number takes another one, unless a shared library keeps it. -/
theorem setDescriptor_ok {v : Value} {n : Int32} (hl : ∀ l, h.attached ≠ some (.library l))
    (hv : h.descriptor v = .ok n) (hn : 0 ≤ n) (n' : Int32) :
    ((setDescriptor v n').apply h).1 = .ok () := by
  cases v with
  | ref r =>
    cases hf : h.heap.field r Host.descriptorField with
    | error fault => simp [Host.descriptor, hf, bind, Except.bind] at hv
    | ok field =>
      cases field with
      | ref e =>
        cases he : h.heap.field e Host.descriptorField with
        | error fault => simp [Host.descriptor, hf, he, bind, Except.bind] at hv
        | ok number =>
          obtain ⟨o, ho, -⟩ := Heap.field_eq_ok.1 he
          rw [apply_setDescriptor_of_descriptor hf ho n']
      | null | int | long | float | double | handle =>
        obtain rfl : (-1 : Int32) = n := by
          simpa [Host.descriptor, hf, bind, Except.bind, pure, Except.pure] using hv
        exact absurd hn (by decide)
  | handle k =>
    show ((onModule fun m => m.setStream k n').apply h).1 = _
    cases hm : h.attached with
    | none =>
      rw [Host.descriptor, Host.module?_of_none hm] at hv
      cases hv
    | some m =>
      rw [Host.descriptor_handle hm] at hv
      rw [apply_onModule_of_attached hm]
      cases m with
      | library l => exact absurd hm (hl l)
      | arena a =>
        have hget : a.get? k = some (.stream n) := Arena.stream_eq_ok.1 hv
        simp [Module.setStream, Module.ofArena, Arena.setStream_of_stream hget]
  | null | int | long | float | double => cases hv

end Action

/-! ## File tables that changed -/

namespace FileTable

variable {t : FileTable} {n : Int32} {length : Nat}

/-- The number of bytes that are read is at most the number asked for. -/
theorem length_readBytes_le (t : FileTable) (n : Int32) (length : Nat) :
    (t.readBytes n length).2.1.length ≤ length := by
  unfold readBytes
  rcases t.reading? n with _ | r
  · exact Nat.zero_le _
  · by_cases hl : length = 0
    · simp [hl]
    · simp only [if_neg hl]
      split
      · exact Nat.zero_le _
      · exact List.length_take_le _ _

/-- Bytes that were read are not there to be read again. -/
theorem readBytes_ne (hbytes : (t.readBytes n length).2.1 ≠ []) : (t.readBytes n length).2.2 ≠ t := by
  cases hr : t.reading? n with
  | none => simp [readBytes, hr] at hbytes
  | some r =>
    rcases Nat.eq_zero_or_pos length with rfl | hl
    · simp [readBytes_zero hr] at hbytes
    by_cases hrest : r.rest = []
    · simp [readBytes_of_nil hr hrest hl] at hbytes
    · rw [readBytes_of_rest hr hrest hl] at hbytes ⊢
      generalize r.rest.take length = piece at hbytes ⊢
      intro heq
      have hmoved : t.reading? n = some (r.moved piece.length) := by
        conv_lhs => rw [← show t.putReading n (r.moved piece.length) = t from heq]
        exact reading?_putReading_self hr _
      have hposition := congrArg Reading.position (Option.some.inj (hr.symm.trans hmoved))
      rw [Reading.position_moved] at hposition
      have hnil : piece.length = 0 := by omega
      exact hbytes (List.length_eq_zero_iff.1 hnil)

theorem occupy_ne (t : FileTable) (buffer : Bytes) : t.occupy buffer ≠ t := by
  intro heq
  have hcount := t.openCount_occupy buffer
  rw [heq] at hcount
  exact Nat.succ_ne_self _ hcount.symm

/-- An opening that answers with a number that is not negative has registered a file. -/
theorem openForRead_ne {source : FileSource} {path : String}
    (hn : 0 ≤ (t.openForRead source path).1) : (t.openForRead source path).2 ≠ t := by
  rcases t.openForRead_cases source path with hfail | ⟨buffer, -, -, hopen⟩
  · rw [hfail] at hn
    exact absurd (show (0 : Int32) ≤ -1 from hn) (by decide)
  · rw [hopen]
    exact t.occupy_ne buffer

/-- In a table of fewer than `2 ^ 31` slots, a negative answer means that nothing was registered. -/
theorem openForRead_eq {source : FileSource} {path : String}
    (hn : ¬ 0 ≤ (t.openForRead source path).1) (hslots : t.slots.length < 2 ^ 31) :
    (t.openForRead source path).2 = t := by
  rcases t.openForRead_cases source path with hfail | ⟨buffer, -, -, hopen⟩
  · rw [hfail]
  · rw [hopen] at hn
    have hplace := place?_ofNat (Nat.lt_of_le_of_lt t.freePlace_le hslots)
    have hzero : place? 0 = some 0 := rfl
    exact absurd ((le_of_place? hzero hplace).2 (Nat.zero_le _)) hn

end FileTable

namespace StreamNative

open GuestHost.Action

variable {h h' : Host} {args : List Value}

/-! ## Work in vain -/

/-- The second argument of an opening is the path of a file that is opened, and the first takes no
number. -/
def OpensInVain (args : List Value) (h : Host) : Prop :=
  ∃ stream p path fault, Args.get args 0 = .ok stream ∧ Args.get args 1 = .ok p ∧
    h.text p = .ok path ∧ 0 ≤ (h.files.openForRead h.source path).1 ∧
    ((setDescriptor stream (h.files.openForRead h.source path).1).apply h).1 = .error fault

/-- Bytes of a stream are read, and the array does not take them. -/
def ReadsInVain (args : List Value) (h : Host) : Prop :=
  ∃ n array start length fault, (number args).apply h = (.ok n, h) ∧
    (window args).apply h = (.ok (array, start, length), h) ∧ length ≠ 0 ∧
    ((arrayFill array start ((h.files.readBytes n length).2.1.map Value.ofByte)).apply h).1
      = .error fault

/-- The reading of a stream is closed, and its number cannot be taken from it. -/
def ClosesInVain (args : List Value) (h : Host) : Prop :=
  ∃ stream n fault, Args.get args 0 = .ok stream ∧ h.descriptor stream = .ok n ∧ 0 ≤ n ∧
    (h.files.release n).2 ≠ h.files ∧ ((setDescriptor stream (-1)).apply h).1 = .error fault

/-- A native changes the file table in vain. -/
def InVain (native : StreamNative) (args : List Value) (h : Host) : Prop :=
  match native with
  | .openFile => OpensInVain args h
  | .readBytes => ReadsInVain args h
  | .close => ClosesInVain args h
  | _ => False

/-- An opening leaves another file table behind a fault exactly if it was in vain. -/
theorem failsCleanly_runOpen_iff (args : List Value) (h : Host) :
    FailsCleanly (runOpen args) h ↔ ¬ OpensInVain args h := by
  rcases runOpen_cases args h with ⟨fault, hrun, hnone⟩ | ⟨stream, p, path, h₀, h₁, hpath, hrun⟩
  · refine iff_of_true (Refuses.failsCleanly ⟨fault, hrun⟩) ?_
    rintro ⟨stream, p, path, _, h₀, h₁, hpath, -⟩
    exact hnone stream p path h₀ h₁ hpath
  · have hvain : OpensInVain args h ↔ 0 ≤ (h.files.openForRead h.source path).1 ∧ ∃ fault,
        ((setDescriptor stream (h.files.openForRead h.source path).1).apply h).1 = .error fault := by
      simp [OpensInVain, h₀, h₁, hpath]
    rw [hvain]
    by_cases hn : 0 ≤ (h.files.openForRead h.source path).1
    · rw [failsCleanly_iff_of_stores (ignoresFiles_setDescriptor stream _)
        (hrun.trans (apply_openAt_of_nonneg hn))]
      simp [hn, FileTable.openForRead_ne hn]
    · refine iff_of_true ?_ fun hvain => hn hvain.1
      exact failsCleanly_of_ok (congrArg Prod.fst (hrun.trans (apply_openAt_of_neg hn)))

/-- So does a reading of bytes: if there are some that cannot be stored, they are gone. -/
theorem failsCleanly_runReadBytes_iff (args : List Value) (h : Host) :
    FailsCleanly (runReadBytes args) h ↔ ¬ ReadsInVain args h := by
  rcases runReadBytes_cases args h with
    ⟨hrefused, hnone⟩ | ⟨n, array, start, length, hnumber, hwindow, hrun⟩
  · refine iff_of_true hrefused.failsCleanly ?_
    rintro ⟨n, array, start, length, _, hnumber, hwindow, -⟩
    exact hnone n array start length hnumber hwindow
  let fill := arrayFill array start ((h.files.readBytes n length).2.1.map Value.ofByte)
  have hvain : ReadsInVain args h ↔ length ≠ 0 ∧ ∃ fault, (fill.apply h).1 = .error fault := by
    simp [ReadsInVain, hnumber, hwindow, fill]
  rw [hvain]
  by_cases hl : length = 0
  · subst hl
    refine iff_of_true (failsCleanly_of_ok (x := .int 0) ?_) fun hvain => hvain.1 rfl
    rw [hrun, apply_readBytesAt_zero]
  · rw [failsCleanly_iff_of_stores (ignoresFiles_arrayFill array start _)
      (hrun.trans (apply_readBytesAt hl n array start h))]
    -- Filling a window with nothing has no fault, so there are bytes.
    have hne : (∃ fault, (fill.apply h).1 = .error fault) →
        (h.files.readBytes n length).2.2 ≠ h.files := by
      rintro ⟨fault, hfault⟩
      refine FileTable.readBytes_ne fun hnil => ?_
      simp only [fill, hnil] at hfault
      cases hfault
    exact not_congr ⟨fun hboth => ⟨hl, hboth.2⟩, fun hboth => ⟨hne hboth.2, hboth.2⟩⟩

/-- So does a closing: nothing can be read any more, and the stream has its number still. -/
theorem failsCleanly_runClose_iff (args : List Value) (h : Host) :
    FailsCleanly (runClose args) h ↔ ¬ ClosesInVain args h := by
  cases args with
  | nil =>
    have hrefused : Refuses (runClose []) h := ⟨_, rfl⟩
    refine iff_of_true hrefused.failsCleanly ?_
    rintro ⟨stream, _, _, ⟨⟩, -⟩
  | cons stream rest =>
    have hfirst : Args.get (stream :: rest) 0 = .ok stream := rfl
    cases hnumber : h.descriptor stream with
    | error fault =>
      have hrefused : Refuses (descriptor stream) h := ⟨fault, apply_view_of_error hnumber⟩
      exact iff_of_true (hrefused.bind _).failsCleanly (by simp [ClosesInVain, hfirst, hnumber])
    | ok n =>
      by_cases hn : 0 ≤ n
      · rw [failsCleanly_iff_of_stores (ignoresFiles_setDescriptor stream (-1))
          (apply_runClose_of_nonneg hnumber hn rest)]
        simp [ClosesInVain, hfirst, hnumber, hn]
      · have hclosed := apply_runClose_of_neg hnumber hn rest
        exact iff_of_true (failsCleanly_of_ok (congrArg Prod.fst hclosed))
          (by simp [ClosesInVain, hfirst, hnumber, hn])

theorem failsCleanly_iff_inVain (native : StreamNative) (args : List Value) (h : Host) :
    FailsCleanly (run native args) h ↔ ¬ InVain native args h := by
  cases native with
  | openFile => exact failsCleanly_runOpen_iff args h
  | readBytes => exact failsCleanly_runReadBytes_iff args h
  | close => exact failsCleanly_runClose_iff args h
  | skip =>
    refine iff_of_true ?_ not_false
    refine (ignoresFiles_number args).bind_failsCleanly fun n h₁ _ => ?_
    exact (ignoresFiles_ofResult _).bind_failsCleanly fun amount h₂ _ => failsCleanly_of_ok rfl
  | available =>
    refine iff_of_true ?_ not_false
    exact (ignoresFiles_number args).bind_failsCleanly fun n h₁ _ => failsCleanly_of_ok rfl
  | read =>
    refine iff_of_true ?_ not_false
    exact (ignoresFiles_number args).bind_failsCleanly fun n h₁ _ => failsCleanly_of_ok rfl
  | writeBytes =>
    refine iff_of_true ?_ not_false
    refine (ignoresFiles_number args).bind_failsCleanly fun n h₁ _ => ?_
    refine (ignoresFiles_window args).bind_failsCleanly fun (array, start, length) h₂ _ => ?_
    refine (ignoresFiles_arrayValues array).bind_failsCleanly fun values h₃ _ => ?_
    exact (ignoresFiles_ofResult _).bind_failsCleanly fun ints h₄ _ => failsCleanly_of_ok rfl
  | writeByte =>
    refine iff_of_true ?_ not_false
    refine (ignoresFiles_number args).bind_failsCleanly fun n h₁ _ => ?_
    exact (ignoresFiles_ofResult _).bind_failsCleanly fun i h₂ _ => failsCleanly_of_ok rfl
  | attributes =>
    refine iff_of_true ?_ not_false
    refine (ignoresFiles_ofResult _).bind_failsCleanly fun v h₁ _ => ?_
    exact (ignoresFiles_text v).bind_failsCleanly fun path h₂ _ => failsCleanly_of_ok rfl

/-! ## Hosts without a shared library -/

section NoLibrary

variable (hl : ∀ l, h.attached ≠ some (.library l))

include hl

/-- The array takes all bytes of its window. -/
theorem not_readsInVain (args : List Value) : ¬ ReadsInVain args h := by
  rintro ⟨n, array, start, length, fault, -, hwindow, -, hfault⟩
  obtain ⟨size, hsize, hle⟩ := window_ok hwindow
  have hfits : start + ((h.files.readBytes n length).2.1.map Value.ofByte).length ≤ size := by
    have := h.files.length_readBytes_le n length
    rw [List.length_map]
    omega
  obtain ⟨h', hfill, -⟩ := arrayFill_of_length (Host.keepsArray_of_no_library hl array) hsize hfits
  rw [hfill] at hfault
  cases hfault

/-- The stream gives its number away. -/
theorem not_closesInVain (args : List Value) : ¬ ClosesInVain args h := by
  rintro ⟨stream, n, fault, -, hnumber, hn, -, hfault⟩
  rw [setDescriptor_ok hl hnumber hn] at hfault
  cases hfault

end NoLibrary

/-- What is done in vain is an opening, or concerns an object of a shared library. -/
theorem openFile_or_library_of_inVain {native : StreamNative} (hvain : InVain native args h) :
    native = .openFile ∨ ∃ l, h.attached = some (.library l) := by
  by_contra hnot
  obtain ⟨hopen, hl⟩ := not_or.1 hnot
  have hnone := not_exists.1 hl
  cases native with
  | openFile => exact hopen rfl
  | readBytes => exact not_readsInVain hnone args hvain
  | close => exact not_closesInVain hnone args hvain
  | skip | available | read | writeBytes | writeByte | attributes => exact hvain

/-- An opening that answers with a negative number registers nothing. -/
theorem files_eq_of_runOpen_neg {n : Int32} (hok : (runOpen args).apply h = (.ok (.int n), h'))
    (hn : n < 0) (hslots : h.files.slots.length < 2 ^ 31) : h'.files = h.files := by
  rcases runOpen_cases args h with ⟨fault, hrun, -⟩ | ⟨stream, p, path, -, -, -, hrun⟩
  · rw [hrun] at hok
    cases hok
  · rw [hrun] at hok
    by_cases hopen : 0 ≤ (h.files.openForRead h.source path).1
    · rw [apply_openAt_of_nonneg hopen] at hok
      obtain ⟨_, _, -, hok⟩ := apply_bind_eq_ok.1 hok
      cases hok
      exact absurd hopen (by rwa [Int32.not_le])
    · rw [apply_openAt_of_neg hopen] at hok
      cases hok
      exact FileTable.openForRead_eq hopen hslots

/-- **Natives of file streams that meet a fault** leave the file table as it was, in every host and with
every list of arguments, unless they changed it in vain; then it stays as they changed it. A host without a
shared library does only one thing in vain: it opens a file for a stream that takes no number. An opening
that answers with a negative number registers nothing either, in a table of fewer than `2 ^ 31` slots. -/
theorem failsCleanly_iff (native : StreamNative) (args : List Value) (h : Host) :
    (FailsCleanly (run native args) h ↔ ¬ InVain native args h) ∧
      (InVain native args h → native = .openFile ∨ ∃ l, h.attached = some (.library l)) ∧
      ∀ n h', (run .openFile args).apply h = (.ok (.int n), h') → n < 0 →
        h.files.slots.length < 2 ^ 31 → h'.files = h.files :=
  ⟨failsCleanly_iff_inVain native args h, openFile_or_library_of_inVain,
    fun _ _ => files_eq_of_runOpen_neg⟩

/-- A closing in vain: the library refuses to take the number from the stream. -/
example :
    let library : Library :=
      { name := "guest", objects := #[.stream 3], newAnswers := none,
        accessors := { Accessors.table with streamSet := fun t _ _ => (5, t) } }
    let host : Host :=
      { config := { mode := .exported }, heap := .empty, registry := .initial, linkage := .empty,
        files := FileTable.empty.enable.occupy [1], source := .staged .empty, imports := .empty,
        attached := some (.library library), surroundings := { millis := 0, seed := 0 } }
    let outcome := (run .close [.handle 0]).apply host
    outcome.1 = .error (.inModule (.accessor "guest" "bytelink_fd_set" 5)) ∧
      host.files.openCount = 1 ∧ outcome.2.files.openCount = 0 :=
  ⟨rfl, rfl, rfl⟩

/-- An opening in vain: null takes no number, and the file stays open. -/
theorem open_for_null_leaks :
    let host : Host :=
      { config := {}, heap := (Heap.empty.allocObject CoreClass.string (.text "a")).2,
        registry := .initial, linkage := .empty, files := FileTable.empty.enable,
        source := .staged (.ofList [("a", [1])]), imports := .empty, attached := none,
        surroundings := { millis := 0, seed := 0 } }
    let outcome := (run .openFile [.null, .ref ⟨0⟩]).apply host
    outcome.1 = .error (.reference (.nullFor "file stream")) ∧
      host.files.openCount = 0 ∧ outcome.2.files.openCount = 1 :=
  ⟨rfl, rfl, rfl⟩

end StreamNative

end GuestHost
