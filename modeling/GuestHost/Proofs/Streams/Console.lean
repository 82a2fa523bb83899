import Mathlib.Control.Monad.Basic
import GuestHost.Host.Operations
import GuestHost.Proofs.Files.Console
import GuestHost.Proofs.Modes.Equivalence
import GuestHost.Proofs.Streams.Natives

/-!
# What the console shows

Guest code prints by two natives: one writes a window of an array, the other one byte. A call either
writes bytes to the number of its stream, or meets a fault and does nothing. What the console shows in the
end is said by the bytes alone, stream by stream, whichever calls they came from.

* `StreamNative.Puts` — the bytes that a call writes: `run_of_puts`, `refuses_of_not_puts`;
* `Host.Prints` — a run of such calls, with what they wrote;
* `console_shows_what_is_written` — the lines of the console after the run and a flush.
-/

namespace GuestHost

open GuestHost.Action

namespace StreamNative

variable {h : Host} {args : List Value} {native : StreamNative} {n : Int32} {bytes : Bytes}

/-! ## What a call writes -/

/-- The natives that write. -/
def prints : StreamNative → Bool
  | .writeBytes | .writeByte => true
  | _ => false

/-- The number that a call writes to, and the bytes: the low byte of an int, or the low bytes of the ints
in a window of an array. -/
inductive Puts (h : Host) (args : List Value) : StreamNative → Int32 → Bytes → Prop
  | byte {stream : Value} {n i : Int32} (hstream : args[0]? = some stream)
    (hn : h.descriptor stream = .ok n) (hi : args[1]? = some (.int i)) :
    Puts h args .writeByte n [i.toUInt32.toUInt8]
  | bytes {stream array : Value} {n offset count : Int32} {values : List Value} {ints : List Int32}
    (hstream : args[0]? = some stream) (hn : h.descriptor stream = .ok n)
    (harray : args[1]? = some array) (hoffset : args[2]? = some (.int offset))
    (hcount : args[3]? = some (.int count)) (hvalues : h.arrayValues array = .ok values)
    (hwindow : 0 ≤ offset ∧ 0 ≤ count ∧ offset.toInt.toNat + count.toInt.toNat ≤ values.length)
    (hints : (values.drop offset.toInt.toNat).take count.toInt.toNat = ints.map Value.int) :
    Puts h args .writeBytes n (ints.map fun i => i.toUInt32.toUInt8)

/-- A call that writes has null for its result, and changes nothing but the file table. -/
theorem run_of_puts (hputs : Puts h args native n bytes) :
    (run native args).apply h = (.ok .null, { h with files := (h.files.write n bytes).2 }) := by
  cases hputs with
  | byte hstream hn hi =>
    have hnumber : (number args).apply h = (.ok n, h) := number_eq_ok.2 ⟨⟨_, hstream, hn⟩, rfl⟩
    show (number args >>= _).apply h = _
    rw [apply_bind_of_ok hnumber, Args.int_eq_ok.2 hi]
    rfl
  | @bytes stream array _ offset count values ints hstream hn harray hoffset hcount hvalues hwindow hints =>
    have hnumber : (number args).apply h = (.ok n, h) := number_eq_ok.2 ⟨⟨_, hstream, hn⟩, rfl⟩
    have hrange : Args.range offset count values.length
        = .ok (offset.toInt.toNat, count.toInt.toNat) :=
      Args.range_eq_ok.2 ⟨hwindow.1, hwindow.2.1, rfl, rfl, hwindow.2.2⟩
    have hwindowed : (window args).apply h
        = (.ok (array, offset.toInt.toNat, count.toInt.toNat), h) :=
      window_eq_ok.2 ⟨⟨offset, count, values.length, harray, hoffset, hcount,
        Host.arrayLength_of_arrayValues hvalues, hrange⟩, rfl⟩
    have hread : (arrayValues array).apply h = (.ok values, h) := apply_view_of_ok hvalues
    show (number args >>= _).apply h = _
    rw [apply_bind_of_ok hnumber, apply_bind_of_ok hwindowed]
    show (arrayValues array >>= _).apply h = _
    rw [apply_bind_of_ok hread, Args.ints_eq_ok.2 hints]
    rfl

/-- A call that writes nothing meets a fault, and changes nothing. -/
theorem refuses_of_not_puts (hnative : native.prints = true)
    (hnone : ∀ n bytes, ¬ Puts h args native n bytes) : Refuses (run native args) h := by
  cases native with
  | writeByte =>
    apply (readsOnly_number args).bind_refuses
    intro n hn
    obtain ⟨⟨stream, hstream, hn⟩, -⟩ := number_eq_ok.1 hn
    cases hi : Args.int args 1 with
    | error fault => exact ⟨fault, rfl⟩
    | ok i => exact absurd (.byte hstream hn (Args.int_eq_ok.1 hi)) (hnone n _)
  | writeBytes =>
    apply (readsOnly_number args).bind_refuses
    intro n hn
    obtain ⟨⟨stream, hstream, hn⟩, -⟩ := number_eq_ok.1 hn
    apply (readsOnly_window args).bind_refuses
    rintro ⟨array, start, length⟩ hw
    obtain ⟨⟨offset, count, size, harray, hoffset, hcount, hsize, hrange⟩, -⟩ := window_eq_ok.1 hw
    apply (readsOnly_view _).bind_refuses
    intro values hread
    obtain ⟨hvalues, -⟩ := apply_view_eq_ok.1 hread
    cases hints : Args.ints ((values.drop start).take length) with
    | error fault => exact ⟨fault, rfl⟩
    | ok ints =>
      -- Everything that the call needs is there, so it writes.
      obtain ⟨hpos, hpos', rfl, rfl, hle⟩ := Args.range_eq_ok.1 hrange
      rw [Host.arrayLength_of_arrayValues hvalues] at hsize
      cases hsize
      exact absurd (.bytes hstream hn harray hoffset hcount hvalues ⟨hpos, hpos', hle⟩
        (Args.ints_eq_ok.1 hints)) (hnone n _)
  | openFile | skip | available | read | readBytes | close | attributes => cases hnative

end StreamNative

namespace Host

variable {h h' : Host} {log : List (Int32 × Bytes)}

/-! ## Runs of calls -/

/-- A run of calls that write, with the numbers and the bytes that they wrote. Some of the calls meet a
fault. Between them the host may change, and all may be done to its files but writes and flushes. -/
inductive Prints (h : Host) : List (Int32 × Bytes) → Host → Prop
  | refl : Prints h [] h
  | puts {h' : Host} {log : List (Int32 × Bytes)} {native : StreamNative} {args : List Value} {n : Int32}
    {bytes : Bytes} (hrun : Prints h log h') (hputs : native.Puts h' args n bytes) :
    Prints h (log ++ [(n, bytes)]) ((native.run args).apply h').2
  | refused {h' : Host} {log : List (Int32 × Bytes)} {native : StreamNative} {args : List Value}
    {fault : Fault} (hrun : Prints h log h') (hnative : native.prints = true)
    (hfault : ((native.run args).apply h').1 = .error fault) :
    Prints h log ((native.run args).apply h').2
  | aside {h' h'' : Host} {log : List (Int32 × Bytes)} (hrun : Prints h log h') (ops : List FileOp)
    (hops : ∀ op ∈ ops, op.leavesConsole = true) (hfiles : h''.files = h'.files.after ops) :
    Prints h log h''

/-- The bytes that were written to a number, one after the other. -/
def written (n : Int32) (log : List (Int32 × Bytes)) : Bytes :=
  (log.filter fun entry => entry.1 = n).flatMap (·.2)

theorem written_concat (n m : Int32) (log : List (Int32 × Bytes)) (bytes : Bytes) :
    written n (log ++ [(m, bytes)]) = written n log ++ if n = m then bytes else [] := by
  unfold written
  by_cases hm : n = m
  · simp [hm]
  · simp [hm, Ne.symm hm]

/-- A call that meets a fault changes nothing. -/
theorem eq_of_fault {native : StreamNative} {args : List Value} {fault : Fault}
    (hnative : native.prints = true) (hfault : ((native.run args).apply h).1 = .error fault) :
    ((native.run args).apply h).2 = h := by
  have hnone : ∀ n bytes, ¬ native.Puts h args n bytes := by
    intro n bytes hputs
    rw [StreamNative.run_of_puts hputs] at hfault
    cases hfault
  obtain ⟨fault', hrun⟩ := StreamNative.refuses_of_not_puts hnative hnone
  rw [hrun]

/-- **A run of calls** leaves the console streams as if all bytes had been written to them at once. -/
theorem Prints.printed (hsound : h.files.Sound) (hidle : h.files.Idle) (hrun : h.Prints log h') :
    h.files.Printed (fun stream => written stream.number log) h'.files := by
  induction hrun with
  | refl => exact .refl hsound hidle
  | @puts h' log native args n bytes _ hputs ih =>
    rw [StreamNative.run_of_puts hputs]
    simp only [written_concat]
    exact ih.write n bytes
  | refused _ hnative hfault ih =>
    rw [eq_of_fault hnative hfault]
    exact ih
  | aside _ ops hops hfiles ih =>
    rw [hfiles]
    exact ih.after hops

/-- The console of a host that was just built shows nothing, and no line is unfinished. -/
theorem console_of_build {s : Setup} (hbuild : s.build = .ok h) :
    h.files.Sound ∧ h.files.Idle ∧ ∀ stream, h.files.shown stream = [] := by
  obtain ⟨source, -, rfl⟩ := exists_of_build hbuild
  have hfiles : ∀ files : FileTable, files = FileTable.empty ∨ files = FileTable.empty.enable →
      files.Sound ∧ files.Idle ∧ ∀ stream, files.shown stream = [] := by
    rintro files (rfl | rfl)
    · exact ⟨FileTable.sound_empty, FileTable.idle_empty, fun _ => rfl⟩
    · exact ⟨FileTable.sound_after [.enable], FileTable.idle_empty, fun _ => rfl⟩
  apply hfiles
  cases s.config.mode with
  | direct => exact .inr rfl
  | exported => exact .inl rfl

/-! ## What is shown -/

/-- **The console shows the lines of what is written.** Take a host without unfinished console lines, such
as one that was just built, and any run of calls that write, on streams of any numbers. After the run and a
flush, each console stream has shown the lines of the bytes that were written to its number, as if they
were one piece. How they were divided, which native wrote them, and what was written to other numbers makes
no difference.

A call writes bytes, has null for its result and changes nothing else; or there is nothing that it would
write, and then it meets a fault and changes nothing at all. -/
theorem console_shows_what_is_written (hsound : h.files.Sound) (hidle : h.files.Idle)
    (hrun : h.Prints log h') :
    (∀ stream, ((Op.flush : Op Body).apply.apply h').2.files.shown stream
      = h.files.shown stream ++ Console.lines (written stream.number log)) ∧
    ∀ (native : StreamNative) (args : List Value), native.prints = true →
      (∃ n bytes, native.Puts h' args n bytes ∧
        (native.run args).apply h' = (.ok .null, { h' with files := (h'.files.write n bytes).2 })) ∨
      (∀ n bytes, ¬ native.Puts h' args n bytes) ∧
        ∃ fault, (native.run args).apply h' = (.error fault, h') := by
  refine ⟨(hrun.printed hsound hidle).flush, fun native args hnative => ?_⟩
  by_cases hputs : ∃ n bytes, native.Puts h' args n bytes
  · obtain ⟨n, bytes, hputs⟩ := hputs
    exact .inl ⟨n, bytes, hputs, StreamNative.run_of_puts hputs⟩
  · have hnone : ∀ n bytes, ¬ native.Puts h' args n bytes := fun n bytes h => hputs ⟨n, bytes, h⟩
    exact .inr ⟨hnone, StreamNative.refuses_of_not_puts hnative hnone⟩

/-- A line in two portions, with a byte for nobody and a call that meets a fault in between. -/
theorem console_shows_what_is_written_in_portions :
    let setup : Setup :=
      { config := {}, source := some (.staged (.ofList [])), imports := .standard, attached := none,
        outside := .nothing, surroundings := { millis := 0, seed := 0 } }
    let descriptor (n : Int32) : Entry :=
      .object ⟨CoreClass.fileDescriptor, Dict.empty.set descriptorField (.int n), .empty⟩
    let stream (r : Ref) : Entry := .object ⟨7, Dict.empty.set descriptorField (.ref r), .empty⟩
    let heap : Heap :=
      ⟨#[descriptor 1, stream ⟨0⟩, descriptor 9, stream ⟨2⟩,
        .array [.int 72, .int 105, .int 13, .int 266, .int 33]]⟩
    ∃ start next, setup.build = .ok start ∧
      start.Prints [(1, [72]), (9, [66]), (1, [105, 13, 10, 33])] next ∧ next.heap = heap ∧
      ((Op.flush : Op Body).apply.apply next).2.files.shown .stdout = ["Hi", "!"] ∧
      ((Op.flush : Op Body).apply.apply next).2.files.shown .stderr = [] := by
  intro setup descriptor stream heap
  let start : Host :=
    { config := {}, heap := .empty, registry := CoreClass.registry, linkage := .empty,
      files := FileTable.empty.enable, source := .staged (.ofList []), imports := .standard,
      attached := none, surroundings := { millis := 0, seed := 0 } }
  have hbuild : setup.build = .ok start := rfl
  let host : Host := { start with heap }
  have hrun : start.Prints [] host := Prints.refl.aside [] (by simp) rfl
  -- Each call in turn: the letter, the byte for a number without a file, the call with a window that the
  -- array does not have, and the rest of the line.
  let h₁ : Host := ((StreamNative.run .writeByte [.ref ⟨1⟩, .int 72]).apply host).2
  let h₂ : Host := ((StreamNative.run .writeByte [.ref ⟨3⟩, .int 322]).apply h₁).2
  let h₃ : Host :=
    ((StreamNative.run .writeBytes [.ref ⟨1⟩, .ref ⟨4⟩, .int 3, .int 3]).apply h₂).2
  let h₄ : Host :=
    ((StreamNative.run .writeBytes [.ref ⟨1⟩, .ref ⟨4⟩, .int 1, .int 4]).apply h₃).2
  have hletter : StreamNative.Puts host [.ref ⟨1⟩, .int 72] .writeByte 1
      [(72 : Int32).toUInt32.toUInt8] := .byte rfl rfl rfl
  have hlost : StreamNative.Puts h₁ [.ref ⟨3⟩, .int 322] .writeByte 9
      [(322 : Int32).toUInt32.toUInt8] := .byte rfl (by decide +kernel) rfl
  have hvalues : h₃.arrayValues (.ref ⟨4⟩)
      = .ok [.int 72, .int 105, .int 13, .int 266, .int 33] := by decide +kernel
  have hrest : StreamNative.Puts h₃ [.ref ⟨1⟩, .ref ⟨4⟩, .int 1, .int 4] .writeBytes 1
      ([105, 13, 266, 33].map fun i : Int32 => i.toUInt32.toUInt8) :=
    .bytes rfl (by decide +kernel) rfl rfl rfl hvalues (by decide) rfl
  have h₁run : start.Prints [(1, [72])] h₁ := hrun.puts hletter
  have h₂run : start.Prints [(1, [72]), (9, [66])] h₂ := h₁run.puts hlost
  have h₃run : start.Prints [(1, [72]), (9, [66])] h₃ := h₂run.refused rfl rfl
  have h₄run : start.Prints [(1, [72]), (9, [66]), (1, [105, 13, 10, 33])] h₄ := h₃run.puts hrest
  obtain ⟨hsound, hidle, hnone⟩ := console_of_build hbuild
  obtain ⟨hshown, -⟩ := console_shows_what_is_written hsound hidle h₄run
  have hout : Console.lines (written 1 [(1, [72]), (9, [66]), (1, [105, 13, 10, 33])]) = ["Hi", "!"] := by
    decide +kernel
  have herr : Console.lines (written 2 [(1, [72]), (9, [66]), (1, [105, 13, 10, 33])]) = [] := by
    decide +kernel
  refine ⟨start, h₄, hbuild, h₄run, by decide +kernel, ?_, ?_⟩
  · rw [hshown .stdout, hnone]
    exact hout
  · rw [hshown .stderr, hnone]
    exact herr

end Host

end GuestHost
