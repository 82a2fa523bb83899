import GuestHost.Natives.Text
import GuestHost.Proofs.Streams.Failure

/-!
# Filling windows of arrays

Two natives fill a window of an array that the guest hands in: one copies characters of a text, the other
reads bytes of a file. Both store one element after the other, and storing stops where the array ends.

* `TextNative.Copies`, `apply_getChars` — what is copied, and that it is stored as far as there is room;
* `apply_readBytes_cases` — bytes have room as soon as they are read;
* `windows_filled_iff` — bytes are stored all or not at all. Characters are too unless the array has room
  for some of them only: its length is not looked at before the first one is stored.
-/

namespace GuestHost

/-! ## Copying characters -/

namespace TextNative

open GuestHost.Action

variable {h h' : Host} {args : List Value} {array answer : Value} {place : Nat} {cs : List Char}

/-- What the arguments of a copy name: an array, a place in it and characters of a text. -/
def copied (args : List Value) : Action (Value × Nat × List Char) := do
  let s ← Args.text args 0
  let first ← ofResult (Args.int args 1)
  let last ← ofResult (Args.int args 2)
  let array ← ofResult (Args.get args 3)
  let place ← ofResult (Args.index args 4)
  let (start, n) ← ofResult (Args.range first (last - first) s.length)
  return (array, place, (s.drop start).take n)

theorem runGetChars_eq (args : List Value) : runGetChars args = (do
    let (array, place, cs) ← copied args
    arrayFill array place (cs.map Value.ofChar)
    return .null) := by
  simp only [runGetChars, copied, bind_assoc, pure_bind]

theorem readsOnly_copied (args : List Value) : ReadsOnly (copied args) := by
  have htext : ReadsOnly (Args.text args 0) :=
    (readsOnly_ofResult _).bind fun v => (readsOnly_view _).bind fun _ => readsOnly_pure _
  refine htext.bind fun s => (readsOnly_ofResult _).bind fun first => ?_
  refine (readsOnly_ofResult _).bind fun last => (readsOnly_ofResult _).bind fun array => ?_
  exact (readsOnly_ofResult _).bind fun place => (readsOnly_ofResult _).bind fun _ => readsOnly_pure _

/-- The arguments of a copy: a text, two indices into it, an array and a place in it. -/
def Copies (args : List Value) (h : Host) (array : Value) (place : Nat) (cs : List Char) : Prop :=
  ∃ source s first last p, args[0]? = some source ∧ h.text source = .ok s ∧
    args[1]? = some (.int first) ∧ args[2]? = some (.int last) ∧ args[3]? = some array ∧
    args[4]? = some (.int p) ∧ 0 ≤ p ∧ p.toInt.toNat = place ∧
    0 ≤ first ∧ 0 ≤ last - first ∧
    first.toInt.toNat + (last - first).toInt.toNat ≤ s.toList.length ∧
    (s.toList.drop first.toInt.toNat).take (last - first).toInt.toNat = cs

theorem copied_eq_ok :
    (copied args).apply h = (.ok (array, place, cs), h') ↔ Copies args h array place cs ∧ h = h' := by
  unfold copied Copies
  constructor
  · intro hcopied
    obtain ⟨s, h₁, h₁', hcopied⟩ := apply_bind_eq_ok.1 hcopied
    obtain ⟨⟨source, text, hsource, htext, rfl⟩, rfl⟩ := Args.text_eq_ok.1 h₁'
    obtain ⟨first, h₂, h₂', hcopied⟩ := apply_bind_eq_ok.1 hcopied
    obtain ⟨last, h₃, h₃', hcopied⟩ := apply_bind_eq_ok.1 hcopied
    obtain ⟨array', h₄, h₄', hcopied⟩ := apply_bind_eq_ok.1 hcopied
    obtain ⟨place', h₅, h₅', hcopied⟩ := apply_bind_eq_ok.1 hcopied
    obtain ⟨⟨start, n⟩, h₆, h₆', hcopied⟩ := apply_bind_eq_ok.1 hcopied
    obtain ⟨hfirst, rfl⟩ := apply_ofResult_eq_ok.1 h₂'
    obtain ⟨hlast, rfl⟩ := apply_ofResult_eq_ok.1 h₃'
    obtain ⟨harray, rfl⟩ := apply_ofResult_eq_ok.1 h₄'
    obtain ⟨hplace, rfl⟩ := apply_ofResult_eq_ok.1 h₅'
    obtain ⟨hrange, rfl⟩ := apply_ofResult_eq_ok.1 h₆'
    obtain ⟨p, hp, hpos, rfl⟩ := Args.index_eq_ok.1 hplace
    obtain ⟨hbegin, hcount, rfl, rfl, hle⟩ := Args.range_eq_ok.1 hrange
    cases hcopied
    exact ⟨⟨source, text, first, last, p, hsource, htext, Args.int_eq_ok.1 hfirst,
      Args.int_eq_ok.1 hlast, Args.get_eq_ok.1 harray, hp, hpos, rfl, hbegin, hcount, hle, rfl⟩, rfl⟩
  · rintro ⟨⟨source, s, first, last, p, hsource, htext, hfirst, hlast, harray, hp, hpos, rfl, hbegin,
      hcount, hle, rfl⟩, rfl⟩
    have hread : (Args.text args 0).apply h = (.ok s.toList, h) :=
      Args.text_eq_ok.2 ⟨⟨source, s, hsource, htext, rfl⟩, rfl⟩
    rw [apply_bind_of_ok hread, Args.int_eq_ok.2 hfirst, Args.int_eq_ok.2 hlast,
      Args.get_eq_ok.2 harray, Args.index_eq_ok.2 ⟨p, hp, hpos, rfl⟩]
    show (ofResult (Args.range first (last - first) s.toList.length) >>= _).apply h = _
    rw [Args.range_eq_ok.2 ⟨hbegin, hcount, rfl, rfl, hle⟩]
    rfl

theorem Copies.getElem?_array (hcopies : Copies args h array place cs) : args[3]? = some array := by
  obtain ⟨_, _, _, _, _, -, -, -, -, harray, -⟩ := hcopies
  exact harray

/-- Without such arguments nothing is stored. -/
theorem copies_or_refuses (args : List Value) (h : Host) :
    (∃ array place cs, Copies args h array place cs) ∨ Refuses (run .getChars args) h := by
  show _ ∨ Refuses (runGetChars args) h
  rw [runGetChars_eq]
  rcases (readsOnly_copied args).result_or_refuses h with ⟨⟨array, place, cs⟩, hcopied⟩ | hrefused
  · exact .inl ⟨array, place, cs, (copied_eq_ok.1 hcopied).1⟩
  · exact .inr (hrefused.bind _)

/-- The array has room for some of the characters but not for all, and one of those that there is room for
is not there yet. -/
def CopiesInPart (args : List Value) (h : Host) : Prop :=
  ∃ array place cs, Copies args h array place cs ∧ h.room array place < cs.length ∧
    ∃ i, ∃ hi : i < cs.length, i < h.room array place ∧
      h.arrayGet array (place + i) ≠ .ok (.ofChar cs[i])

section

variable (hk : ∀ array ∈ args[3]?, h.KeepsArray array)

include hk

/-- The characters are stored as far as there is room for them, and there is no fault exactly if there is
room for all. Nothing but the array changes. -/
theorem apply_getChars (hcopies : Copies args h array place cs) :
    ∃ h', h.Fills h' array place ((cs.map Value.ofChar).take (h.room array place)) ∧
      h.OnlyArrays h' ∧
      (cs.length ≤ h.room array place ∧ (run .getChars args).apply h = (.ok .null, h') ∨
        h.room array place < cs.length ∧
          ∃ fault, (run .getChars args).apply h = (.error fault, h')) := by
  obtain ⟨r, h', hfill, hfills, honly, -, hok⟩ :=
    apply_arrayFill (hk array hcopies.getElem?_array) (cs.map Value.ofChar) place
  rw [List.length_map] at hok
  have hrun : (run .getChars args).apply h
      = (do arrayFill array place (cs.map Value.ofChar); return .null : Action Value).apply h := by
    show (runGetChars args).apply h = _
    rw [runGetChars_eq, apply_bind_of_ok (copied_eq_ok.2 ⟨hcopies, rfl⟩)]
  refine ⟨h', hfills, honly, ?_⟩
  rw [hrun]
  cases r with
  | ok _ => exact .inl ⟨hok.1 rfl, apply_bind_of_ok hfill _⟩
  | error fault =>
    have hlt : h.room array place < cs.length := Nat.lt_of_not_le fun hle => nomatch hok.2 hle
    exact .inr ⟨hlt, fault, apply_bind_of_error hfill _⟩

theorem fills_of_getChars {answer : Value} (hok : (run .getChars args).apply h = (.ok answer, h')) :
    ∃ array place cs, Copies args h array place cs ∧ h.Fills h' array place (cs.map Value.ofChar) := by
  rcases copies_or_refuses args h with ⟨array, place, cs, hcopies⟩ | ⟨fault, hrefused⟩
  · obtain ⟨h'', hfills, -, ⟨hle, hrun⟩ | ⟨-, fault, hrun⟩⟩ := apply_getChars hk hcopies
    · rw [hrun] at hok
      cases hok
      rw [List.take_of_length_le (by simpa using hle)] at hfills
      exact ⟨array, place, cs, hcopies, hfills⟩
    · rw [hrun] at hok
      cases hok
  · rw [hrefused] at hok
    cases hok

theorem sameArrays_of_getChars_iff :
    (∀ fault h', (run .getChars args).apply h = (.error fault, h') → h.SameArrays h') ↔
      ¬ CopiesInPart args h := by
  constructor
  · rintro hclean ⟨array, place, cs, hcopies, hroom, i, hi, hlt, hne⟩
    obtain ⟨h', hfills, -, ⟨hle, -⟩ | ⟨-, fault, hrun⟩⟩ := apply_getChars hk hcopies
    · omega
    · have hstored := hfills.inside i (by simp; omega)
      rw [(hclean fault h' hrun).2] at hstored
      simp [hne] at hstored
  · intro hwhole fault h' herr
    rcases copies_or_refuses args h with ⟨array, place, cs, hcopies⟩ | ⟨fault', hrefused⟩
    · obtain ⟨h'', hfills, -, ⟨-, hrun⟩ | ⟨hroom, fault', hrun⟩⟩ := apply_getChars hk hcopies
      · rw [hrun] at herr
        cases herr
      · rw [hrun] at herr
        cases herr
        refine hfills.sameArrays fun i hi => ?_
        simp only [List.length_take, List.length_map] at hi
        by_contra hne
        refine hwhole ⟨array, place, cs, hcopies, hroom, i, by omega, by omega, ?_⟩
        simpa using hne
    · rw [hrefused] at herr
      cases herr
      exact h.sameArrays_refl

end

end TextNative

/-! ## Reading bytes -/

namespace StreamNative

open GuestHost.Action

variable {h h' : Host} {args : List Value}

/-- The answer to a reading of bytes is their number, or -1 if there are none. -/
theorem answer_of_readBytes (t : FileTable) (n : Int32) (length : Nat) :
    (t.readBytes n length).1 = Int32.ofNat (t.readBytes n length).2.1.length ∨
      (t.readBytes n length).2.1 = [] ∧ (t.readBytes n length).1 = -1 := by
  unfold FileTable.readBytes
  repeat' split
  all_goals simp

/-- A reading of bytes is refused, or all its bytes are stored. -/
theorem apply_readBytes_cases (hk : ∀ array ∈ args[1]?, h.KeepsArray array) :
    Refuses (run .readBytes args) h ∨
      ∃ array offset length bytes answer h', args[1]? = some array ∧ args[2]? = some (.int offset) ∧
        args[3]? = some (.int length) ∧ 0 ≤ offset ∧ bytes.length ≤ length.toInt.toNat ∧
        (answer = Int32.ofNat bytes.length ∨ bytes = [] ∧ answer = -1) ∧
        (run .readBytes args).apply h = (.ok (.int answer), h') ∧
        h.Fills h' array offset.toInt.toNat (bytes.map Value.ofByte) := by
  show Refuses (runReadBytes args) h ∨ _
  rcases runReadBytes_cases args h with
    ⟨hrefused, -⟩ | ⟨n, array, start, count, -, hwindow, hrun⟩
  · exact .inl hrefused
  obtain ⟨⟨offset, length, size, harray, hoffset, hlength, hsize, hrange⟩, -⟩ :=
    window_eq_ok.1 hwindow
  obtain ⟨hpos, -, rfl, rfl, hle⟩ := Args.range_eq_ok.1 hrange
  refine .inr ?_
  show ∃ _ _ _ _ _ _, _ ∧ _ ∧ _ ∧ _ ∧ _ ∧ _ ∧ (runReadBytes args).apply h = _ ∧ _
  rw [hrun]
  by_cases hzero : length.toInt.toNat = 0
  · rw [hzero, apply_readBytesAt_zero]
    exact ⟨array, offset, length, [], 0, h, harray, hoffset, hlength, hpos, Nat.zero_le _, .inl rfl,
      rfl, Host.fills_nil.2 h.sameArrays_refl⟩
  · rw [apply_readBytesAt hzero]
    let bytes := (h.files.readBytes n length.toInt.toNat).2.1
    let read : Host := { h with files := (h.files.readBytes n length.toInt.toNat).2.2 }
    have hbytes : bytes.length ≤ length.toInt.toNat := h.files.length_readBytes_le n _
    have hsame : h.SameArrays read := h.sameArrays_withFiles _
    have hfits : offset.toInt.toNat + (bytes.map Value.ofByte).length ≤ size := by
      rw [List.length_map]
      omega
    have hkread : read.KeepsArray array := hk array harray
    obtain ⟨h', hfill, hfills⟩ := arrayFill_of_length hkread ((hsame.1 array).trans hsize) hfits
    exact ⟨array, offset, length, bytes, (h.files.readBytes n length.toInt.toNat).1, h', harray,
      hoffset, hlength, hpos, hbytes, answer_of_readBytes h.files n _, apply_bind_of_ok hfill _,
      hsame.fills hfills⟩

end StreamNative

/-! ## Both natives -/

/-- **Windows of arrays are filled in whole or not at all**, but for one case. Let the arrays that are named
be of the heap, or of a module that keeps its arrays. A reading of bytes that meets a fault has changed
nothing at all; one that does not has stored the bytes that its answer counts, in the window that its
arguments name. A copy of characters without a fault has stored all of them. One that meets a fault has
changed no array exactly if it is not the case that the array has room for some of the characters, but not
for all. -/
theorem windows_filled_iff (args : List Value) (h : Host)
    (hread : ∀ array ∈ args[1]?, h.KeepsArray array)
    (hcopy : ∀ array ∈ args[3]?, h.KeepsArray array) :
    (∀ fault h', (StreamNative.run .readBytes args).apply h = (.error fault, h') → h' = h) ∧
    (∀ answer h', (StreamNative.run .readBytes args).apply h = (.ok answer, h') →
      ∃ array offset length bytes, args[1]? = some array ∧ args[2]? = some (.int offset) ∧
        args[3]? = some (.int length) ∧ 0 ≤ offset ∧ bytes.length ≤ length.toInt.toNat ∧
        (answer = .int (Int32.ofNat bytes.length) ∨ bytes = [] ∧ answer = .int (-1)) ∧
        h.Fills h' array offset.toInt.toNat (bytes.map Value.ofByte)) ∧
    (∀ answer h', (TextNative.run .getChars args).apply h = (.ok answer, h') →
      ∃ array place cs, TextNative.Copies args h array place cs ∧
        h.Fills h' array place (cs.map Value.ofChar)) ∧
    ((∀ fault h', (TextNative.run .getChars args).apply h = (.error fault, h') → h.SameArrays h') ↔
      ¬ TextNative.CopiesInPart args h) := by
  refine ⟨fun fault h' herr => ?_, fun answer h' hok => ?_,
    fun answer h' hok => TextNative.fills_of_getChars hcopy hok,
    TextNative.sameArrays_of_getChars_iff hcopy⟩
  · rcases StreamNative.apply_readBytes_cases hread with ⟨fault', hrefused⟩ | hstored
    · rw [hrefused] at herr
      exact (congrArg Prod.snd herr).symm
    · obtain ⟨_, _, _, _, _, _, -, -, -, -, -, -, hrun, -⟩ := hstored
      rw [hrun] at herr
      cases herr
  · rcases StreamNative.apply_readBytes_cases hread with ⟨fault', hrefused⟩ | hstored
    · rw [hrefused] at hok
      cases hok
    · obtain ⟨array, offset, length, bytes, n, h'', harray, hoffset, hlength, hpos, hle, hn, hrun,
        hfills⟩ := hstored
      rw [hrun] at hok
      cases hok
      exact ⟨array, offset, length, bytes, harray, hoffset, hlength, hpos, hle, by simpa using hn,
        hfills⟩

/-- Two of three bytes of a file go into an array of a shared library, from its second element on; a window
that is too long for the array is refused. -/
theorem windows_filled_in_library :
    let stream : Object := ⟨0, .ofList [("fd", .ref ⟨1⟩)], .empty⟩
    let descriptor : Object := ⟨CoreClass.fileDescriptor, .ofList [("fd", .int 3)], .empty⟩
    let library : Library :=
      { name := "guest", objects := #[.array (List.replicate 3 (Word.ofValue (.int 7)))],
        newAnswers := none }
    let host : Host :=
      { config := {}, heap := ⟨#[.object stream, .object descriptor]⟩, registry := .initial,
        linkage := .empty, files := FileTable.empty.enable.occupy [200, 1, 2],
        source := .staged .empty, imports := .empty, attached := some (.library library),
        surroundings := { millis := 0, seed := 0 } }
    let args (length : Int32) : List Value := [.ref ⟨0⟩, .handle 0, .int 1, .int length]
    host.KeepsArray (.handle 0) ∧
      (∃ h', (StreamNative.run .readBytes (args 2)).apply host = (.ok (.int 2), h') ∧
        h'.arrayGet (.handle 0) 0 = .ok (.int 7) ∧ h'.arrayGet (.handle 0) 1 = .ok (.int (-56)) ∧
        h'.arrayGet (.handle 0) 2 = .ok (.int 1)) ∧
      ((StreamNative.run .readBytes (args 3)).apply host).2 = host := by
  intro stream descriptor library host args
  have htable : library.KeepsTable := by
    refine ⟨rfl, fun k words hget => ?_⟩
    have hmem := Array.mem_of_getElem? hget
    obtain rfl : words = List.replicate 3 (Word.ofValue (.int 7)) := by simpa [library] using hmem
    decide
  have hkeeps : host.KeepsArray (.handle 0) := by
    rintro k m - ⟨⟩
    exact htable.keepsArrays
  have hread : ∀ length, ∀ array ∈ (args length)[1]?, host.KeepsArray array := by
    rintro length array ⟨⟩
    exact hkeeps
  have hcopy : ∀ length, ∀ array ∈ (args length)[3]?, host.KeepsArray array := by
    rintro length array ⟨⟩ k m ⟨⟩
  refine ⟨hkeeps, ?_, ?_⟩
  · obtain ⟨-, hstored, -⟩ := windows_filled_iff (args 2) host (hread 2) (hcopy 2)
    have hanswer : ((StreamNative.run .readBytes (args 2)).apply host).1 = .ok (.int 2) := by
      decide +kernel
    obtain ⟨_, _, _, bytes, ⟨⟩, ⟨⟩, ⟨⟩, -, -, -, hfills⟩ := hstored _ _ (Prod.ext hanswer rfl)
    refine ⟨_, Prod.ext hanswer rfl, hfills.outside (.handle 0) 0 fun _ => .inl (by decide), ?_, ?_⟩
    · decide +kernel
    · decide +kernel
  · obtain ⟨hrefused, -⟩ := windows_filled_iff (args 3) host (hread 3) (hcopy 3)
    have hfault : ((StreamNative.run .readBytes (args 3)).apply host).1
        = .error (.argument (.range 1 3 3)) := by
      decide +kernel
    exact hrefused _ _ (Prod.ext hfault rfl)

/-- Two of three characters are stored before the third is found to be one too many. -/
theorem getChars_leaves_part :
    let host : Host :=
      { config := {},
        heap := ⟨#[.object ⟨CoreClass.string, .empty, .text "abc"⟩, .array [.int 7, .int 7]]⟩,
        registry := .initial, linkage := .empty, files := .empty, source := .staged .empty,
        imports := .empty, attached := none, surroundings := { millis := 0, seed := 0 } }
    let outcome :=
      (TextNative.run .getChars [.ref ⟨0⟩, .int 0, .int 3, .ref ⟨1⟩, .int 0]).apply host
    outcome.1 = .error (.argument (.arrayIndex 2 2)) ∧
      host.arrayValues (.ref ⟨1⟩) = .ok [.int 7, .int 7] ∧
      outcome.2.arrayValues (.ref ⟨1⟩) = .ok [.int 97, .int 98] :=
  ⟨by decide +kernel, by decide +kernel, by decide +kernel⟩

end GuestHost
