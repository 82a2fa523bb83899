import Mathlib.Data.List.Basic
import GuestHost.Proofs.Files.Operations

/-!
# Console lines

A console stream emits a line at each line feed and keeps what comes after the last one. So what it has
emitted and what it keeps depend on the bytes that were written, and not on the portions in which they
were.

* `Console.lines` — the lines of a byte sequence;
* `Console.feed_append` — bytes may be written in one portion or in several;
* `FileTable.Printed` — the table after bytes were written to the console streams: `Printed.write`,
  `Printed.after`, `Printed.flush`.
-/

namespace GuestHost

namespace Console

/-! ## The lines of a byte sequence -/

/-- The lines of a byte sequence: the pieces between line feeds, without the last one if it is empty. Each
is decoded, and freed of one carriage return at its end. -/
def lines (bytes : Bytes) : List String :=
  let pieces := bytes.splitOn 10
  let complete := if pieces.getLast? = some [] then pieces.dropLast else pieces
  complete.map fun piece =>
    let text := Utf8.decodeLossy piece
    String.ofList (if text.getLast? = some '\r' then text.dropLast else text)

theorem segments_eq_splitOn (bytes : Bytes) :
    (segments bytes).1 :: (segments bytes).2 = bytes.splitOn 10 := by
  induction bytes with
  | nil => rfl
  | cons b rest ih =>
    unfold List.splitOn at ih ⊢
    rw [List.splitOnP_cons_eq_if_modifyHead, ← ih]
    by_cases hb : b = 10
    · simp [segments, hb]
    · simp [segments, hb]

theorem dropReturn_eq (s : List Char) :
    dropReturn s = if s.getLast? = some '\r' then s.dropLast else s := by
  obtain rfl | ⟨rest, c, rfl⟩ := s.eq_nil_or_concat
  · rfl
  · unfold dropReturn
    by_cases hc : c = '\r'
    · simp [hc]
    · simp [hc]

/-! ## Feeding bytes -/

theorem feed_nil (pending : Bytes) : feed pending [] = ([], pending) := by
  simp [feed, segments]

/-- A line feed completes a line. -/
theorem feed_lineFeed (pending rest : Bytes) :
    feed pending (10 :: rest) = (pending :: (feed [] rest).1, (feed [] rest).2) := by
  simp [feed, segments]

/-- Any other byte is added to what is pending. -/
theorem feed_byte {b : UInt8} (hb : b ≠ 10) (pending rest : Bytes) :
    feed pending (b :: rest) = feed (pending ++ [b]) rest := by
  simp [feed, segments, hb]

/-- **Bytes may be fed in portions.** -/
theorem feed_append (pending bytes more : Bytes) :
    feed pending (bytes ++ more)
      = ((feed pending bytes).1 ++ (feed (feed pending bytes).2 more).1,
          (feed (feed pending bytes).2 more).2) := by
  induction bytes generalizing pending with
  | nil => simp [feed_nil]
  | cons b rest ih =>
    rw [List.cons_append]
    by_cases hb : b = 10
    · subst hb
      rw [feed_lineFeed, feed_lineFeed, ih]
      rfl
    · rw [feed_byte hb, feed_byte hb, ih]

/-- What is completed and what is pending, as pieces between line feeds. -/
theorem feed_eq_splitOn (bytes : Bytes) :
    (feed [] bytes).1 = (bytes.splitOn 10).dropLast ∧
      (bytes.splitOn 10).getLast? = some (feed [] bytes).2 := by
  rw [← segments_eq_splitOn]
  constructor
  · rfl
  · exact List.getLast?_eq_some_getLast (List.cons_ne_nil _ _)

/-- **The lines of a byte sequence** are those that it completes, and then what is pending. -/
theorem lines_eq_feed (bytes : Bytes) :
    lines bytes = ((feed [] bytes).1 ++ flush (feed [] bytes).2).map lineText := by
  obtain ⟨hcompleted, hpending⟩ := feed_eq_splitOn bytes
  have htext : ∀ piece, lineText piece = String.ofList
      (if (Utf8.decodeLossy piece).getLast? = some '\r' then (Utf8.decodeLossy piece).dropLast
        else Utf8.decodeLossy piece) := by
    intro piece
    rw [lineText, dropReturn_eq]
  have hpieces : (if (bytes.splitOn 10).getLast? = some [] then (bytes.splitOn 10).dropLast
      else bytes.splitOn 10) = (feed [] bytes).1 ++ flush (feed [] bytes).2 := by
    rw [hcompleted, hpending]
    by_cases hempty : (feed [] bytes).2 = []
    · simp [hempty, flush]
    · have hrest : flush (feed [] bytes).2 = [(feed [] bytes).2] := by simp [flush, hempty]
      rw [if_neg (by simpa using hempty), hrest]
      exact (List.dropLast_append_getLast? _ hpending).symm
  unfold lines
  simp only [hpieces]
  exact List.map_congr_left fun piece _ => (htext piece).symm

end Console

/-! ## Console streams of a table -/

/-- The number of a console stream. -/
def ConsoleStream.number : ConsoleStream → Int32
  | .stdout => 1
  | .stderr => 2

theorem ConsoleStream.number_inj {stream other : ConsoleStream} (h : stream.number = other.number) :
    stream = other := by
  cases stream <;> cases other <;> first | rfl | cases h

/-- Whether an operation has nothing to do with the console. -/
def FileOp.leavesConsole : FileOp → Bool
  | .write _ _ | .flush => false
  | _ => true

namespace FileTable

variable {t t' t₀ : FileTable} {n : Int32} {stream stream' : ConsoleStream} {pending : Bytes}

/-- The texts of the lines that were emitted for a console stream. -/
def shown (t : FileTable) (stream : ConsoleStream) : List String :=
  (t.emitted.toList.filter fun line => line.stream = stream).map (·.text)

/-- No line of a console stream is unfinished. -/
def Idle (t : FileTable) : Prop := ∀ stream, t.slot? stream.number = some (.console stream [])

theorem idle_empty : Idle empty := by
  intro stream
  cases stream <;> rfl

/-- Console streams have the numbers 1 and 2. -/
theorem Sound.console (h : t.Sound) (hn : t.slot? n = some (.console stream pending)) :
    stream.number = n := by
  obtain ⟨i, hi, hs⟩ := slot?_eq_some.1 hn
  obtain ⟨p, hout⟩ := h.out
  obtain ⟨q, herr⟩ := h.err
  rcases i with _ | _ | _ | i
  · simp [h.gap] at hs
  · obtain ⟨rfl, -⟩ : ConsoleStream.stdout = stream ∧ p = pending := by simpa using hout.symm.trans hs
    exact place?_inj rfl hi
  · obtain ⟨rfl, -⟩ : ConsoleStream.stderr = stream ∧ q = pending := by simpa using herr.symm.trans hs
    exact place?_inj rfl hi
  · obtain ⟨r, hr⟩ := h.files (i + 3) _ (Nat.le_add_left _ _) hs
    cases hr

/-- The slots of a table: a gap, the two console streams, and open readings among gaps. -/
theorem Sound.exists_slots (h : t.Sound) : ∃ p q files,
    t.slots = none :: some (.console .stdout p) :: some (.console .stderr q) :: files ∧
      ∀ s ∈ files, ∀ stream pending, s ≠ some (.console stream pending) := by
  obtain ⟨p, hout⟩ := h.out
  obtain ⟨q, herr⟩ := h.err
  have hgap := h.gap
  have hfiles := h.files
  rcases hslots : t.slots with _ | ⟨a, _ | ⟨b, _ | ⟨c, files⟩⟩⟩
  · simp [hslots] at hgap
  · simp [hslots] at hout
  · simp [hslots] at herr
  · rw [hslots] at hgap hout herr hfiles
    refine ⟨p, q, files, ?_, ?_⟩
    · simp_all
    · rintro s hs stream pending rfl
      obtain ⟨k, hk⟩ := List.mem_iff_getElem?.1 hs
      obtain ⟨r, hr⟩ := hfiles (k + 3) _ (Nat.le_add_left _ _) hk
      cases hr

/-! ## Lines that were emitted -/

theorem shown_emit (lines : List Bytes) : (t.emit stream lines).shown stream'
    = t.shown stream' ++ if stream = stream' then lines.map Console.lineText else [] := by
  unfold shown emit
  by_cases hstream : stream = stream'
  · simp [hstream, List.filter_map, Function.comp_def]
  · simp [hstream, List.filter_map, Function.comp_def]

@[simp] theorem shown_putSlot (s : Option Slot) : (t.putSlot n s).shown stream = t.shown stream := by
  unfold putSlot
  cases place? n <;> rfl

/-- A flush emits the unfinished lines. -/
theorem Sound.shown_flush (h : t.Sound) (hs : t.slot? stream.number = some (.console stream pending)) :
    t.flush.shown stream = t.shown stream ++ (Console.flush pending).map Console.lineText := by
  obtain ⟨p, q, files, hslots, hfiles⟩ := h.exists_slots
  have hrest : files.flatMap (fun s => (s.map Slot.unfinished).getD []) = [] := by
    rw [List.flatMap_eq_nil_iff]
    intro s hs
    rcases s with _ | ⟨stream, pending⟩ | r
    · rfl
    · exact absurd rfl (hfiles _ hs stream pending)
    · rfl
  unfold shown FileTable.flush
  cases stream with
  | stdout =>
    obtain ⟨i, hi, hslot⟩ := slot?_eq_some.1 hs
    obtain rfl : 1 = i := Option.some.inj hi
    obtain rfl : p = pending := by simpa [hslots] using hslot
    simp [hslots, hrest, Slot.unfinished, List.filter_map, Function.comp_def]
  | stderr =>
    obtain ⟨i, hi, hslot⟩ := slot?_eq_some.1 hs
    obtain rfl : 2 = i := Option.some.inj hi
    obtain rfl : q = pending := by simpa [hslots] using hslot
    simp [hslots, hrest, Slot.unfinished, List.filter_map, Function.comp_def]

/-! ## What other operations leave alone -/

/-- A table with the same console as another: the same unfinished lines, and the same lines emitted. -/
structure SameConsole (t t' : FileTable) : Prop where
  slot : ∀ {n stream pending}, t.slot? n = some (.console stream pending) →
    t'.slot? n = some (.console stream pending)
  emitted : t'.emitted = t.emitted

theorem SameConsole.refl (t : FileTable) : SameConsole t t := ⟨id, rfl⟩

theorem SameConsole.shown (h : SameConsole t t') (stream : ConsoleStream) :
    t'.shown stream = t.shown stream := by
  unfold FileTable.shown
  rw [h.emitted]

/-- The slot of a reading may become anything. -/
theorem sameConsole_putSlot {r : Reading} (hr : t.reading? n = some r) (s : Option Slot) :
    SameConsole t (t.putSlot n s) := by
  constructor
  · intro m stream pending hm
    have hne : n ≠ m := by
      rintro rfl
      rw [reading?_eq_some.1 hr] at hm
      cases hm
    rw [slot?_putSlot_of_ne hne, hm]
  · unfold putSlot
    cases place? n <;> rfl

/-- **Operations other than writes and flushes** have nothing to do with the console. -/
theorem sameConsole_apply {op : FileOp} (hop : op.leavesConsole = true) (t : FileTable) :
    SameConsole t (op.apply t).2 := by
  cases op with
  | write | flush => cases hop
  | enable => exact ⟨id, rfl⟩
  | holds | available => exact .refl t
  | openForRead source path =>
    unfold FileOp.apply
    rcases t.openForRead_cases source path with hfail | ⟨buffer, -, -, hopen⟩
    · simp only [hfail]
      exact .refl t
    · simp only [hopen]
      exact ⟨fun hs => slot?_occupy_of_some hs buffer, rfl⟩
  | skip n amount =>
    show SameConsole t (t.skip n amount).2
    unfold FileTable.skip
    cases hr : t.reading? n with
    | none => exact .refl t
    | some r =>
      by_cases hamount : amount ≤ 0
      · simp only [if_pos hamount]
        exact .refl t
      · simp only [if_neg hamount]
        exact sameConsole_putSlot hr _
  | readByte n =>
    show SameConsole t (t.readByte n).2
    unfold FileTable.readByte
    cases hr : t.reading? n with
    | none => exact .refl t
    | some r =>
      cases hb : r.buffer[r.position]? with
      | none =>
        simp only [hb]
        exact .refl t
      | some b =>
        simp only [hb]
        exact sameConsole_putSlot hr _
  | readBytes n length =>
    show SameConsole t (t.readBytes n length).2.2
    unfold FileTable.readBytes
    cases hr : t.reading? n with
    | none => exact .refl t
    | some r =>
      by_cases hlength : length = 0
      · simp only [if_pos hlength]
        exact .refl t
      · simp only [if_neg hlength]
        split
        · exact .refl t
        · exact sameConsole_putSlot hr _
  | release n =>
    show SameConsole t (t.release n).2
    unfold FileTable.release
    by_cases hn : n < 3
    · rw [if_pos hn]
      exact .refl t
    · rw [if_neg hn]
      cases hr : t.reading? n with
      | none => exact .refl t
      | some r => exact sameConsole_putSlot hr none

/-! ## Bytes written to the console -/

/-- A table after bytes were written to the console streams of another one: the completed lines were
emitted, and the rest is unfinished. -/
structure Printed (t₀ : FileTable) (bytes : ConsoleStream → Bytes) (t : FileTable) : Prop where
  sound : t.Sound
  slot : ∀ stream,
    t.slot? stream.number = some (.console stream (Console.feed [] (bytes stream)).2)
  shown : ∀ stream, t.shown stream
    = t₀.shown stream ++ (Console.feed [] (bytes stream)).1.map Console.lineText

namespace Printed

variable {bytes : ConsoleStream → Bytes}

theorem refl (hsound : t.Sound) (hidle : t.Idle) : Printed t (fun _ => []) t where
  sound := hsound
  slot stream := by
    rw [Console.feed_nil]
    exact hidle stream
  shown stream := by
    rw [Console.feed_nil]
    exact (List.append_nil _).symm

theorem aside (h : Printed t₀ bytes t) (hsound : t'.Sound) (hsame : SameConsole t t') :
    Printed t₀ bytes t' where
  sound := hsound
  slot stream := hsame.slot (h.slot stream)
  shown stream := (hsame.shown stream).trans (h.shown stream)

/-- Operations other than writes and flushes add nothing. -/
theorem after (h : Printed t₀ bytes t) {ops : List FileOp}
    (hops : ∀ op ∈ ops, op.leavesConsole = true) : Printed t₀ bytes (t.after ops) := by
  induction ops generalizing t with
  | nil => exact h
  | cons op rest ih =>
    have hsound : (op.apply t).2.Sound := h.sound.step (slotStep_apply t op)
    have hsame : SameConsole t (op.apply t).2 := sameConsole_apply (hops op List.mem_cons_self) t
    exact ih (h.aside hsound hsame) fun op' hop' => hops op' (List.mem_cons_of_mem op hop')

/-- **A write** adds its bytes to those of the console stream with its number, if there is one. -/
theorem write (h : Printed t₀ bytes t) (n : Int32) (more : Bytes) :
    Printed t₀ (fun stream => bytes stream ++ if stream.number = n then more else [])
      (t.write n more).2 := by
  by_cases hn : ∃ stream : ConsoleStream, stream.number = n
  · obtain ⟨stream, rfl⟩ := hn
    have hslot := h.slot stream
    have hsound := h.sound.write hslot (Console.feed (Console.feed [] (bytes stream)).2 more).1
      (Console.feed (Console.feed [] (bytes stream)).2 more).2
    unfold FileTable.write
    rw [hslot]
    refine ⟨hsound, fun other => ?_, fun other => ?_⟩
    · by_cases hother : stream = other
      · subst hother
        rw [if_pos rfl, Console.feed_append]
        exact slot?_putSlot_self (t := t.emit stream _) hslot _
      · have hne : stream.number ≠ other.number := fun heq => hother (ConsoleStream.number_inj heq)
        rw [if_neg (Ne.symm hne), List.append_nil]
        exact (slot?_putSlot_of_ne hne _).trans (h.slot other)
    · rw [shown_putSlot, shown_emit, h.shown]
      by_cases hother : stream = other
      · subst hother
        simp [Console.feed_append]
      · have hne : stream.number ≠ other.number := fun heq => hother (ConsoleStream.number_inj heq)
        simp [hother, Ne.symm hne]
  · have hsame : (t.write n more).2 = t := by
      unfold FileTable.write
      split
      · next stream pending hs => exact absurd ⟨stream, h.sound.console hs⟩ hn
      · rfl
    have hnone : ∀ stream : ConsoleStream, (if stream.number = n then more else []) = [] :=
      fun stream => if_neg fun hstream => hn ⟨stream, hstream⟩
    rw [hsame]
    simp only [hnone, List.append_nil]
    exact h

/-- **A flush** shows all the lines of what was written. -/
theorem flush (h : Printed t₀ bytes t) (stream : ConsoleStream) :
    t.flush.shown stream = t₀.shown stream ++ Console.lines (bytes stream) := by
  rw [h.sound.shown_flush (h.slot stream), h.shown, Console.lines_eq_feed, List.map_append,
    List.append_assoc]

end Printed

end FileTable

end GuestHost
