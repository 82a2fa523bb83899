import Mathlib.Data.List.Forall2
import GuestHost.Commands
import GuestHost.Proofs.Files.Isolation
import GuestHost.Proofs.Files.Reading
import GuestHost.Proofs.Modes.Equivalence

/-!
# Sequential reads reproduce a file

The bytes that operations on an open reading give or pass over, laid end to end, are the file as far as it
was read.

* `Sequential` — what such a reading answers, at any moment;
* `exists_pieces` — over a sequence of operations, by induction from `covers_apply`;
* `Drains` — the loop that writes out a file, and `drains_rest` — it ends, with all that is left;
* `reads_reproduce_file` — together, with what the command that writes out a file writes.
-/

namespace GuestHost

namespace FileTable

variable {t t' : FileTable} {n : Int32} {r : Reading}

/-! ## Answers of an open reading -/

/-- The reads and skips of a file that was read to its end: no read gives a byte, and no skip moves. -/
structure Ended (t : FileTable) (n : Int32) : Prop where
  readByte : (t.readByte n).1 = -1
  readBytes : ∀ length, 0 < length → (t.readBytes n length).1 = -1
  skip : ∀ amount, (t.skip n amount).1 = 0

/-- What a table answers about an open reading, and how an operation moves it. A destination is shorter
than `2 ^ 31`, as the number of bytes that are read is an int. -/
structure Sequential (t : FileTable) (n : Int32) (r : Reading) : Prop where
  within : r.position ≤ r.size
  /-- An operation covers the next bytes, and the reading moves over them. -/
  passes : ∀ op, op ≠ .release n → Passes n r op (op.apply t).1 (op.apply t).2
  available : (t.available n).toInt = min ((r.size : Int) - r.position) 0x7FFFFFFF
  readByte : (t.readByte n).1 = -1 ↔ r.position = r.size
  readBytes : ∀ length, 0 < length → length < 2 ^ 31 →
    ((t.readBytes n length).1 = -1 ↔ r.position = r.size)
  count : ∀ length, 0 < length → length < 2 ^ 31 → r.position ≠ r.size →
    (t.readBytes n length).1.toInt = min (length : Int) (r.size - r.position)
  skip : ∀ amount, (t.skip n amount).1.toInt = max 0 (min amount.toInt (r.size - r.position))
  /-- From the end of the file on, nothing is read any more, whatever is done. -/
  ended : r.position = r.size → ∀ more, (∀ op ∈ more, op ≠ .release n) → (t.after more).Ended n

theorem ended_of_nil (hr : t.reading? n = some r) (hrest : r.rest = []) : t.Ended n where
  readByte := by rw [readByte_of_nil hr hrest]
  readBytes length hl := by rw [readBytes_of_nil hr hrest hl]
  skip amount := by
    have hremaining : r.remaining = 0 := by rw [← Reading.length_rest, hrest]; rfl
    rw [skip_eq hr, hremaining, Nat.min_zero]
    rfl

/-- A reading at the end of its file stays there. -/
theorem reading?_after_of_nil {ops : List FileOp} (hr : t.reading? n = some r) (hrest : r.rest = [])
    (hops : ∀ op ∈ ops, op ≠ .release n) : (t.after ops).reading? n = some r := by
  induction ops generalizing t with
  | nil => exact hr
  | cons op rest ih =>
    obtain ⟨piece, -, hpiece, hr'⟩ := covers_apply hr (hops op List.mem_cons_self)
    rw [hrest, List.prefix_nil] at hpiece
    subst hpiece
    exact ih hr' fun o ho => hops o (List.mem_cons_of_mem _ ho)

theorem remaining_eq (hle : r.position ≤ r.size) : (r.remaining : Int) = r.size - r.position := by
  unfold Reading.remaining
  omega

/-- **What an open reading answers** at a moment. -/
theorem sequential_of_within (hr : t.reading? n = some r) (hle : r.position ≤ r.size) :
    t.Sequential n r := by
  have hremaining := remaining_eq hle
  have hend := Reading.rest_eq_nil_iff hle
  refine ⟨hle, fun op hop => covers_apply hr hop, ?_, ?_, ?_, ?_, ?_, ?_⟩
  · rw [toInt_available hr]
    omega
  · exact (readByte_eq_neg_one_iff hr).trans hend
  · exact fun length hl hfits => (readBytes_eq_neg_one_iff hr hl hfits).trans hend
  · intro length hl hfits hne
    rw [toInt_readBytes hr (fun hnil => hne (hend.1 hnil)) hl hfits]
    omega
  · intro amount
    rw [toInt_skip hr]
    omega
  · intro heq more hmore
    have hrest := hend.2 heq
    exact ended_of_nil (reading?_after_of_nil hr hrest hmore) hrest

/-! ## Sequences of operations -/

/-- What a sequence of operations covers: a piece for each operation, and the reading behind them. -/
theorem exists_pieces {ops : List FileOp} (hr : t.reading? n = some r)
    (hops : ∀ op ∈ ops, op ≠ .release n) :
    ∃ pieces, List.Forall₂ (fun e piece => Covers n e.1 e.2 piece) (t.transcript ops) pieces ∧
      pieces.flatten <+: r.rest ∧
      (t.after ops).reading? n = some (r.moved pieces.flatten.length) := by
  induction ops generalizing t r with
  | nil => exact ⟨[], .nil, List.nil_prefix, hr⟩
  | cons op rest ih =>
    obtain ⟨piece, hcovers, hpiece, hr'⟩ := covers_apply hr (hops op List.mem_cons_self)
    obtain ⟨pieces, hpieces, hflat, hlast⟩ := ih hr' fun o ho => hops o (List.mem_cons_of_mem _ ho)
    refine ⟨piece :: pieces, .cons hcovers hpieces, ?_, ?_⟩
    · -- what is left behind the piece starts with the other pieces
      obtain ⟨left, hleft⟩ := hpiece
      rw [Reading.rest_moved, ← hleft, List.drop_left] at hflat
      rw [← hleft, List.flatten_cons]
      exact (List.prefix_append_right_inj piece).2 hflat
    · rw [List.flatten_cons, List.length_append]
      rwa [Reading.moved_moved] at hlast

/-! ## Writing out a file -/

/-- The loop that writes out a file chunk by chunk, until a read has no more bytes for it: what it writes,
and the table that it leaves. -/
inductive Drains (n : Int32) : FileTable → Bytes → FileTable → Prop
  | stop {t : FileTable} (h : (t.readBytes n chunk).1 ≤ 0) :
    Drains n t [] (t.readBytes n chunk).2.2
  | next {t t' : FileTable} {written : Bytes} (h : ¬ (t.readBytes n chunk).1 ≤ 0)
    (hnext : Drains n (t.readBytes n chunk).2.2 written t') :
    Drains n t ((t.readBytes n chunk).2.1 ++ written) t'

theorem chunk_pos : 0 < chunk := by decide

theorem chunk_fits : chunk < 2 ^ 31 := by decide

/-- A chunk has bytes as long as there are any. -/
theorem count_le_zero_iff (hr : t.reading? n = some r) :
    (t.readBytes n chunk).1 ≤ 0 ↔ r.rest = [] := by
  constructor
  · intro hcount
    by_contra hrest
    have hpos : 0 < r.remaining := by
      rw [← Reading.length_rest]
      exact List.length_pos_of_ne_nil hrest
    have htoInt := toInt_readBytes hr hrest chunk_pos chunk_fits
    have := chunk_pos
    rw [Int32.le_iff_toInt_le, htoInt] at hcount
    have hzero : (0 : Int32).toInt = 0 := rfl
    omega
  · intro hrest
    rw [readBytes_of_nil hr hrest chunk_pos]
    show (-1 : Int32) ≤ 0
    decide

/-- A chunk of a file that is not at its end is the next bytes, and at least one. -/
theorem exists_chunk (hr : t.reading? n = some r) (hrest : r.rest ≠ []) :
    ∃ r', (t.readBytes n chunk).2.2.reading? n = some r' ∧
      (t.readBytes n chunk).2.1 ++ r'.rest = r.rest ∧ r'.rest.length < r.rest.length := by
  have hpos := List.length_pos_of_ne_nil hrest
  have hchunk := chunk_pos
  rw [readBytes_of_rest hr hrest chunk_pos]
  refine ⟨_, reading?_putReading_self hr _, ?_, ?_⟩
  · rw [Reading.rest_moved]
    exact List.prefix_iff_eq_append.1 (List.take_prefix chunk r.rest)
  · rw [Reading.rest_moved, List.length_drop, List.length_take]
    omega

/-- **The loop ends, and has written all that was left.** Each chunk takes away at least one byte. -/
theorem drains_rest (hr : t.reading? n = some r) : ∃ t', Drains n t r.rest t' := by
  generalize hlength : r.rest.length = k
  induction k using Nat.strongRecOn generalizing t r with
  | ind k ih =>
    by_cases hrest : r.rest = []
    · rw [hrest]
      exact ⟨_, .stop ((count_le_zero_iff hr).2 hrest)⟩
    · obtain ⟨r', hr', hsplit, hless⟩ := exists_chunk hr hrest
      obtain ⟨t', ht'⟩ := ih _ (hlength ▸ hless) hr' rfl
      rw [← hsplit]
      exact ⟨t', .next (fun hstop => hrest ((count_le_zero_iff hr).1 hstop)) ht'⟩

/-- The loop has one outcome. -/
theorem Drains.unique {w w' : Bytes} {t₁ t₂ : FileTable} (h : Drains n t w t₁)
    (h' : Drains n t w' t₂) : w = w' := by
  induction h generalizing w' with
  | stop hstop =>
    cases h' with
    | stop => rfl
    | next hmore => exact absurd hstop hmore
  | next hmore _ ih =>
    cases h' with
    | stop hstop => exact absurd hstop hmore
    | next _ hnext => rw [ih hnext]

/-- The bytes that are left, when they are read chunk by chunk, as often as there are bytes or more. -/
theorem drain_eq_rest {fuel : Nat} (hr : t.reading? n = some r) (hfuel : r.rest.length ≤ fuel) :
    t.drain n fuel = r.rest := by
  induction fuel generalizing t r with
  | zero =>
    rw [List.length_eq_zero_iff.1 (Nat.le_zero.1 hfuel)]
    rfl
  | succ fuel ih =>
    unfold drain
    dsimp only
    by_cases hrest : r.rest = []
    · rw [if_pos ((count_le_zero_iff hr).2 hrest), hrest]
    · obtain ⟨r', hr', hsplit, hless⟩ := exists_chunk hr hrest
      rw [if_neg fun hstop => hrest ((count_le_zero_iff hr).1 hstop), ih hr' (by omega), hsplit]

theorem rest_eq (hr : t.reading? n = some r) : t.rest n = r.rest := by
  unfold FileTable.rest
  rw [hr]
  exact drain_eq_rest hr (Nat.le_of_eq r.length_rest)

end FileTable

/-! ## The command that writes out a file -/

namespace Command

/-- The bytes that a host of a configuration in direct mode fetches for a path. -/
def fetched (w : Workplace) (path : String) (config : Option String) : Except CommandFault Bytes :=
  match loadConfig w.outside.disk config with
  | .error fault => .error fault
  | .ok c =>
    match (Setup.ofConfig { c with mode := .direct } w.outside w.surroundings).build with
    | .error fault => .error (.host fault)
    | .ok h => (h.source.fetch path).mapError fun _ => .cannotOpen path

open FileTable in
/-- A file that is opened first thing is open under number 3, and at its start. -/
theorem openForRead_enabled (source : FileSource) (path : String) :
    (∃ fault, source.fetch path = .error fault ∧ (empty.enable.openForRead source path).1 = -1) ∨
      ∃ bytes, source.fetch path = .ok bytes ∧ (empty.enable.openForRead source path).1 = 3 ∧
        (empty.enable.openForRead source path).2.reading? 3 = some (.start bytes) := by
  have henabled : empty.enable.enabled = true := rfl
  cases hfetch : source.fetch path with
  | error fault => exact Or.inl ⟨fault, rfl, by simp only [openForRead, henabled, hfetch, if_true]⟩
  | ok bytes =>
    refine Or.inr ⟨bytes, rfl, ?_⟩
    simp only [openForRead, henabled, hfetch, if_true]
    exact ⟨rfl, rfl⟩

/-- **What the command reads is what is fetched.** -/
theorem read_eq_fetched (w : Workplace) (path : String) (config : Option String) :
    read w path config = fetched w path config := by
  unfold read fetched
  cases loadConfig w.outside.disk config with
  | error fault => rfl
  | ok c =>
    dsimp only
    cases hbuild : (Setup.ofConfig { c with mode := .direct } w.outside w.surroundings).build with
    | error fault => rfl
    | ok h =>
      obtain ⟨source, -, rfl⟩ := exists_of_build hbuild
      show (if (FileTable.empty.enable.openForRead source path).1 < 0 then _ else
        Except.ok ((FileTable.empty.enable.openForRead source path).2.rest
          (FileTable.empty.enable.openForRead source path).1)) = (source.fetch path).mapError _
      rcases openForRead_enabled source path with ⟨fault, hfetch, hn⟩ | ⟨bytes, hfetch, hn, hr⟩
      · rw [hn, hfetch]
        rfl
      · rw [hn, hfetch, FileTable.rest_eq hr]
        rfl

end Command

namespace FileTable

/-- **Sequential reads reproduce the file.** Take an open reading of a table that operations led to, and
whatever is done then, short of releasing its number. The operations cover a piece of the file each, a
read the bytes that it gives and a skip those that it passes over. Laid end to end behind what was
covered before, the pieces are the file up to where the reading is now. At that moment, as at the first,
the reading is within its file, and the table answers about it as `Sequential` says.

The loop that writes out a reading ends, having written what was left; so the command that writes out a
file writes the bytes that are fetched for it. -/
theorem reads_reproduce_file (before : List FileOp) {n : Int32} {r : Reading}
    (hr : (empty.after before).reading? n = some r) (ops : List FileOp)
    (hops : ∀ op ∈ ops, op ≠ .release n) :
    (∃ pieces r', ((empty.after before).after ops).reading? n = some r' ∧
      List.Forall₂ (fun e piece => Covers n e.1 e.2 piece) ((empty.after before).transcript ops)
        pieces ∧
      r'.buffer = r.buffer ∧ r'.position = r.position + pieces.flatten.length ∧
      r.buffer.take r'.position = r.buffer.take r.position ++ pieces.flatten ∧
      ((empty.after before).after ops).Sequential n r') ∧
    (∃ t', Drains n (empty.after before) (r.buffer.drop r.position) t') ∧
    (∀ written t', Drains n (empty.after before) written t' →
      written = r.buffer.drop r.position) ∧
    ∀ w path config, Command.execute w (.cat path config) = match Command.fetched w path config with
      | .ok bytes => .success bytes
      | .error fault => .failure fault := by
  have hle := position_le_after before n r hr
  obtain ⟨pieces, hpieces, hflat, hlast⟩ := exists_pieces hr hops
  obtain ⟨t', ht'⟩ := drains_rest hr
  refine ⟨⟨pieces, _, hlast, hpieces, rfl, rfl, Reading.take_position_moved hflat, ?_⟩,
    ⟨t', ht'⟩, fun written t'' h => h.unique ht', ?_⟩
  · exact sequential_of_within hlast (Reading.position_moved_le hle hflat)
  · intro w path config
    show (match Command.read w path config with
      | .ok bytes => Outcome.success bytes
      | .error fault => .failure fault) = _
    rw [Command.read_eq_fetched]

/-- A file of three bytes is read byte by byte, skipped to its end and read again, while another one is
opened. -/
theorem reads_reproduce_file_abc :
    let files := FileSource.staged (.ofList [("a", [7, 8, 9]), ("b", [1])])
    let before := [.enable, .openForRead files "a"]
    let ops := [.readByte 3, .openForRead files "b", .skip 3 5, .readBytes 3 4]
    (empty.after before).reading? 3 = some (.start [7, 8, 9]) ∧ (∀ op ∈ ops, op ≠ .release 3) ∧
      ∃ (pieces : List Bytes) (r' : Reading),
        ((empty.after before).after ops).reading? 3 = some r' ∧
        [7, 8, 9].take r'.position = pieces.flatten ∧
          ((empty.after before).after ops).Sequential 3 r' := by
  intro files before ops
  have hr : (empty.after before).reading? 3 = some (.start [7, 8, 9]) := rfl
  have hops : ∀ op ∈ ops, op ≠ .release 3 := by simp [ops]
  obtain ⟨⟨pieces, r', hr', -, -, -, htake, hseq⟩, -⟩ := reads_reproduce_file before hr ops hops
  exact ⟨hr, hops, pieces, r', hr', htake, hseq⟩

end FileTable

end GuestHost
