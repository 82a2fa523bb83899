import GuestHost.Proofs.Files.Operations

/-!
# Isolation of file numbers

Numbers of released readings are used again, so what a guest reads through a number must not depend on
who had the number before, or on what happens to other numbers.

* `registers_openForRead` — a file that is opened gets the least number from 3 on that is not open, and
  no other number is touched;
* `transcript_filter` — from the moment a number is opened, the operations that are not on it can be
  left out without changing an answer of those that are;
* `handles_isolated` — both together, for every table that operations lead to.

There are `2 ^ 31 - 3` numbers from 3 on. `HasFreeNumber` says that not all of them are open.
-/

namespace GuestHost.FileTable

variable {t t' t₁ t₂ : FileTable} {n : Int32} {r : Reading}

/-! ## The number that an opening gives out -/

/-- Some number from 3 on is not open. -/
def HasFreeNumber (t : FileTable) : Prop := ∃ n : Int32, 3 ≤ n ∧ t.reading? n = none

/-- The least number from 3 on that is not open. -/
structure IsFirstFree (t : FileTable) (n : Int32) : Prop where
  three_le : 3 ≤ n
  free : t.reading? n = none
  least : ∀ m : Int32, 3 ≤ m → t.reading? m = none → n ≤ m

/-- A table after a reading of some bytes was opened under the least free number, and nothing else. -/
structure Registers (t : FileTable) (bytes : Bytes) (n : Int32) (t' : FileTable) : Prop where
  first : t.IsFirstFree n
  opened : t'.reading? n = some (.start bytes)
  others : ∀ m, m ≠ n → t'.slot? m = t.slot? m

/-- From 3 on, a slot without a reading is empty. -/
theorem Sound.slot?_eq_none (h : Sound t) (hn : 3 ≤ n) (hr : t.reading? n = none) :
    t.slot? n = none := by
  cases hs : t.slot? n with
  | none => rfl
  | some s =>
    obtain ⟨i, hi, hs'⟩ := slot?_eq_some.1 hs
    obtain ⟨j, hj, hj3⟩ := exists_place?_of_three_le hn
    obtain rfl : i = j := Option.some.inj (hi.symm.trans hj)
    obtain ⟨r, rfl⟩ := h.files i s hj3 hs'
    rw [reading?_eq_some.2 hs] at hr
    cases hr

theorem freePlace_le_of_free (h : Sound t) {i : Nat} (hn : 3 ≤ n) (hi : place? n = some i)
    (hr : t.reading? n = none) : t.freePlace ≤ i := by
  refine Nat.le_of_not_lt fun hlt => ?_
  obtain ⟨j, hj, hj3⟩ := exists_place?_of_three_le hn
  obtain rfl : i = j := Option.some.inj (hi.symm.trans hj)
  obtain ⟨s, hs⟩ := exists_slot_of_lt_freePlace hj3 (by omega)
  have hnone := h.slot?_eq_none hn hr
  rw [slot?_eq_some.2 ⟨i, hi, hs⟩] at hnone
  cases hnone

theorem place?_freePlace (h : Sound t) (hf : t.HasFreeNumber) :
    place? (Int32.ofNat t.freePlace) = some t.freePlace := by
  obtain ⟨m, hm, hr⟩ := hf
  obtain ⟨i, hi, -⟩ := exists_place?_of_three_le hm
  exact place?_ofNat (Nat.lt_of_le_of_lt (freePlace_le_of_free h hm hi hr) (place?_lt hi))

/-- The search for a free place finds the least free number. -/
theorem isFirstFree_freePlace (h : Sound t) (hf : t.HasFreeNumber) :
    t.IsFirstFree (Int32.ofNat t.freePlace) := by
  have hp := place?_freePlace h hf
  refine ⟨?_, ?_, ?_⟩
  · have h3 : place? 3 = some firstReading := rfl
    exact (le_of_place? h3 hp).2 (three_le_freePlace h.firstReading_le)
  · rw [reading?, slot?_of_place? hp, slots_freePlace]
    rfl
  · intro m hm hr
    obtain ⟨i, hi, -⟩ := exists_place?_of_three_le hm
    exact (le_of_place? hp hi).2 (freePlace_le_of_free h hm hi hr)

theorem registers_occupy (h : Sound t) (hf : t.HasFreeNumber) (bytes : Bytes) :
    t.Registers bytes (Int32.ofNat t.freePlace) (t.occupy bytes) := by
  have hp := place?_freePlace h hf
  refine ⟨isFirstFree_freePlace h hf, ?_, ?_⟩
  · refine reading?_eq_some.2 (slot?_eq_some.2 ⟨t.freePlace, hp, ?_⟩)
    rw [slots_occupy, if_pos rfl]
  · intro m hm
    unfold slot?
    cases hi : place? m with
    | none => rfl
    | some i =>
      have hne : i ≠ t.freePlace := by
        rintro rfl
        exact hm (place?_inj hi hp)
      simp only [slots_occupy, if_neg hne]

/-- **Opening a file** fails and registers nothing, or registers the bytes that the source has for the
path under the least free number. -/
theorem registers_openForRead (h : Sound t) (hf : t.HasFreeNumber) (source : FileSource)
    (path : String) :
    t.openForRead source path = (-1, t) ∨
      ∃ bytes, source.fetch path = .ok bytes ∧
        t.Registers bytes (t.openForRead source path).1 (t.openForRead source path).2 := by
  rcases openForRead_cases t source path with hfail | ⟨bytes, -, hfetch, hopen⟩
  · exact .inl hfail
  · refine .inr ⟨bytes, hfetch, ?_⟩
    rw [hopen]
    exact registers_occupy h hf bytes

/-! ## What an operation on a number depends on -/

/-- Where a number stands for the same reading, an operation on it has the same answer and leaves the
same reading, unless it releases the number. -/
theorem apply_congr (h₁ : t₁.reading? n = some r) (h₂ : t₂.reading? n = some r) {op : FileOp}
    (hop : op.isOn n = true) :
    (op.apply t₁).1 = (op.apply t₂).1 ∧
      (op ≠ .release n →
        ∃ r', (op.apply t₁).2.reading? n = some r' ∧ (op.apply t₂).2.reading? n = some r') := by
  have hn : op.number? = some n := by simpa [FileOp.isOn] using hop
  have hs₁ := reading?_eq_some.1 h₁
  have hs₂ := reading?_eq_some.1 h₂
  have hput₁ := reading?_putReading_self h₁
  have hput₂ := reading?_putReading_self h₂
  cases op with
  | enable | openForRead | holds | flush => cases hn
  | skip m amount =>
    cases hn
    simp only [FileOp.apply, skip, h₁, h₂]
    by_cases ha : amount ≤ 0
    · simp only [if_pos ha]
      exact ⟨trivial, fun _ => ⟨r, h₁, h₂⟩⟩
    · simp only [if_neg ha]
      exact ⟨trivial, fun _ => ⟨_, hput₁ _, hput₂ _⟩⟩
  | available m =>
    cases hn
    refine ⟨?_, fun _ => ⟨r, h₁, h₂⟩⟩
    simp only [FileOp.apply, available, h₁, h₂]
  | readByte m =>
    cases hn
    simp only [FileOp.apply, readByte, h₁, h₂]
    cases r.buffer[r.position]? with
    | none => exact ⟨rfl, fun _ => ⟨r, h₁, h₂⟩⟩
    | some b => exact ⟨rfl, fun _ => ⟨_, hput₁ _, hput₂ _⟩⟩
  | readBytes m length =>
    cases hn
    simp only [FileOp.apply, readBytes, h₁, h₂]
    by_cases hl : length = 0
    · simp only [if_pos hl]
      exact ⟨trivial, fun _ => ⟨r, h₁, h₂⟩⟩
    · simp only [if_neg hl]
      by_cases he : (r.take length).1.isEmpty = true
      · simp only [if_pos he]
        exact ⟨trivial, fun _ => ⟨r, h₁, h₂⟩⟩
      · simp only [if_neg he]
        exact ⟨trivial, fun _ => ⟨_, hput₁ _, hput₂ _⟩⟩
  | write m bytes =>
    cases hn
    simp only [FileOp.apply, write, hs₁, hs₂]
    exact ⟨trivial, fun _ => ⟨r, h₁, h₂⟩⟩
  | release m =>
    cases hn
    refine ⟨?_, fun hne => absurd rfl hne⟩
    simp only [FileOp.apply, release, h₁, h₂]
    by_cases hm : n < 3
    · simp only [if_pos hm]
    · simp only [if_neg hm]

/-- Only its release closes an open reading. -/
theorem exists_reading?_apply (hr : t.reading? n = some r) {op : FileOp} (hop : op ≠ .release n) :
    ∃ r', (op.apply t).2.reading? n = some r' := by
  by_cases hon : op.isOn n = true
  · obtain ⟨r', hr', -⟩ := (apply_congr hr hr hon).2 hop
    exact ⟨r', hr'⟩
  · exact ⟨r, reading?_step_of_ne (slotStep_apply t op) hr (by simpa [FileOp.isOn] using hon)⟩

/-- Where a number stands for the same reading, the same operations on it have the same answers. -/
theorem transcript_congr {ops : List FileOp} (h₁ : t₁.reading? n = some r)
    (h₂ : t₂.reading? n = some r) (hon : ∀ op ∈ ops, op.isOn n = true)
    (hrel : ∀ op ∈ ops, op ≠ .release n) : t₁.transcript ops = t₂.transcript ops := by
  induction ops generalizing t₁ t₂ r with
  | nil => rfl
  | cons op rest ih =>
    obtain ⟨hanswer, hnext⟩ := apply_congr h₁ h₂ (hon op List.mem_cons_self)
    obtain ⟨r', h₁', h₂'⟩ := hnext (hrel op List.mem_cons_self)
    rw [transcript, transcript, hanswer,
      ih h₁' h₂' (fun o ho => hon o (List.mem_cons_of_mem _ ho))
        (fun o ho => hrel o (List.mem_cons_of_mem _ ho))]

/-- **Operations on other numbers can be left out.** From a table in which a number is open, and until
it is released, the operations on it have the answers that they have if nothing else is done. -/
theorem transcript_filter (hr : t.reading? n = some r) {ops : List FileOp}
    (hrel : ∀ op ∈ ops, op ≠ .release n) :
    (t.transcript ops).filter (fun e => e.1.isOn n) = t.transcript (ops.filter (·.isOn n)) := by
  induction ops generalizing t r with
  | nil => rfl
  | cons op rest ih =>
    have hrest : ∀ o ∈ rest, o ≠ .release n := fun o ho => hrel o (List.mem_cons_of_mem _ ho)
    by_cases hop : op.isOn n = true
    · obtain ⟨r', hr', -⟩ := (apply_congr hr hr hop).2 (hrel op List.mem_cons_self)
      simp only [transcript, List.filter_cons, hop, if_true]
      rw [ih hr' hrest]
    · have hr' : (op.apply t).2.reading? n = some r :=
        reading?_step_of_ne (slotStep_apply t op) hr (by simpa [FileOp.isOn] using hop)
      simp only [transcript, List.filter_cons, hop, Bool.false_eq_true, if_false]
      rw [ih hr' hrest]
      refine transcript_congr hr' hr (fun o ho => (List.mem_filter.1 ho).2) ?_
      exact fun o ho => hrest o (List.mem_filter.1 ho).1

/-- **File numbers are isolated.** In every table that operations lead to, with a source that may be
another one at every operation:

* number 0 stands for nothing, numbers 1 and 2 for the console streams;
* as long as a number from 3 on is free, opening a file fails and changes nothing, or opens the bytes
  that were fetched under the least free number, and touches no other number;
* two histories that opened the same bytes under the same number agree on every answer about that
  number until it is released, provided that they make the same operations on it; the histories may
  differ in everything else. -/
theorem handles_isolated (before : List FileOp) :
    (let t := empty.after before
     t.slot? 0 = none ∧ (∃ pending, t.slot? 1 = some (.console .stdout pending)) ∧
      (∃ pending, t.slot? 2 = some (.console .stderr pending)) ∧
      (t.HasFreeNumber → ∀ (source : FileSource) (path : String),
        t.openForRead source path = (-1, t) ∨
          ∃ bytes, source.fetch path = .ok bytes ∧
            t.Registers bytes (t.openForRead source path).1 (t.openForRead source path).2)) ∧
    ∀ (before' : List FileOp) (source source' : FileSource) (path path' : String) (bytes : Bytes)
      (n : Int32) (t t' : FileTable) (later later' : List FileOp),
      (empty.after before).HasFreeNumber → (empty.after before').HasFreeNumber →
      source.fetch path = .ok bytes → source'.fetch path' = .ok bytes → n ≠ -1 →
      (empty.after before).openForRead source path = (n, t) →
      (empty.after before').openForRead source' path' = (n, t') →
      (∀ op ∈ later, op ≠ .release n) → (∀ op ∈ later', op ≠ .release n) →
      later.filter (·.isOn n) = later'.filter (·.isOn n) →
      (t.transcript later).filter (fun e => e.1.isOn n)
        = (t'.transcript later').filter (fun e => e.1.isOn n) := by
  have hsound := sound_after before
  refine ⟨⟨?_, ?_, ?_, ?_⟩, ?_⟩
  · rw [slot?_of_place? (show place? 0 = some 0 from rfl), hsound.gap]
    rfl
  · obtain ⟨pending, h⟩ := hsound.out
    exact ⟨pending, slot?_eq_some.2 ⟨1, rfl, h⟩⟩
  · obtain ⟨pending, h⟩ := hsound.err
    exact ⟨pending, slot?_eq_some.2 ⟨2, rfl, h⟩⟩
  · intro hf source path
    exact registers_openForRead hsound hf source path
  · intro before' source source' path path' bytes n t t' later later' hf hf' hb hb' hn ho ho'
      hrel hrel' hsame
    have opened : ∀ {u u' : FileTable} {s : FileSource} {p : String}, Sound u → u.HasFreeNumber →
        s.fetch p = .ok bytes → u.openForRead s p = (n, u') →
          u'.reading? n = some (.start bytes) := by
      intro u u' s p hu hfree hfetch hopen
      rcases registers_openForRead hu hfree s p with hfail | ⟨bytes', hbytes, hreg⟩
      · rw [hopen] at hfail
        exact absurd (congrArg Prod.fst hfail) hn
      · obtain rfl : bytes = bytes' := Except.ok.inj (hfetch.symm.trans hbytes)
        rw [hopen] at hreg
        exact hreg.opened
    have hr := opened hsound hf hb ho
    have hr' := opened (sound_after before') hf' hb' ho'
    rw [transcript_filter hr hrel, transcript_filter hr' hrel', ← hsame]
    refine transcript_congr hr hr' (fun o ho => (List.mem_filter.1 ho).2) ?_
    exact fun o ho => hrel o (List.mem_filter.1 ho).1

/-- A number that was used before and one that was not: while another file is read, the first byte read
through either is the first byte of the file that was opened under it. -/
theorem handles_isolated_after_reuse :
    let files := FileSource.staged (.ofList [("a", [7, 8]), ("b", [9])])
    let fresh := empty.after [.enable]
    let reused := empty.after [.enable, .openForRead files "b", .release 3]
    let later := [.readByte 3]
    let later' := [.openForRead files "b", .readByte 4, .readByte 3, .release 4]
    fresh.HasFreeNumber ∧ reused.HasFreeNumber ∧ files.fetch "a" = .ok [7, 8] ∧
      ((fresh.openForRead files "a").2.transcript later).filter (fun e => e.1.isOn 3)
        = ((reused.openForRead files "a").2.transcript later').filter (fun e => e.1.isOn 3) := by
  intro files fresh reused later later'
  have hfree : fresh.HasFreeNumber := ⟨3, by decide, rfl⟩
  have hfree' : reused.HasFreeNumber := ⟨3, by decide, rfl⟩
  refine ⟨hfree, hfree', rfl, ?_⟩
  exact (handles_isolated [.enable]).2 [.enable, .openForRead files "b", .release 3] files files
    "a" "a" [7, 8] 3 _ _ later later' hfree hfree' rfl rfl (by decide) rfl rfl
    (by simp [later]) (by simp [later']) rfl

end GuestHost.FileTable
