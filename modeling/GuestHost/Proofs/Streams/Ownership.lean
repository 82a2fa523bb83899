import GuestHost.Proofs.Files.Isolation
import GuestHost.Proofs.Streams.Natives

/-!
# Who owns a file number

File numbers are used again, so a stream that keeps a number after the file was closed would read the
file of whoever got the number next. Streams do not: a number has one owner, from the opening that gave
it out to the close that takes it back.

* `StreamEffect` — what one native on a stream may do to the heap and the file table, and
  `streamEffect_run` that it does nothing else;
* `Owned` — every stream has no number or that of an open file, and no two streams have the same one;
  `Owned.after` — so it stays, whatever the natives on the streams do;
* `openCount_after` — if streams are only opened while they have no number, the open files are those of
  the streams;
* `numbers_owned` — all of it, and what a stream without a number may do.

A heap has room for a new descriptor as long as it has fewer than `2 ^ 32` entries, and a file can
only be opened as long as some file number is free. `Move.Allowed` says so for each opening.
-/

namespace GuestHost

open GuestHost.Action Heap
open Host (descriptorField)

/-! ## What a native may do to streams -/

/-- What a native on the stream `r` may do to the heap and to the file table. -/
inductive StreamEffect (rs : List Ref) (r : Ref) (native : StreamNative) (h : Host) : Host → Prop
  /-- It does at most one operation on the number of the stream, and closes nothing. -/
  | quiet {h' : Host}
      (objects : ∀ p o, h.heap.get? p = some (.object o) → h'.heap.get? p = some (.object o))
      (files : h'.files = h.files ∨ ∃ (n : Int32) (op : FileOp), h.heap.number r = .ok n ∧
        op.number? = some n ∧ op ≠ .release n ∧ h'.files = (op.apply h.files).2) :
    StreamEffect rs r native h h'
  /-- It opens a file and gives its number to the stream. -/
  | opened {h' : Host} (hnative : native = .openFile) (bytes : Bytes)
      (files : h'.files = h.files.occupy bytes)
      (sets : Sets rs rs h.heap r (Int32.ofNat h.files.freePlace) h'.heap) :
      StreamEffect rs r native h h'
  /-- It releases the number of the stream and takes it from the stream. -/
  | closed {h' : Host} (hnative : native = .close) {n : Int32} (number : h.heap.number r = .ok n)
      (hn : 0 ≤ n) (files : h'.files = (h.files.release n).2)
      (sets : Sets rs rs h.heap r (-1) h'.heap) : StreamEffect rs r native h h'

variable {rs : List Ref} {r : Ref} {native : StreamNative} {h h' : Host} {n : Int32}

/-- Room for what an opening makes: a descriptor and a file number. -/
structure Host.HasRoom (h : Host) : Prop where
  heap : h.heap.size < 2 ^ 32
  files : h.files.HasFreeNumber

theorem streamEffect_open (hs : h.heap.StreamsApart rs rs) (hsound : h.files.Sound) (hr : r ∈ rs)
    (hroom : h.HasRoom) (args : List Value) :
    StreamEffect rs r .openFile h ((StreamNative.runOpen (.ref r :: args)).apply h).2 := by
  rcases StreamNative.runOpen_cases (.ref r :: args) h with
    ⟨fault, hrun, -⟩ | ⟨stream, p, path, h₀, -, -, hrun⟩
  · rw [hrun]
    exact .quiet (fun _ _ ho => ho) (.inl rfl)
  · obtain rfl : Value.ref r = stream := Except.ok.inj h₀
    rw [hrun]
    rcases h.files.openForRead_cases h.source path with hfail | ⟨bytes, -, -, hopen⟩
    · have hneg : ¬ 0 ≤ (h.files.openForRead h.source path).1 := by
        rw [hfail]
        show ¬ (0 : Int32) ≤ -1
        decide
      rw [StreamNative.apply_openAt_of_neg hneg, hfail]
      exact .quiet (fun _ _ ho => ho) (.inl rfl)
    · have hfirst := FileTable.isFirstFree_freePlace hsound hroom.files
      have hpos : 0 ≤ (h.files.openForRead h.source path).1 := by
        rw [hopen]
        exact Int32.le_trans (by decide) hfirst.three_le
      obtain ⟨heap, hset, hsets⟩ := sets_setDescriptor
        (h := { h with files := (h.files.openForRead h.source path).2 }) hs hr hroom.heap
        (h.files.openForRead h.source path).1
      rw [StreamNative.apply_openAt_of_nonneg hpos, apply_bind_of_ok hset]
      rw [hopen] at hsets ⊢
      exact .opened rfl bytes rfl hsets

theorem streamEffect_close (hs : h.heap.StreamsApart rs rs) (hr : r ∈ rs) (args : List Value) :
    StreamEffect rs r .close h ((StreamNative.runClose (.ref r :: args)).apply h).2 := by
  obtain ⟨n, hn⟩ := hs.exists_number hr
  by_cases hpos : 0 ≤ n
  · obtain ⟨d, o, hd, ho⟩ := exists_descriptor_of_nonneg hs hr hn hpos
    have hset := apply_setDescriptor_of_descriptor
      (h := { h with files := (h.files.release n).2 }) hd ho (-1)
    rw [StreamNative.apply_runClose_of_nonneg (StreamNative.descriptor_of_number hn) hpos,
      apply_bind_of_ok hset]
    exact .closed rfl hn hpos rfl (sets_of_descriptor hs hr hd ho (-1))
  · rw [StreamNative.apply_runClose_of_neg (StreamNative.descriptor_of_number hn) hpos]
    exact .quiet (fun _ _ ho => ho) (.inl rfl)

/-- **What a native on a stream may do.** -/
theorem streamEffect_run (hs : h.heap.StreamsApart rs rs) (hsound : h.files.Sound) (hr : r ∈ rs)
    (hroom : native = .openFile → h.HasRoom) (args : List Value) :
    StreamEffect rs r native h ((native.run (.ref r :: args)).apply h).2 := by
  by_cases hnative : native.usesNumber = true
  · obtain ⟨n, hn⟩ := hs.exists_number hr
    obtain ⟨k, hk, hnumber⟩ := StreamNative.run_eq_bind hnative (.ref r :: args)
    rw [hk, apply_bind_of_ok (StreamNative.apply_number hn args)]
    refine .quiet (fun p o ho => hnumber.keeps n h p o ho) ?_
    rcases hnumber.touches n h with hfiles | ⟨op, hop, hne, hfiles⟩
    · exact .inl hfiles
    · exact .inr ⟨n, op, hn, hop, hne, hfiles⟩
  · cases native with
    | openFile => exact streamEffect_open hs hsound hr (hroom rfl) args
    | close => exact streamEffect_close hs hr args
    | attributes =>
      have hread : ReadsOnly (StreamNative.run .attributes (.ref r :: args)) := by
        refine (readsOnly_ofResult _).bind fun v => ?_
        refine (readsOnly_view _).bind fun path => ?_
        exact (readsOnly_get.bind fun _ => readsOnly_pure _).bind fun _ => readsOnly_pure _
      rw [hread h]
      exact .quiet (fun _ _ ho => ho) (.inl rfl)
    | skip | available | read | readBytes | writeBytes | writeByte => exact absurd rfl hnative

/-! ## The owners of numbers -/

/-- Every stream has no number or that of an open file, and no two streams have the same one. -/
structure Owned (rs : List Ref) (h : Host) : Prop where
  apart : h.heap.StreamsApart rs rs
  sound : h.files.Sound
  held : ∀ r ∈ rs, ∀ n, h.heap.number r = .ok n →
    n = -1 ∨ ∃ reading, h.files.reading? n = some reading
  distinct : ∀ r ∈ rs, ∀ r' ∈ rs, ∀ n, n ≠ -1 → h.heap.number r = .ok n →
    h.heap.number r' = .ok n → r = r'

/-- What leaves the numbers and the open files as they are leaves the owners as they are. -/
theorem Owned.of_same (ho : Owned rs h) (hsame : SameStreams rs h.heap h'.heap)
    (hsound : h'.files.Sound)
    (hopen : ∀ n reading, h.files.reading? n = some reading →
      ∃ reading', h'.files.reading? n = some reading') : Owned rs h' := by
  refine ⟨?_, hsound, ?_, ?_⟩
  · refine hsame.apart ho.apart fun r hr => ?_
    obtain ⟨v, hv⟩ := ho.apart.object r hr
    rw [← (hsame r hr).1] at hv
    obtain ⟨o, hget, -⟩ := field_eq_ok.1 hv
    exact ⟨_, hget⟩
  · intro r hr n hn
    rw [hsame.number_eq hr] at hn
    rcases ho.held r hr n hn with hnone | ⟨reading, hreading⟩
    · exact .inl hnone
    · exact .inr (hopen n reading hreading)
  · intro r hr r' hr' n hne hn hn'
    rw [hsame.number_eq hr] at hn
    rw [hsame.number_eq hr'] at hn'
    exact ho.distinct r hr r' hr' n hne hn hn'

theorem Owned.effect (ho : Owned rs h) (hr : r ∈ rs) (hroom : native = .openFile → h.HasRoom)
    (heffect : StreamEffect rs r native h h') : Owned rs h' := by
  cases heffect with
  | quiet objects files =>
    refine ho.of_same (sameStreams_of_objects ho.apart objects) ?_ ?_
    · rcases files with hfiles | ⟨n, op, -, -, -, hfiles⟩ <;> rw [hfiles]
      · exact ho.sound
      · exact ho.sound.step (FileTable.slotStep_apply h.files op)
    · intro m reading hreading
      rcases files with hfiles | ⟨n, op, -, hop, hne, hfiles⟩ <;> rw [hfiles]
      · exact ⟨reading, hreading⟩
      · refine FileTable.exists_reading?_apply hreading ?_
        rintro rfl
        obtain rfl : m = n := Option.some.inj hop
        exact hne rfl
  | opened hnative bytes files sets =>
    have hreg := FileTable.registers_occupy ho.sound (hroom hnative).files bytes
    rw [← files] at hreg
    -- Other streams have numbers that were open before, and the new one was not.
    have hother : ∀ r' ∈ rs, r' ≠ r → ∀ n, h'.heap.number r' = .ok n → n ≠ -1 →
        n ≠ Int32.ofNat h.files.freePlace ∧ ∃ reading, h'.files.reading? n = some reading := by
      intro r' hr' hne n hn hneg
      rw [sets.number_of_ne r' hr' hne] at hn
      rcases ho.held r' hr' n hn with hnone | ⟨reading, hreading⟩
      · exact absurd hnone hneg
      · have hfirst : n ≠ Int32.ofNat h.files.freePlace := by
          rintro rfl
          rw [hreg.first.free] at hreading
          cases hreading
        refine ⟨hfirst, reading, ?_⟩
        rw [FileTable.reading?_congr (hreg.others n hfirst)]
        exact hreading
    refine ⟨sets.apart, ?_, ?_, ?_⟩
    · rw [files]
      exact ho.sound.occupy bytes
    · intro r' hr' n hn
      by_cases hne : r' = r
      · subst hne
        obtain rfl : Int32.ofNat h.files.freePlace = n := Except.ok.inj (sets.number_self.symm.trans hn)
        exact .inr ⟨_, hreg.opened⟩
      · by_cases hneg : n = -1
        · exact .inl hneg
        · exact .inr (hother r' hr' hne n hn hneg).2
    · intro r₁ h₁ r₂ h₂ n hneg hn₁ hn₂
      by_cases hne₁ : r₁ = r
      · by_cases hne₂ : r₂ = r
        · rw [hne₁, hne₂]
        · rw [hne₁, sets.number_self] at hn₁
          exact absurd (Except.ok.inj hn₁).symm (hother r₂ h₂ hne₂ n hn₂ hneg).1
      · by_cases hne₂ : r₂ = r
        · rw [hne₂, sets.number_self] at hn₂
          exact absurd (Except.ok.inj hn₂).symm (hother r₁ h₁ hne₁ n hn₁ hneg).1
        · rw [sets.number_of_ne r₁ h₁ hne₁] at hn₁
          rw [sets.number_of_ne r₂ h₂ hne₂] at hn₂
          exact ho.distinct r₁ h₁ r₂ h₂ n hneg hn₁ hn₂
  | @closed _ m number hm files sets =>
    have hstep := FileTable.slotStep_apply h.files (.release m)
    refine ⟨sets.apart, ?_, ?_, ?_⟩
    · rw [files]
      exact ho.sound.step hstep
    · intro r' hr' n hn
      by_cases hne : r' = r
      · subst hne
        exact .inl (Except.ok.inj (hn.symm.trans sets.number_self))
      · rw [sets.number_of_ne r' hr' hne] at hn
        rcases ho.held r' hr' n hn with hnone | ⟨reading, hreading⟩
        · exact .inl hnone
        · refine .inr ⟨reading, ?_⟩
          rw [files]
          refine FileTable.reading?_step_of_ne hstep hreading ?_
          intro heq
          obtain rfl : m = n := Option.some.inj heq
          have hneg : m ≠ -1 := by
            rintro rfl
            exact absurd hm (by decide)
          exact hne (ho.distinct r' hr' r hr m hneg hn number)
    · intro r₁ h₁ r₂ h₂ n hneg hn₁ hn₂
      have hne : ∀ r', h'.heap.number r' = .ok n → r' ≠ r := by
        rintro r' hn rfl
        exact hneg (Except.ok.inj (hn.symm.trans sets.number_self))
      rw [sets.number_of_ne r₁ h₁ (hne r₁ hn₁)] at hn₁
      rw [sets.number_of_ne r₂ h₂ (hne r₂ hn₂)] at hn₂
      exact ho.distinct r₁ h₁ r₂ h₂ n hneg hn₁ hn₂

/-! ## Runs -/

/-- A move of a run: a native on a stream, or anything else that happens to the host. -/
inductive Move
  | native (stream : Ref) (native : StreamNative) (args : List Value)
  | outside (change : Host → Host)

namespace Move

/-- What a move does to a host. -/
def apply (h : Host) : Move → Host
  | .native stream native args => ((native.run (.ref stream :: args)).apply h).2
  | .outside change => change h

/-- Natives run on the streams `rs` only, an opening with room for what it makes; whatever else happens
leaves the file table and the descriptor fields of the streams alone. -/
def Allowed (rs : List Ref) (h : Host) : Move → Prop
  | .native stream native _ => stream ∈ rs ∧ (native = .openFile → h.HasRoom)
  | .outside change => (change h).files = h.files ∧ SameStreams rs h.heap (change h).heap

end Move

namespace Host

/-- The host after a run. -/
def after (h : Host) (moves : List Move) : Host := moves.foldl Move.apply h

/-- Every move of a run is allowed when it is made. -/
def Allows (rs : List Ref) : Host → List Move → Prop
  | _, [] => True
  | h, m :: rest => m.Allowed rs h ∧ Allows rs (m.apply h) rest

/-- Streams are only opened while they have no number. -/
def OpensOnce : Host → List Move → Prop
  | _, [] => True
  | h, m :: rest =>
    (∀ stream args, m = .native stream .openFile args → h.heap.number stream = .ok (-1)) ∧
      OpensOnce (m.apply h) rest

/-- Whether a stream has a number. -/
def holds (h : Host) (stream : Ref) : Bool :=
  match h.heap.number stream with
  | .ok n => n != -1
  | .error _ => false

end Host

variable {moves : List Move}

theorem Owned.apply (ho : Owned rs h) {m : Move} (hm : m.Allowed rs h) : Owned rs (m.apply h) := by
  cases m with
  | native stream native args =>
    obtain ⟨hr, hroom⟩ := hm
    exact ho.effect hr hroom (streamEffect_run ho.apart ho.sound hr hroom args)
  | outside change =>
    obtain ⟨hfiles, hsame⟩ := hm
    refine ho.of_same hsame ?_ ?_
    · show (change h).files.Sound
      rw [hfiles]
      exact ho.sound
    · intro n reading hreading
      refine ⟨reading, ?_⟩
      show (change h).files.reading? n = some reading
      rw [hfiles]
      exact hreading

theorem Owned.after (ho : Owned rs h) (hmoves : h.Allows rs moves) : Owned rs (h.after moves) := by
  induction moves generalizing h with
  | nil => exact ho
  | cons m rest ih => exact ih (ho.apply hmoves.1) hmoves.2

/-! ## Counting owners -/

theorem holds_congr {r : Ref} (hn : h'.heap.number r = h.heap.number r) : h'.holds r = h.holds r := by
  rw [Host.holds, Host.holds, hn]

/-- One more stream is counted if one that was not counted is. -/
theorem countP_succ {α : Type} [DecidableEq α] {l : List α} (hl : l.Nodup) {a : α} (ha : a ∈ l)
    {p q : α → Bool} (hp : p a = false) (hq : q a = true) (hother : ∀ b ∈ l, b ≠ a → q b = p b) :
    l.countP q = l.countP p + 1 := by
  have hperm := List.perm_cons_erase ha
  rw [hperm.countP_eq q, hperm.countP_eq p, List.countP_cons_of_pos hq,
    List.countP_cons_of_neg (by simp [hp])]
  refine congrArg (· + 1) (List.countP_congr fun b hb => ?_)
  rw [hl.mem_erase_iff] at hb
  rw [hother b hb.2 hb.1]

/-- A native on a stream changes the number of open files as it changes the number of owners. -/
theorem openCount_effect (ho : Owned rs h) (hrs : rs.Nodup) (hr : r ∈ rs)
    (hroom : native = .openFile → h.HasRoom)
    (hnone : native = .openFile → h.heap.number r = .ok (-1))
    (heffect : StreamEffect rs r native h h') :
    h'.files.openCount + rs.countP h.holds = h.files.openCount + rs.countP h'.holds := by
  cases heffect with
  | quiet objects files =>
    have hsame := sameStreams_of_objects ho.apart objects
    have hholds : rs.countP h'.holds = rs.countP h.holds :=
      List.countP_congr fun r' hr' => by rw [holds_congr (hsame.number_eq hr')]
    have hcount : h'.files.openCount = h.files.openCount := by
      rcases files with hfiles | ⟨n, op, -, hop, hne, hfiles⟩ <;> rw [hfiles]
      refine FileTable.openCount_step (FileTable.slotStep_apply h.files op) ?_ ?_
      · rintro source path rfl
        cases hop
      · rintro m rfl
        obtain rfl : m = n := Option.some.inj hop
        exact hne rfl
    rw [hholds, hcount]
  | opened hnative bytes files sets =>
    have hp : h.holds r = false := by
      rw [Host.holds, hnone hnative]
      rfl
    have hq : h'.holds r = true := by
      have hthree := (FileTable.isFirstFree_freePlace ho.sound (hroom hnative).files).three_le
      rw [Host.holds, sets.number_self]
      refine bne_iff_ne.2 ?_
      intro heq
      rw [heq] at hthree
      exact absurd hthree (by decide)
    have hcount := countP_succ hrs hr hp hq fun r' hr' hne =>
      holds_congr (sets.number_of_ne r' hr' hne)
    rw [hcount, files, FileTable.openCount_occupy]
    omega
  | @closed _ n number hn files sets =>
    have hneg : n ≠ -1 := by
      rintro rfl
      exact absurd hn (by decide)
    have hp : h'.holds r = false := by
      rw [Host.holds, sets.number_self]
      rfl
    have hq : h.holds r = true := by
      rw [Host.holds, number]
      exact bne_iff_ne.2 hneg
    have hcount := countP_succ hrs hr hp hq fun r' hr' hne =>
      (holds_congr (sets.number_of_ne r' hr' hne)).symm
    have hrelease : h'.files.openCount + 1 = h.files.openCount := by
      rcases ho.held r hr n number with hnone' | ⟨reading, hreading⟩
      · exact absurd hnone' hneg
      · rw [files, ho.sound.release_eq hreading]
        exact FileTable.openCount_release hreading
    rw [hcount]
    omega

theorem openCount_apply (ho : Owned rs h) (hrs : rs.Nodup) {m : Move} (hm : m.Allowed rs h)
    (honce : ∀ stream args, m = .native stream .openFile args → h.heap.number stream = .ok (-1)) :
    (m.apply h).files.openCount + rs.countP h.holds
      = h.files.openCount + rs.countP (m.apply h).holds := by
  cases m with
  | native stream native args =>
    obtain ⟨hr, hroom⟩ := hm
    refine openCount_effect ho hrs hr hroom ?_ (streamEffect_run ho.apart ho.sound hr hroom args)
    rintro rfl
    exact honce stream args rfl
  | outside change =>
    obtain ⟨hfiles, hsame⟩ := hm
    have hholds : rs.countP (change h).holds = rs.countP h.holds :=
      List.countP_congr fun r hr => by rw [holds_congr (hsame.number_eq hr)]
    show (change h).files.openCount + _ = _ + rs.countP (change h).holds
    rw [hholds, hfiles]

/-- If streams are only opened while they have no number, a run changes the number of open files as it
changes the number of owners. -/
theorem openCount_after (ho : Owned rs h) (hrs : rs.Nodup) (hmoves : h.Allows rs moves)
    (honce : h.OpensOnce moves) :
    (h.after moves).files.openCount + rs.countP h.holds
      = h.files.openCount + rs.countP (h.after moves).holds := by
  induction moves generalizing h with
  | nil => rfl
  | cons m rest ih =>
    have hfirst := openCount_apply ho hrs hmoves.1 honce.1
    have hrest := ih (ho.apply hmoves.1) hmoves.2 honce.2
    show ((m.apply h).after rest).files.openCount + _ = _ + rs.countP ((m.apply h).after rest).holds
    omega

/-! ## Streams without a number -/

/-- Closing takes the number from a stream. -/
theorem number_close (ho : Owned rs h) (hr : r ∈ rs) (args : List Value) :
    ((Move.native r .close args).apply h).heap.number r = .ok (-1) := by
  obtain ⟨n, hn⟩ := ho.apart.exists_number hr
  show ((StreamNative.runClose (.ref r :: args)).apply h).2.heap.number r = _
  by_cases hpos : 0 ≤ n
  · obtain ⟨d, o, hd, hobj⟩ := exists_descriptor_of_nonneg ho.apart hr hn hpos
    have hset := apply_setDescriptor_of_descriptor
      (h := { h with files := (h.files.release n).2 }) hd hobj (-1)
    rw [StreamNative.apply_runClose_of_nonneg (StreamNative.descriptor_of_number hn) hpos,
      apply_bind_of_ok hset]
    exact (sets_of_descriptor ho.apart hr hd hobj (-1)).number_self
  · rw [StreamNative.apply_runClose_of_neg (StreamNative.descriptor_of_number hn) hpos]
    rcases ho.held r hr n hn with rfl | ⟨reading, hreading⟩
    · exact hn
    · exact absurd (Int32.le_trans (by decide) (ho.sound.three_le hreading)) hpos

/-- A stream without a number gets one by an opening only. -/
theorem number_apply_of_none (ho : Owned rs h) (hr : r ∈ rs) {m : Move} (hm : m.Allowed rs h)
    (hnone : h.heap.number r = .ok (-1)) (hopen : ∀ args, m ≠ .native r .openFile args) :
    (m.apply h).heap.number r = .ok (-1) := by
  cases m with
  | native stream native args =>
    obtain ⟨hstream, hroom⟩ := hm
    have heffect := streamEffect_run ho.apart ho.sound hstream hroom args
    show ((native.run (.ref stream :: args)).apply h).2.heap.number r = _
    cases heffect with
    | quiet objects files =>
      rw [(sameStreams_of_objects ho.apart objects).number_eq hr]
      exact hnone
    | opened hnative bytes files sets =>
      have hne : r ≠ stream := by
        rintro rfl
        exact hopen args (by rw [hnative])
      rw [sets.number_of_ne r hr hne]
      exact hnone
    | closed hnative number hn files sets =>
      have hne : r ≠ stream := by
        rintro rfl
        rw [hnone] at number
        cases number
        exact absurd hn (by decide)
      rw [sets.number_of_ne r hr hne]
      exact hnone
  | outside change => exact (hm.2.number_eq hr).trans hnone

theorem number_after_of_none (ho : Owned rs h) (hr : r ∈ rs) (hmoves : h.Allows rs moves)
    (hnone : h.heap.number r = .ok (-1)) (hopen : ∀ args, .native r .openFile args ∉ moves) :
    (h.after moves).heap.number r = .ok (-1) := by
  induction moves generalizing h with
  | nil => exact hnone
  | cons m rest ih =>
    refine ih (ho.apply hmoves.1) hmoves.2 ?_ fun args hmem => hopen args (List.mem_cons_of_mem _ hmem)
    refine number_apply_of_none ho hr hmoves.1 hnone ?_
    rintro args rfl
    exact hopen args List.mem_cons_self

/-- What a native does on a stream without a number does not depend on the file table, and changes
nothing in it. -/
theorem run_of_none (hnative : native ≠ .openFile) (hattributes : native ≠ .attributes)
    (hnone : h.heap.number r = .ok (-1)) (args : List Value) (t : FileTable) :
    (native.run (.ref r :: args)).apply { h with files := t }
      = (((native.run (.ref r :: args)).apply h).1,
          { ((native.run (.ref r :: args)).apply h).2 with files := t }) := by
  by_cases huses : native.usesNumber = true
  · obtain ⟨k, hk, hnumber⟩ := StreamNative.run_eq_bind huses (.ref r :: args)
    have hnumber₁ := StreamNative.apply_number hnone args
    have hnumber₂ := StreamNative.apply_number (h := { h with files := t }) hnone args
    rw [hk, apply_bind_of_ok hnumber₁, apply_bind_of_ok hnumber₂]
    exact hnumber.quiet h t
  · cases native with
    | openFile => exact absurd rfl hnative
    | attributes => exact absurd rfl hattributes
    | close =>
      have hneg : ¬ (0 : Int32) ≤ -1 := by decide
      have hrun : ∀ t, (StreamNative.run .close (.ref r :: args)).apply { h with files := t }
          = (.ok .null, { h with files := t }) := fun t =>
        StreamNative.apply_runClose_of_neg (h := { h with files := t })
          (StreamNative.descriptor_of_number hnone) hneg args
      have hrun' : (StreamNative.run .close (.ref r :: args)).apply h = (.ok .null, h) :=
        hrun h.files
      rw [hrun t, hrun']
    | skip | available | read | readBytes | writeBytes | writeByte => exact absurd rfl huses

/-! ## Every reachable host -/

/-- Streams that were just allocated own nothing. -/
theorem owned_of_fresh (hsound : h.files.Sound)
    (hfresh : ∀ r ∈ rs, h.heap.field r descriptorField = .ok .null) : Owned rs h := by
  have hnone : ∀ r ∈ rs, ∀ d, h.heap.field r descriptorField ≠ .ok (.ref d) := by
    intro r hr d hd
    rw [hfresh r hr] at hd
    cases hd
  have hnumber : ∀ r ∈ rs, h.heap.number r = .ok (-1) := fun r hr =>
    number_of_none (hfresh r hr) fun d hd => by cases hd
  refine ⟨⟨?_, fun r hr => hr, fun r hr => ⟨_, hfresh r hr⟩, ?_, ?_⟩, hsound, ?_, ?_⟩
  · intro r hr
    obtain ⟨o, ho, -⟩ := field_eq_ok.1 (hfresh r hr)
    exact ⟨_, ho⟩
  · intro r hr d hd
    exact absurd hd (hnone r hr d)
  · intro r hr r' _ d hd _
    exact absurd hd (hnone r hr d)
  · intro r hr n hn
    rw [hnumber r hr] at hn
    exact .inl (Except.ok.inj hn).symm
  · intro r hr r' _ n hneg hn _
    rw [hnumber r hr] at hn
    exact absurd (Except.ok.inj hn).symm hneg

/-- **File numbers have one owner.** Start from a file table that operations led to and from streams
without a descriptor, and run any natives on the streams, while whatever else happens leaves the file
table and the descriptor fields of the streams alone. Then:

* every stream has no number or that of an open file;
* no two streams have the same number;
* if streams were only opened while they had no number, there are as many more files open as there are
  streams with a number;
* once a stream is closed, and until it is opened again, it has no number, and what the natives do on it
  neither depends on the file table nor changes it. -/
theorem numbers_owned (hrs : rs.Nodup) (ops : List FileOp)
    (hfiles : h.files = FileTable.empty.after ops)
    (hfresh : ∀ r ∈ rs, h.heap.field r descriptorField = .ok .null) (hmoves : h.Allows rs moves) :
    (∀ r ∈ rs, ∃ n, (h.after moves).descriptor (.ref r) = .ok n ∧
      (n = -1 ∨ 3 ≤ n ∧ ∃ reading, (h.after moves).files.reading? n = some reading)) ∧
    (∀ r ∈ rs, ∀ r' ∈ rs, ∀ n, n ≠ -1 → (h.after moves).descriptor (.ref r) = .ok n →
      (h.after moves).descriptor (.ref r') = .ok n → r = r') ∧
    (h.OpensOnce moves →
      (h.after moves).files.openCount = h.files.openCount + rs.countP (h.after moves).holds) ∧
    ∀ r ∈ rs, ∀ args later,
      let closed := (Move.native r .close args).apply (h.after moves)
      closed.Allows rs later → (∀ args, .native r .openFile args ∉ later) →
      (closed.after later).descriptor (.ref r) = .ok (-1) ∧
      ∀ native : StreamNative, native ≠ .openFile → native ≠ .attributes →
        ∀ (args : List Value) (t : FileTable),
          (native.run (.ref r :: args)).apply { closed.after later with files := t }
            = (((native.run (.ref r :: args)).apply (closed.after later)).1,
                { ((native.run (.ref r :: args)).apply (closed.after later)).2 with files := t }) := by
  have hstart := owned_of_fresh (hfiles ▸ FileTable.sound_after ops) hfresh
  have howned := hstart.after hmoves
  refine ⟨?_, howned.distinct, ?_, ?_⟩
  · intro r hr
    obtain ⟨n, hn⟩ := howned.apart.exists_number hr
    refine ⟨n, hn, ?_⟩
    rcases howned.held r hr n hn with hnone | ⟨reading, hreading⟩
    · exact .inl hnone
    · exact .inr ⟨howned.sound.three_le hreading, reading, hreading⟩
  · intro honce
    have hcount := openCount_after hstart hrs hmoves honce
    have hzero : rs.countP h.holds = 0 := by
      rw [List.countP_eq_zero]
      intro r hr
      rw [Host.holds, number_of_none (hfresh r hr) fun d hd => by cases hd]
      simp
    omega
  · intro r hr args later closed hlater hopen
    have hclosed : Owned rs closed := howned.apply ⟨hr, fun hnative => by cases hnative⟩
    have hnone := number_after_of_none hclosed hr hlater (number_close howned hr args) hopen
    exact ⟨hnone, fun native hnative hattributes args t =>
      run_of_none hnative hattributes hnone args t⟩

/-- Two streams, of which the second gets the number that the first has given back. -/
theorem numbers_owned_after_reuse :
    let stream : Entry := .object ⟨6, .empty, .empty⟩
    let host : Host :=
      { config := {}, heap := ⟨#[stream, stream]⟩, registry := .initial, linkage := .empty,
        files := FileTable.empty.enable, source := .staged (.ofList [("", [7, 8])]),
        imports := .empty, attached := none, surroundings := { millis := 0, seed := 0 } }
    let moves : List Move :=
      [.native ⟨0⟩ .openFile [.null], .native ⟨0⟩ .close [], .native ⟨1⟩ .openFile [.null],
        .native ⟨0⟩ .read []]
    host.Allows [⟨0⟩, ⟨1⟩] moves ∧ host.OpensOnce moves ∧
      (host.after moves).files.openCount
        = host.files.openCount + [⟨0⟩, ⟨1⟩].countP (host.after moves).holds := by
  intro stream host moves
  have hallowed : host.Allows [⟨0⟩, ⟨1⟩] moves :=
    ⟨⟨by decide, fun _ => ⟨by decide, 5, by decide, rfl⟩⟩,
      ⟨by decide, fun hopen => by cases hopen⟩,
      ⟨by decide, fun _ => ⟨by decide, 5, by decide, rfl⟩⟩,
      ⟨by decide, fun hopen => by cases hopen⟩, trivial⟩
  have honce : host.OpensOnce moves := by
    refine ⟨?_, ?_, ?_, ?_, trivial⟩ <;> intro stream args heq <;> cases heq <;> rfl
  have hfresh : ∀ r ∈ [⟨0⟩, ⟨1⟩], host.heap.field r descriptorField = .ok .null := by
    intro r hr
    rcases List.mem_cons.1 hr with rfl | hr
    · rfl
    · obtain rfl := List.mem_singleton.1 hr
      rfl
  refine ⟨hallowed, honce, ?_⟩
  exact (numbers_owned (by decide) [.enable] rfl hfresh hallowed).2.2.1 honce

end GuestHost
