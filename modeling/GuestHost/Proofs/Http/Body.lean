import GuestHost.Proofs.Http.Head

/-!
# Bodies, whole and cut off

What the readers of bodies make of a payload that is written in chunks or behind its length, and of the
start of one.

* `readChunks_chunk` — a chunk is read as its payload, whatever follows it;
* `readChunks_cut` — a chunk that is cut off is a fault, unless the cut falls behind leading zeros of its
  size, for these are the size that ends the chunks;
* `readChunks_body`, `readChunks_start` — all chunks, and any start of them.
-/

namespace GuestHost.Http

open Utf8 (text? encode IsAscii)

variable {n : Nat} {p more kept trailing : Bytes} {c : Chunk} {cs : List Chunk}

/-! ## Size lines -/

/-- A size is read up to the extension, or to the end of the line. -/
theorem chunkSize_append {digits rest : List Char} (hdigits : Numeral 16 digits n) (hn : n < 2 ^ 64)
    (hrest : ∀ c ∈ rest.head?, c = ';') : chunkSize (digits ++ rest) = .ok n := by
  have hpos : ∀ c ∈ digits, decide (c ≠ ';') = true := by
    intro c hc
    obtain ⟨d, -, hd⟩ := hdigits.mem_digit c hc
    rw [decide_eq_true_iff]
    rintro rfl
    have hvalue := hd.digitValue? hd.lt
    revert hvalue
    simp [Radix.digitValue?]
  have hword : (digits ++ rest).takeWhile (· ≠ ';') = digits := by
    rw [List.takeWhile_append_of_pos hpos]
    cases rest with
    | nil => simp
    | cons c rest =>
      obtain rfl := hrest c rfl
      simp
  unfold chunkSize
  simp only [hword, hdigits.wordOf? hn]

/-- The size in a line of digits, an extension and blanks. -/
theorem lineText_size {digits extension blanks : List Char} (hdigits : Numeral 16 digits n)
    (hn : n < 2 ^ 64) (hascii : IsAscii extension) (hapart : ∀ c ∈ extension.head?, c = ';')
    (hblanks : IsBlankEnd blanks) :
    (lineText (encode digits ++ encode extension ++ encode blanks)).bind chunkSize = .ok n := by
  have hvisible : ∀ c ∈ digits, Text.isBlank c = false := fun c hc =>
    Text.isBlank_of_visible (hdigits.visible c hc)
  have hline := lineText_append (digits ++ extension) [] hblanks
  simp only [Utf8.encode_append, List.append_nil, Utf8.text?_nil] at hline
  rw [hline]
  show chunkSize (Text.trim (digits ++ extension ++ blanks)) = _
  cases extension with
  | nil =>
    rw [List.append_nil, Text.trim_word_append hvisible hdigits.ne_nil hblanks.2]
    simpa using chunkSize_append hdigits hn (by simp : ∀ c ∈ ([] : List Char).head?, c = ';')
  | cons c rest =>
    obtain rfl : c = ';' := hapart c rfl
    obtain ⟨first, others, hfirst⟩ := List.exists_cons_of_ne_nil hdigits.ne_nil
    have hhead : Text.isBlank first = false := hvisible first (by simp [hfirst])
    have hsemicolon : Text.isBlank ';' = false := by decide
    have htrim : Text.trim (digits ++ ';' :: rest ++ blanks) = digits ++ ';' :: Text.trimEnd rest := by
      calc Text.trim (digits ++ ';' :: rest ++ blanks)
          = Text.trimEnd (digits ++ ';' :: rest ++ blanks) := by
            rw [hfirst]
            exact Text.trim_of_head hhead _
        _ = Text.trimEnd (digits ++ ';' :: rest) := Text.trimEnd_append_blanks hblanks.2 _
        _ = digits ++ ';' :: Text.trimEnd rest := Text.trimEnd_append_cons hsemicolon _ _
    rw [htrim]
    exact chunkSize_append hdigits hn fun c hc => (Option.some.inj hc).symm

theorem lineText_digits {digits : List Char} (hdigits : Numeral 16 digits n) (hn : n < 2 ^ 64) :
    (lineText (encode digits)).bind chunkSize = .ok n := by
  have hnil : IsAscii [] := by simp [IsAscii]
  simpa using lineText_size hdigits hn hnil (by simp) isBlankEnd_nil

namespace SizeLine

variable (l : SizeLine n)

/-- A size line without its end. -/
def text : List Char := l.digits ++ l.extension

theorem bytes_eq : l.bytes = encode l.text ++ lineEnd := by
  rw [bytes, text, Utf8.encode_append]

theorem text_ascii : IsAscii l.text := by
  intro c hc
  rcases List.mem_append.1 hc with hc | hc
  · have := l.digits_denote.visible c hc
    omega
  · exact l.extension_ascii c hc

theorem not_mem_text : (10 : UInt8) ∉ encode l.text := by
  apply Utf8.feed_not_mem_encode l.text_ascii
  intro hmem
  rcases List.mem_append.1 hmem with hmem | hmem
  · exact absurd (l.digits_denote.visible _ hmem).1 (by decide)
  · exact l.extension_one_line hmem

theorem read (hn : n < 2 ^ 64) (more : Bytes) : readSize (l.bytes ++ more) = .ok (n, more) := by
  have hsplit : splitLine (l.bytes ++ more) = (l.bytes, more) := by
    rw [bytes_eq]
    exact splitLine_lineEnd l.not_mem_text more
  have hline : (lineText l.bytes).bind chunkSize = .ok n := by
    have := lineText_size l.digits_denote hn l.extension_ascii l.extension_apart isBlankEnd_lineEnd
    rwa [encode_lineEnd] at this
  unfold readSize
  rw [hsplit, hline]

theorem digits_ascii : IsAscii l.digits := fun c hc => l.text_ascii c (List.mem_append_left _ hc)

/-- A size line that is cut off is the last line of the bytes. -/
theorem splitLine_cut (hp : p <+: l.bytes) (hcut : p ≠ l.bytes) : splitLine p = (p, []) := by
  apply splitLine_of_not_mem
  have hreturn : (10 : UInt8) ∉ encode l.text ++ [13] := by
    simpa using l.not_mem_text
  have hbytes : l.bytes = (encode l.text ++ [13]) ++ [10] := by
    rw [bytes_eq, List.append_assoc]
    rfl
  rw [hbytes] at hp hcut
  rcases List.prefix_concat_iff.1 hp with heq | hwithin
  · exact absurd heq hcut
  · exact fun hmem => hreturn (hwithin.subset hmem)

/-- **A size line that is cut off is read as its size, or as that of the digits that are left of it.** -/
theorem read_cut (hn : n < 2 ^ 64) (hp : p <+: l.bytes) (hcut : p ≠ l.bytes) (hne : p ≠ []) :
    ∃ m, m ≤ n ∧ readSize p = .ok (m, []) ∧
      (m = n ∨ ∃ part, part <+: l.digits ∧ Numeral 16 part m ∧ p = encode part) := by
  have hread : ∀ m, (lineText p).bind chunkSize = .ok m → readSize p = .ok (m, []) := by
    intro m hm
    unfold readSize
    rw [l.splitLine_cut hp hcut, hm]
  have hpieces : p <+: encode l.digits ++ (encode l.extension ++ lineEnd) := by
    simpa [bytes] using hp
  rcases cut_cases hpieces with ⟨hdigits, -⟩ | ⟨rest, hrest, rfl⟩
  · -- The cut falls in the size.
    obtain ⟨part, hpart, rfl⟩ := Utf8.exists_of_start_encode l.digits_ascii hdigits
    have hpartne : part ≠ [] := by
      rintro rfl
      exact hne rfl
    obtain ⟨m, hm, hnumeral⟩ := l.digits_denote.exists_of_start (by decide) hpart hpartne
    have hsize := lineText_digits hnumeral (by omega)
    exact ⟨m, hm, hread m hsize, .inr ⟨part, hpart, hnumeral, rfl⟩⟩
  · refine ⟨n, le_rfl, hread n ?_, .inl rfl⟩
    rcases cut_cases hrest with ⟨hextension, -⟩ | ⟨blanks, hblanks, rfl⟩
    · -- The cut falls in the extension.
      obtain ⟨part, hpart, rfl⟩ := Utf8.exists_of_start_encode l.extension_ascii hextension
      have hascii : IsAscii part := fun c hc => l.extension_ascii c (hpart.subset hc)
      have hapart : ∀ c ∈ part.head?, c = ';' := by
        intro c hc
        obtain ⟨others, hothers⟩ := hpart
        apply l.extension_apart
        rw [← hothers, Option.mem_def, List.head?_append, hc]
        rfl
      simpa using lineText_size l.digits_denote hn hascii hapart isBlankEnd_nil
    · -- The cut falls in the end of the line.
      have hend : blanks = encode [] ∨ blanks = encode ['\r'] ∨ blanks = encode ['\r', '\n'] := by
        have hall : ∀ blanks ∈ lineEnd.inits,
            blanks = encode [] ∨ blanks = encode ['\r'] ∨ blanks = encode ['\r', '\n'] := by decide
        exact hall blanks ((List.mem_inits _ _).2 hblanks)
      have hsize : ∀ end', IsBlankEnd end' →
          (lineText (encode l.digits ++ (encode l.extension ++ encode end'))).bind chunkSize = .ok n := by
        intro end' hend'
        rw [← List.append_assoc]
        exact lineText_size l.digits_denote hn l.extension_ascii l.extension_apart hend'
      rcases hend with rfl | rfl | rfl
      · exact hsize [] isBlankEnd_nil
      · exact hsize ['\r'] isBlankEnd_return
      · exact hsize ['\r', '\n'] isBlankEnd_lineEnd

end SizeLine

/-! ## Chunks -/

theorem readPayload_append (payload : Bytes) {line : Bytes} {text : List Char}
    (hsplit : splitLine more = (line, trailing)) (hline : lineText line = .ok text) :
    readPayload payload.length (payload ++ more) = .ok (payload, trailing) := by
  unfold readPayload splitExact
  simp [hsplit, hline]

theorem readPayload_short (h : p.length < n) : readPayload n p = .error .io := by
  unfold readPayload splitExact
  rw [if_neg (by omega)]

theorem readChunks_of_size_error {fault : FetchFault} (h : readSize p = .error fault) :
    readChunks p = .error fault := by
  rw [readChunks]
  split <;> simp_all

theorem readChunks_of_size_zero (h : readSize p = .ok (0, more)) : readChunks p = .ok [] := by
  rw [readChunks]
  split <;> simp_all

theorem readChunks_of_payload_error {fault : FetchFault} (hn : n ≠ 0) (h : readSize p = .ok (n, more))
    (hpayload : readPayload n more = .error fault) : readChunks p = .error fault := by
  rw [readChunks]
  split
  · simp_all
  · next hsize =>
    obtain ⟨rfl, rfl⟩ : n = _ ∧ more = _ := by simpa [h] using hsize
    rw [if_neg hn]
    split <;> simp_all

theorem readChunks_of_payload {payload rest : Bytes} (hn : n ≠ 0) (h : readSize p = .ok (n, more))
    (hpayload : readPayload n more = .ok (payload, rest)) :
    readChunks p = (readChunks rest).map (payload ++ ·) := by
  rw [readChunks]
  split
  · simp_all
  · next hsize =>
    obtain ⟨rfl, rfl⟩ : n = _ ∧ more = _ := by simpa [h] using hsize
    rw [if_neg hn]
    split
    · simp_all
    · next hread =>
      obtain ⟨rfl, rfl⟩ : payload = _ ∧ rest = _ := by simpa [hpayload] using hread
      cases readChunks rest <;> rfl

/-- **A chunk is read as its payload**, whatever follows it. -/
theorem readChunks_chunk (hfits : c.payload.length < 2 ^ 64) (more : Bytes) :
    readChunks (c.bytes ++ more) = (readChunks more).map (c.payload ++ ·) := by
  have hsize : readSize (c.bytes ++ more)
      = .ok (c.payload.length, c.payload ++ (lineEnd ++ more)) := by
    have := c.size.read hfits (c.payload ++ (lineEnd ++ more))
    simpa [Chunk.bytes] using this
  have hsplit := splitLine_of_empty more
  have hline : lineText lineEnd = .ok [] := by
    rw [← encode_lineEnd]
    exact lineText_blanks isBlankEnd_lineEnd
  have hpayload := readPayload_append c.payload hsplit hline
  have hne : c.payload.length ≠ 0 := by simpa using c.payload_ne_nil
  exact readChunks_of_payload hne hsize hpayload

/-! ## Chunks that are cut off -/

/-- The bytes are leading zeros of the size of a chunk. -/
def Chunk.LeadingZeros (c : Chunk) (p : Bytes) : Prop :=
  ∃ zeros, zeros <+: c.size.digits ∧ zeros ≠ [] ∧ (∀ d ∈ zeros, d = '0') ∧ p = encode zeros

theorem Chunk.LeadingZeros.numeral {zeros : List Char} (hstart : zeros <+: c.size.digits)
    (hne : zeros ≠ []) (hzeros : ∀ d ∈ zeros, d = '0') : Numeral 16 zeros 0 := by
  obtain ⟨m, -, hnumeral⟩ := c.size.digits_denote.exists_of_start (by decide) hstart hne
  obtain rfl := (hnumeral.eq_zero_iff (by decide)).2 hzeros
  exact hnumeral

/-- Leading zeros are read as the size that ends the chunks. -/
theorem readChunks_zeros (h : c.LeadingZeros p) : readChunks p = .ok [] := by
  obtain ⟨zeros, hstart, hne, hzeros, rfl⟩ := h
  have hnumeral := Chunk.LeadingZeros.numeral hstart hne hzeros
  have hfeed : (10 : UInt8) ∉ encode zeros := by
    obtain ⟨others, hothers⟩ := hstart
    have hmem := c.size.not_mem_text
    rw [SizeLine.text, ← hothers, List.append_assoc, Utf8.encode_append] at hmem
    exact fun h => hmem (List.mem_append_left _ h)
  have hsize : readSize (encode zeros) = .ok (0, []) := by
    unfold readSize
    rw [splitLine_of_not_mem hfeed, lineText_digits hnumeral (by decide)]
  exact readChunks_of_size_zero hsize

/-- **A chunk that is cut off is a fault**, unless the cut falls behind leading zeros of its size. -/
theorem readChunks_cut (hfits : c.payload.length < 2 ^ 64) (hp : p <+: c.bytes) (hcut : p ≠ c.bytes)
    (h : readChunks p = .ok kept) : kept = [] ∧ c.LeadingZeros p := by
  have hsome : c.payload.length ≠ 0 := by simpa using c.payload_ne_nil
  have hend : readChunks [] ≠ .ok kept := by
    rw [readChunks_of_size_error readSize_nil]
    simp
  have hpieces : p <+: c.size.bytes ++ (c.payload ++ lineEnd) := by
    simpa [Chunk.bytes] using hp
  rcases cut_cases hpieces with ⟨hsize, hsizecut⟩ | ⟨rest, hrest, rfl⟩
  · -- The cut falls in the size line.
    have hne : p ≠ [] := by
      rintro rfl
      exact hend h
    obtain ⟨m, -, hread, hm⟩ := c.size.read_cut hfits hsize hsizecut hne
    by_cases hzero : m = 0
    · subst hzero
      rw [readChunks_of_size_zero hread] at h
      refine ⟨(Except.ok.inj h).symm, ?_⟩
      rcases hm with hm | ⟨part, hpart, hnumeral, rfl⟩
      · exact absurd hm.symm hsome
      · exact ⟨part, hpart, hnumeral.ne_nil, (hnumeral.eq_zero_iff (by decide)).1 rfl, rfl⟩
    · have hshort : readPayload m [] = .error .io := readPayload_short (Nat.pos_of_ne_zero hzero)
      rw [readChunks_of_payload_error hzero hread hshort] at h
      cases h
  · have hread := c.size.read hfits rest
    rcases cut_cases hrest with ⟨hpayload, hpayloadcut⟩ | ⟨ending, hending, rfl⟩
    · -- The cut falls in the payload.
      have hlength : rest.length < c.payload.length := by
        refine Nat.lt_of_le_of_ne hpayload.length_le fun heq => hpayloadcut ?_
        exact hpayload.eq_of_length heq
      rw [readChunks_of_payload_error hsome hread (readPayload_short hlength)] at h
      cases h
    · -- The cut falls behind the payload: there is no further size.
      have hcases : ending = encode [] ∨ ending = encode ['\r'] := by
        have hall : ∀ ending ∈ lineEnd.inits, ending ≠ lineEnd →
            ending = encode [] ∨ ending = encode ['\r'] := by decide
        refine hall ending ((List.mem_inits _ _).2 hending) ?_
        rintro rfl
        exact hcut (by simp [Chunk.bytes])
      have hlast : ∀ blanks, IsBlankEnd blanks → (10 : UInt8) ∉ encode blanks →
          ending = encode blanks → readPayload c.payload.length (c.payload ++ ending)
            = .ok (c.payload, []) := by
        rintro blanks hblanks hfeed rfl
        exact readPayload_append c.payload (splitLine_of_not_mem hfeed) (lineText_blanks hblanks)
      have hpayload : readPayload c.payload.length (c.payload ++ ending) = .ok (c.payload, []) := by
        rcases hcases with heq | heq
        · exact hlast [] isBlankEnd_nil (by simp) heq
        · exact hlast ['\r'] isBlankEnd_return (by decide) heq
      rw [readChunks_of_payload hsome hread hpayload, readChunks_of_size_error readSize_nil] at h
      cases h

/-! ## All chunks -/

/-- Chunks are read one after the other. -/
theorem readChunks_append (hfits : ∀ c ∈ cs, c.payload.length < 2 ^ 64) (more : Bytes) :
    readChunks (chunkBytes cs ++ more) = (readChunks more).map (chunkPayload cs ++ ·) := by
  induction cs with
  | nil => cases hmore : readChunks more <;> simp [chunkBytes, chunkPayload, hmore, Except.map]
  | cons c rest ih =>
    have hrest := ih fun d hd => hfits d (List.mem_cons_of_mem c hd)
    have hsplit : chunkBytes (c :: rest) ++ more = c.bytes ++ (chunkBytes rest ++ more) := by
      simp [chunkBytes]
    rw [hsplit, readChunks_chunk (hfits c List.mem_cons_self), hrest]
    cases readChunks more <;> simp [chunkPayload, Except.map]

/-- **Chunks are read as what they carry**, whatever follows the size of zero. -/
theorem readChunks_body (hfits : ∀ c ∈ cs, c.payload.length < 2 ^ 64) (last : SizeLine 0)
    (trailing : Bytes) :
    readChunks (chunkBytes cs ++ last.bytes ++ trailing) = .ok (chunkPayload cs) := by
  have hlast := readChunks_of_size_zero (last.read (by decide) trailing)
  rw [List.append_assoc, readChunks_append hfits, hlast]
  simp [Except.map]

/-- What a start of chunks is read as: all that they carry, or what the chunks in front of leading
zeros carry. -/
theorem readChunks_start (hfits : ∀ c ∈ cs, c.payload.length < 2 ^ 64) {last : SizeLine 0}
    (hp : p <+: chunkBytes cs ++ last.bytes ++ trailing) (h : readChunks p = .ok kept) :
    kept = chunkPayload cs ∨ ∃ before c after zeros, cs = before ++ c :: after ∧
      c.LeadingZeros zeros ∧ p = chunkBytes before ++ zeros ∧ kept = chunkPayload before := by
  induction cs generalizing p kept with
  | nil =>
    left
    have hpieces : p <+: last.bytes ++ trailing := by simpa [chunkBytes] using hp
    rcases cut_cases hpieces with ⟨hlast, hcut⟩ | ⟨rest, -, rfl⟩
    · have hne : p ≠ [] := by
        rintro rfl
        rw [readChunks_of_size_error readSize_nil] at h
        cases h
      obtain ⟨m, hm, hread, -⟩ := last.read_cut (by decide) hlast hcut hne
      obtain rfl : m = 0 := by omega
      rw [readChunks_of_size_zero hread] at h
      exact (Except.ok.inj h).symm
    · rw [readChunks_of_size_zero (last.read (by decide) rest)] at h
      exact (Except.ok.inj h).symm
  | cons c rest ih =>
    have hpieces : p <+: c.bytes ++ (chunkBytes rest ++ last.bytes ++ trailing) := by
      simpa [chunkBytes] using hp
    rcases cut_cases hpieces with ⟨hwithin, hcut⟩ | ⟨q, hq, rfl⟩
    · -- The cut falls in the first chunk.
      obtain ⟨rfl, hzeros⟩ := readChunks_cut (hfits c List.mem_cons_self) hwithin hcut h
      exact .inr ⟨[], c, rest, p, rfl, hzeros, rfl, rfl⟩
    · rw [readChunks_chunk (hfits c List.mem_cons_self)] at h
      obtain ⟨kept', hkept, rfl⟩ : ∃ kept', readChunks q = .ok kept' ∧ c.payload ++ kept' = kept := by
        cases hread : readChunks q with
        | error fault => simp [hread, Except.map] at h
        | ok kept' => exact ⟨kept', rfl, by simpa [hread, Except.map] using h⟩
      rcases ih (fun d hd => hfits d (List.mem_cons_of_mem c hd)) hq hkept with
        rfl | ⟨before, d, after, zeros, rfl, hzeros, rfl, rfl⟩
      · exact .inl rfl
      · exact .inr ⟨c :: before, d, after, zeros, rfl, hzeros, by simp [chunkBytes], rfl⟩

end GuestHost.Http
