import GuestHost.Proofs.Http.Reply

/-!
# Heads, read line by line

A head is read by lines up to an empty one or to the end of the bytes, and each header field is taken
into account as it comes.

* `fetch_eq_ok_iff` — a fetch gives bytes exactly if the status line says 200, the header lines can be
  read, and the rest is a body of these bytes by the framing that they announce;
* `status_opening` — the status line of a head of status 200 says so, however much of it there is behind
  the code;
* `readHeaders_fieldLines`, `readHeaders_name`, `readHeaders_value` — the framing that fields announce,
  the last of which may be cut off;
* `foldl_take` — chunks are announced by any field, the length by the last one.
-/

namespace GuestHost.Http

open Utf8 (text? encode IsAscii)

variable {bs line more value : Bytes} {f : Field} {fs : List Field} {F : Framing} {h : Head}

/-! ## Cuts -/

/-- What is put together from two pieces is cut off within the first, or at or behind its end. -/
theorem cut_cases {α : Type} {part first second : List α} (h : part <+: first ++ second) :
    (part <+: first ∧ part ≠ first) ∨ ∃ rest, rest <+: second ∧ part = first ++ rest := by
  rcases List.prefix_or_prefix_of_prefix h (List.prefix_append first second) with hwithin | hbehind
  · by_cases heq : part = first
    · exact .inr ⟨[], by simp, by simpa using heq⟩
    · exact .inl ⟨hwithin, heq⟩
  · obtain ⟨rest, rfl⟩ := hbehind
    exact .inr ⟨rest, (List.prefix_append_right_inj first).1 h, rfl⟩

/-! ## Lines -/

theorem splitLine_append (hline : (10 : UInt8) ∉ line) (more : Bytes) :
    splitLine (line ++ 10 :: more) = (line ++ [10], more) := by
  induction line with
  | nil => simp [splitLine]
  | cons b rest ih =>
    obtain ⟨hb, hrest⟩ := not_or.1 (mt List.mem_cons.2 hline)
    simp [splitLine, ih hrest, Ne.symm hb]

theorem splitLine_of_not_mem (hline : (10 : UInt8) ∉ line) : splitLine line = (line, []) := by
  induction line with
  | nil => simp [splitLine]
  | cons b rest ih =>
    obtain ⟨hb, hrest⟩ := not_or.1 (mt List.mem_cons.2 hline)
    simp [splitLine, ih hrest, Ne.symm hb]

theorem splitLine_lineEnd (hline : (10 : UInt8) ∉ line) (more : Bytes) :
    splitLine (line ++ lineEnd ++ more) = (line ++ lineEnd, more) := by
  have hcr : (10 : UInt8) ∉ line ++ [13] := by simpa using hline
  simpa [lineEnd] using splitLine_append hcr more

theorem splitLine_of_empty (more : Bytes) : splitLine (lineEnd ++ more) = (lineEnd, more) :=
  splitLine_lineEnd List.not_mem_nil more

theorem lineText_of_text {cs : List Char} (h : text? bs = some cs) :
    lineText bs = .ok (Text.trim cs) := by
  unfold lineText
  unfold text? at h
  cases hdecode : Utf8.decode bs <;> simp_all [Except.toOption]

theorem lineText_of_none (h : text? bs = none) : lineText bs = .error .io := by
  unfold lineText
  unfold text? at h
  cases hdecode : Utf8.decode bs <;> simp_all [Except.toOption]

/-- Blanks at the end of a line, in ASCII. -/
def IsBlankEnd (blanks : List Char) : Prop := IsAscii blanks ∧ ∀ c ∈ blanks, Text.isBlank c = true

theorem isBlankEnd_nil : IsBlankEnd [] := ⟨fun _ h => (List.not_mem_nil h).elim, by simp⟩

theorem isBlankEnd_return : IsBlankEnd ['\r'] := by
  constructor <;> intro c hc <;> rw [List.mem_singleton.1 hc] <;> decide

theorem isBlankEnd_lineEnd : IsBlankEnd ['\r', '\n'] := by
  constructor <;> intro c hc <;>
    rcases List.mem_pair.1 hc with rfl | rfl <;> decide

theorem encode_lineEnd : encode ['\r', '\n'] = lineEnd := by decide

theorem text?_append_encode {blanks : List Char} (hblanks : IsAscii blanks) (value : Bytes) :
    text? (value ++ encode blanks) = (text? value).map (· ++ blanks) := by
  cases hvalue : text? value with
  | some v => rw [Utf8.text?_append hvalue, Utf8.text?_encode]; rfl
  | none =>
    cases blanks with
    | nil => simpa using hvalue
    | cons c rest =>
      have hc : c.toNat < 128 := hblanks c List.mem_cons_self
      have hlt : Utf8.byte c.toNat < 0x80 := by
        rw [UInt8.lt_iff_toNat_lt, Utf8.toNat_byte (by omega)]
        exact hc
      rw [Utf8.encode_cons, Utf8.encodeChar_of_ascii hc]
      exact Utf8.text?_append_eq_none hvalue hlt _

/-- A line is text, then any bytes, then blanks. -/
theorem lineText_append (start : List Char) (value : Bytes) {blanks : List Char}
    (hblanks : IsBlankEnd blanks) :
    lineText (encode start ++ value ++ encode blanks)
      = match text? value with
        | some v => .ok (Text.trim (start ++ v ++ blanks))
        | none => .error .io := by
  have hwhole : text? (encode start ++ value ++ encode blanks)
      = (text? value).map (start ++ · ++ blanks) := by
    rw [List.append_assoc, Utf8.text?_encode_append, text?_append_encode hblanks.1,
      Option.map_map]
    cases text? value <;> simp
  cases hvalue : text? value with
  | some v =>
    rw [hvalue] at hwhole
    exact lineText_of_text hwhole
  | none =>
    rw [hvalue] at hwhole
    exact lineText_of_none hwhole

/-! ## The status line -/

theorem Head.opening_ascii (h : Head) : IsAscii ("HTTP/".toList ++ h.version ++ " 200".toList) := by
  intro c hc
  simp only [List.mem_append] at hc
  rcases hc with (hc | hc) | hc
  · revert c
    exact Text.forall_mem_of_all (by decide)
  · have := h.version_visible c hc
    omega
  · revert c
    exact Text.forall_mem_of_all (by decide)

theorem Head.not_mem_opening (h : Head) : (10 : UInt8) ∉ h.opening := by
  apply Utf8.feed_not_mem_encode h.opening_ascii
  intro hmem
  simp only [List.mem_append] at hmem
  rcases hmem with (hmem | hmem) | hmem
  · exact absurd hmem (by decide)
  · exact absurd (h.version_visible _ hmem).1 (by decide)
  · exact absurd hmem (by decide)

theorem Head.not_mem_statusLine (h : Head) : (10 : UInt8) ∉ h.statusLine := by
  unfold Head.statusLine
  simp [h.not_mem_opening, h.reason_one_line]

/-- The code is the word behind the first space. -/
theorem readStatus_of_version {version rest : List Char} (hspace : ' ' ∉ version)
    (hhttp : "HTTP/".toList.isPrefixOf version = true) :
    readStatus (version ++ ' ' :: rest)
      = match Radix.wordOf? 16 10 (splitSpace rest).1 with
        | some n => .ok n
        | none =>
          .error (.protocol ("invalid status code " ++ Text.quoted (splitSpace rest).1)) := by
  have hword : (version ++ ' ' :: rest).takeWhile (· ≠ ' ') = version := by
    have hpos : ∀ c ∈ version, decide (c ≠ ' ') = true := by
      intro c hc
      rw [decide_eq_true_iff]
      rintro rfl
      exact hspace hc
    rw [List.takeWhile_append_of_pos hpos]
    simp
  have hsplit : splitSpace (version ++ ' ' :: rest) = (version, some rest) := by
    unfold splitSpace
    simp only [hword, List.drop_left]
  unfold readStatus
  cases hword : Radix.wordOf? 16 10 (splitSpace rest).1 <;> simp only [hsplit, hhttp, if_true, hword]

theorem readStatus_of_no_space {line : List Char} (hspace : ' ' ∉ line) :
    ∃ fault, readStatus line = .error fault := by
  have hword : line.takeWhile (· ≠ ' ') = line := by
    rw [List.takeWhile_eq_self_iff]
    intro c hc
    rw [decide_eq_true_iff]
    rintro rfl
    exact hspace hc
  have hsplit : splitSpace line = (line, none) := by
    unfold splitSpace
    simp only [hword, List.drop_length]
  unfold readStatus
  simp only [hsplit]
  exact ⟨_, rfl⟩

theorem Head.version_facts (h : Head) :
    ' ' ∉ "HTTP/".toList ++ h.version ∧
      "HTTP/".toList.isPrefixOf ("HTTP/".toList ++ h.version) = true := by
  refine ⟨fun hmem => ?_, List.isPrefixOf_iff_prefix.2 (List.prefix_append _ _)⟩
  rcases List.mem_append.1 hmem with hc | hc
  · revert hc
    decide
  · have := h.version_visible _ hc
    revert this
    decide

theorem Head.version_no_blank (h : Head) :
    ∀ c ∈ "HTTP/".toList ++ h.version, Text.isBlank c = false := by
  intro c hc
  apply Text.isBlank_of_visible
  rcases List.mem_append.1 hc with hc | hc
  · have hall : ∀ c ∈ "HTTP/".toList, 32 < c.toNat ∧ c.toNat < 127 :=
      Text.forall_mem_of_all (by decide)
    exact hall c hc
  · exact h.version_visible c hc

/-- The status in a status line. -/
def statusOf (line : Bytes) : Result Nat := (lineText line).bind readStatus

/-- **A status line of status 200 says so**, as far as it is there: whatever follows the code, a space
comes first. -/
theorem status_opening {rest : Bytes} (hrest : ∀ b ∈ rest.head?, b = 32) {blanks : List Char}
    (hblanks : IsBlankEnd blanks) :
    statusOf (h.opening ++ rest ++ encode blanks)
      = if (text? rest).isSome then .ok 200 else .error .io := by
  unfold statusOf Head.opening
  rw [lineText_append _ _ hblanks]
  cases hw : text? rest with
  | none => rfl
  | some w =>
    -- What is left of the line behind the code is nothing, or starts with a space.
    have hspace : ∀ c ∈ (Text.trimEnd w).head?, c = ' ' := by
      cases rest with
      | nil =>
        obtain rfl : [] = w := by simpa using hw
        simp [Text.trimEnd]
      | cons b rest =>
        obtain rfl : b = 32 := hrest b rfl
        have hcons : text? (32 :: rest) = (text? rest).map ([' '] ++ ·) :=
          Utf8.text?_encode_append [' '] rest
        rw [hcons] at hw
        obtain ⟨w', -, rfl⟩ := Option.map_eq_some_iff.1 hw
        by_cases hne : Text.trimEnd w' = []
        · have hall := Text.trimEnd_eq_nil_iff.1 hne
          have hnil : Text.trimEnd (' ' :: w') = [] := by
            rw [Text.trimEnd_eq_nil_iff]
            intro c hc
            rcases List.mem_cons.1 hc with rfl | hc
            · decide
            · exact hall c hc
          simp [hnil]
        · have hkept : Text.trimEnd (' ' :: w') = ' ' :: Text.trimEnd w' :=
            Text.trimEnd_append hne [' ']
          intro c hc
          have hc' : c ∈ (Text.trimEnd (' ' :: w')).head? := hc
          rw [hkept] at hc'
          exact (Option.some.inj hc').symm
    have htrim : Text.trim ("HTTP/".toList ++ h.version ++ " 200".toList ++ w ++ blanks)
        = ("HTTP/".toList ++ h.version) ++ ' ' :: ("200".toList ++ Text.trimEnd w) := by
      have hhead : Text.isBlank 'H' = false := by decide
      have hzero : Text.isBlank '0' = false := by decide
      have hpieces := Text.trimEnd_append_cons hzero ("HTTP/".toList ++ h.version ++ " 20".toList) w
      calc Text.trim ("HTTP/".toList ++ h.version ++ " 200".toList ++ w ++ blanks)
          = Text.trimEnd ("HTTP/".toList ++ h.version ++ " 200".toList ++ w ++ blanks) :=
            Text.trim_of_head hhead _
        _ = Text.trimEnd ("HTTP/".toList ++ h.version ++ " 20".toList ++ '0' :: w) := by
            rw [Text.trimEnd_append_blanks hblanks.2]
            simp
        _ = _ := by
            rw [hpieces]
            simp
    have hcode : (splitSpace ("200".toList ++ Text.trimEnd w)).1 = "200".toList := by
      unfold splitSpace
      cases hw' : Text.trimEnd w with
      | nil => simp
      | cons c w' =>
        obtain rfl : c = ' ' := hspace c (by simp [hw'])
        simp
    obtain ⟨hversion, hhttp⟩ := h.version_facts
    show readStatus (Text.trim ("HTTP/".toList ++ h.version ++ " 200".toList ++ w ++ blanks)) = _
    rw [htrim, readStatus_of_version hversion hhttp, hcode]
    have hword : Radix.wordOf? 16 10 "200".toList = some 200 := by decide
    rw [hword]
    rfl

/-- A status line that is cut off within its code does not say 200. -/
theorem status_cut {part : Bytes} (hpart : part <+: h.opening) (hne : part ≠ h.opening) :
    statusOf part ≠ .ok 200 := by
  -- The part is an ASCII text as well: some of the version, or all of it and some of the code.
  obtain ⟨t, ht, rfl⟩ := Utf8.exists_of_start_encode h.opening_ascii hpart
  obtain ⟨hspace, hhttp⟩ := h.version_facts
  have hline : lineText (encode t) = .ok (Text.trim t) :=
    lineText_of_text (Utf8.text?_encode _)
  unfold statusOf
  rw [hline]
  show readStatus (Text.trim t) ≠ _
  rcases cut_cases ht with ⟨hversion, -⟩ | ⟨s, hs, rfl⟩
  · have hblank : ∀ c ∈ t, Text.isBlank c = false := by
      intro c hc
      exact h.version_no_blank c (hversion.subset hc)
    obtain ⟨fault, hfault⟩ := readStatus_of_no_space fun hmem => hspace (hversion.subset hmem)
    rw [Text.trim_of_no_blank hblank, hfault]
    simp
  · have hstrict : s ≠ " 200".toList := by
      rintro rfl
      exact hne rfl
    have hcases : s = [] ∨ s = [' '] ∨ s = " 2".toList ∨ s = " 20".toList := by
      have hall : ∀ s ∈ " 200".toList.inits, s ≠ " 200".toList →
          s = [] ∨ s = [' '] ∨ s = " 2".toList ∨ s = " 20".toList := by decide
      exact hall s ((List.mem_inits _ _).2 hs) hstrict
    have hblanks : (∀ c ∈ s, Text.isBlank c = true) →
        readStatus (Text.trim ("HTTP/".toList ++ h.version ++ s)) ≠ .ok 200 := by
      intro hs
      have htrim := Text.trim_word_append h.version_no_blank (by simp) hs
      obtain ⟨fault, hfault⟩ := readStatus_of_no_space hspace
      rw [htrim, hfault]
      simp
    have hcode : ∀ code n, s = ' ' :: code → Text.trimEnd code = code → code ≠ [] →
        Radix.wordOf? 16 10 (splitSpace code).1 = some n → n ≠ 200 →
          readStatus (Text.trim ("HTTP/".toList ++ h.version ++ s)) ≠ .ok 200 := by
      rintro code n rfl hend hcode hword hn
      have hhead : Text.isBlank 'H' = false := by decide
      have hlast := Text.trimEnd_append (by rwa [hend]) ("HTTP/".toList ++ h.version ++ [' '])
      have htrim : Text.trim ("HTTP/".toList ++ h.version ++ ' ' :: code)
          = "HTTP/".toList ++ h.version ++ ' ' :: code := by
        rw [hend] at hlast
        rw [show "HTTP/".toList ++ h.version ++ ' ' :: code
          = "HTTP/".toList ++ h.version ++ [' '] ++ code by simp]
        exact (Text.trim_of_head hhead _).trans hlast
      rw [htrim, readStatus_of_version hspace hhttp, hword]
      simpa using hn
    rcases hcases with rfl | rfl | rfl | rfl
    · exact hblanks (by simp)
    · exact hblanks (Text.forall_mem_of_all (by decide))
    · exact hcode ['2'] 2 rfl (by decide) (by simp) (by decide) (by decide)
    · exact hcode ['2', '0'] 20 rfl (by decide) (by simp) (by decide) (by decide)

/-! ## Header fields -/

/-- The length that a field announces, as it is read. -/
def Field.length? (f : Field) : Option Nat :=
  (text? f.value).bind fun v => Radix.wordOf? 64 10 (Text.trim v)

/-- Whether a field announces chunks, as it is read. -/
def Field.mentionsChunks (f : Field) : Bool :=
  (text? f.value).any fun v => (Text.find? "chunked".toList (Text.toLower (Text.trim v))).isSome

/-- The framing after one more field. -/
def Framing.take (F : Framing) (f : Field) : Framing :=
  if f.IsNamed Field.lengthName then { F with length := f.length? }
  else if f.IsNamed Field.codingName then { F with chunked := F.chunked || f.mentionsChunks }
  else F

theorem Field.name_ascii (f : Field) : IsAscii f.name := fun c hc => by
  have := f.name_visible c hc
  omega

theorem Field.name_no_blank (f : Field) : ∀ c ∈ f.name, Text.isBlank c = false := fun c hc =>
  Text.isBlank_of_visible ⟨(f.name_visible c hc).1, (f.name_visible c hc).2.1⟩

/-- A field with its colon, and with the blanks at its end cut off. -/
theorem lineText_field {blanks : List Char} (hblanks : IsBlankEnd blanks) :
    lineText (f.bytes ++ encode blanks)
      = match text? f.value with
        | some v => .ok (f.name ++ ':' :: Text.trimEnd v)
        | none => .error .io := by
  have hbytes : f.bytes = encode (f.name ++ [':']) ++ f.value := by
    rw [Field.bytes, Utf8.encode_append, List.append_assoc]
    rfl
  rw [hbytes, lineText_append _ _ hblanks]
  cases text? f.value with
  | none => rfl
  | some v =>
    obtain ⟨c, rest, hname⟩ := List.exists_cons_of_ne_nil f.name_ne_nil
    have hc : Text.isBlank c = false := f.name_no_blank c (by simp [hname])
    have hcolon : Text.isBlank ':' = false := by decide
    have htrim : Text.trim (f.name ++ [':'] ++ v ++ blanks)
        = Text.trimEnd (f.name ++ ':' :: v ++ blanks) := by
      rw [hname]
      simpa using Text.trim_of_head hc (rest ++ [':'] ++ v ++ blanks)
    simp only [htrim, Text.trimEnd_append_blanks hblanks.2, Text.trimEnd_append_cons hcolon]

/-- A field is taken into account by its name and by the text of its value. -/
theorem header_field {v : List Char} (hv : text? f.value = some v) (F : Framing) :
    F.header (f.name ++ ':' :: Text.trimEnd v) = F.take f := by
  have hkey : (f.name ++ ':' :: Text.trimEnd v).takeWhile (· ≠ ':') = f.name := by
    rw [List.takeWhile_append_of_pos (by
      intro c hc
      simpa using (f.name_visible c hc).2.2)]
    simp
  have hname : Text.toLower (Text.trim f.name) = f.name.map Char.toLower := by
    rw [Text.trim_of_no_blank f.name_no_blank, Text.toLower_ascii f.name_ascii]
  unfold Framing.header Framing.take Field.IsNamed
  simp only [hkey, List.drop_left, hname, Text.trim_trimEnd, Field.length?, Field.mentionsChunks, hv,
    Option.bind_some, Option.any_some, Field.lengthName, Field.codingName]

/-! ## Header lines -/

@[simp] theorem readHeaders_nil (F : Framing) : readHeaders F [] = .ok (F, []) := by
  rw [readHeaders]
  simp

/-- Reading goes on behind a line that can be read and is not empty. -/
theorem readHeaders_of_line {text : List Char} (hne : bs ≠ [])
    (hline : lineText (splitLine bs).1 = .ok text) (htext : text ≠ []) :
    readHeaders F bs = readHeaders (F.header text) (splitLine bs).2 := by
  rw [readHeaders]
  simp [hne, hline, htext]

/-- An empty line ends a head. -/
theorem readHeaders_of_empty (hne : bs ≠ []) (hline : lineText (splitLine bs).1 = .ok []) :
    readHeaders F bs = .ok (F, (splitLine bs).2) := by
  rw [readHeaders]
  simp [hne, hline]

theorem readHeaders_of_error {fault : FetchFault} (hne : bs ≠ [])
    (hline : lineText (splitLine bs).1 = .error fault) : readHeaders F bs = .error fault := by
  rw [readHeaders]
  simp [hne, hline]

theorem lineText_blanks {blanks : List Char} (hblanks : IsBlankEnd blanks) :
    lineText (encode blanks) = .ok [] := by
  have h := lineText_append [] [] hblanks
  simpa [Text.trim_blanks hblanks.2] using h

theorem readHeaders_lineEnd (F : Framing) (more : Bytes) :
    readHeaders F (lineEnd ++ more) = .ok (F, more) := by
  have hsplit := splitLine_of_empty more
  have hline : lineText (splitLine (lineEnd ++ more)).1 = .ok [] := by
    rw [hsplit, ← encode_lineEnd]
    exact lineText_blanks isBlankEnd_lineEnd
  rw [readHeaders_of_empty (by simp [lineEnd]) hline, hsplit]

theorem readHeaders_return (F : Framing) : readHeaders F [13] = .ok (F, []) := by
  have hsplit : splitLine [13] = ([13], []) := splitLine_of_not_mem (by decide)
  have hline : lineText (splitLine [13]).1 = .ok [] := by
    rw [hsplit]
    exact lineText_blanks isBlankEnd_return
  rw [readHeaders_of_empty (by simp) hline, hsplit]

theorem Field.not_mem_bytes (f : Field) : (10 : UInt8) ∉ f.bytes := by
  have hname : (10 : UInt8) ∉ encode f.name := by
    apply Utf8.feed_not_mem_encode f.name_ascii
    intro hmem
    exact absurd (f.name_visible _ hmem).1 (by decide)
  simp [Field.bytes, hname, f.value_one_line]

theorem Field.bytes_ne_nil (f : Field) : f.bytes ≠ [] := by simp [Field.bytes]

/-- The line of a field, with or without its end. -/
theorem readHeaders_field {blanks : List Char} (hblanks : IsBlankEnd blanks)
    (hsplit : splitLine bs = (f.bytes ++ encode blanks, more)) (hne : bs ≠ []) :
    readHeaders F bs
      = if (text? f.value).isSome then readHeaders (F.take f) more else .error .io := by
  have hline := lineText_field (f := f) hblanks
  cases hv : text? f.value with
  | none =>
    rw [hv] at hline
    rw [readHeaders_of_error hne (by rw [hsplit]; exact hline)]
    rfl
  | some v =>
    rw [hv] at hline
    rw [readHeaders_of_line hne (by rw [hsplit]; exact hline) (by simp), hsplit, header_field hv]
    rfl

/-- Fields announce a framing one after the other. -/
theorem readHeaders_fieldLines (F : Framing) (fs : List Field) (more : Bytes) :
    readHeaders F (Head.fieldLines fs ++ more)
      = if ∀ f ∈ fs, (text? f.value).isSome then readHeaders (fs.foldl Framing.take F) more
        else .error .io := by
  induction fs generalizing F with
  | nil => simp [Head.fieldLines]
  | cons f rest ih =>
    have hsplit : splitLine (Head.fieldLines (f :: rest) ++ more)
        = (f.bytes ++ encode ['\r', '\n'], Head.fieldLines rest ++ more) := by
      rw [encode_lineEnd, ← splitLine_lineEnd f.not_mem_bytes]
      simp [Head.fieldLines]
    have hne : Head.fieldLines (f :: rest) ++ more ≠ [] := by
      simp [Head.fieldLines, f.bytes_ne_nil]
    rw [readHeaders_field isBlankEnd_lineEnd hsplit hne, ih]
    by_cases hf : (text? f.value).isSome = true <;> simp [hf]

/-- A field that is cut off within its name announces nothing. -/
theorem readHeaders_name {part : List Char} (hpart : part <+: f.name) (F : Framing) :
    readHeaders F (encode part) = .ok (F, []) := by
  cases part with
  | nil => simp
  | cons c rest =>
    have hmem : ∀ d ∈ c :: rest, d ∈ f.name := hpart.subset
    have hascii : IsAscii (c :: rest) := fun d hd => f.name_ascii d (hmem d hd)
    have hfeed : (10 : UInt8) ∉ encode (c :: rest) := by
      obtain ⟨tail, htail⟩ := hpart
      have := f.not_mem_bytes
      rw [Field.bytes, ← htail, Utf8.encode_append] at this
      simp only [List.mem_append, not_or] at this
      exact this.1.1
    have hsplit := splitLine_of_not_mem hfeed
    have hne : encode (c :: rest) ≠ [] := by
      simp [Utf8.encode_cons, Utf8.encodeChar_of_ascii (hascii c List.mem_cons_self)]
    have hline : lineText (splitLine (encode (c :: rest))).1 = .ok (c :: rest) := by
      rw [hsplit, lineText_of_text (Utf8.text?_encode _),
        Text.trim_of_no_blank fun d hd => f.name_no_blank d (hmem d hd)]
    have hheader : F.header (c :: rest) = F := by
      have hkey : (c :: rest).takeWhile (· ≠ ':') = c :: rest := by
        rw [List.takeWhile_eq_self_iff]
        intro d hd
        simpa using (f.name_visible d (hmem d hd)).2.2
      unfold Framing.header
      simp only [hkey, List.drop_length]
    rw [readHeaders_of_line hne hline (by simp), hsplit, hheader, readHeaders_nil]

/-- The last line may lack its end. -/
theorem readHeaders_value (F : Framing) (f : Field) :
    readHeaders F f.bytes
      = if (text? f.value).isSome then .ok (F.take f, []) else .error .io := by
  have hsplit : splitLine f.bytes = (f.bytes ++ encode [], []) := by
    simpa using splitLine_of_not_mem f.not_mem_bytes
  simpa using readHeaders_field (F := F) isBlankEnd_nil hsplit f.bytes_ne_nil

/-! ## What fields announce together -/

/-- The length that fields announce: that of the last one with its name. -/
def announcedLength (fs : List Field) : Option Nat :=
  (fs.filter fun f => f.IsNamed Field.lengthName).getLast?.bind Field.length?

/-- Whether fields announce chunks. -/
def mentionChunks (fs : List Field) : Bool :=
  fs.any fun f => f.IsNamed Field.codingName && f.mentionsChunks

theorem not_isNamed_both : ¬ (f.IsNamed Field.lengthName ∧ f.IsNamed Field.codingName) := by
  rintro ⟨hlength, hcoding⟩
  have heq := hlength.symm.trans hcoding
  revert heq
  decide

/-- The framing that fields announce. -/
theorem foldl_take (fs : List Field) :
    fs.foldl Framing.take .unknown = ⟨announcedLength fs, mentionChunks fs⟩ := by
  induction fs using List.reverseRecOn with
  | nil => rfl
  | append_singleton fs f ih =>
    rw [List.foldl_concat, ih]
    unfold Framing.take announcedLength mentionChunks
    by_cases hlength : f.IsNamed Field.lengthName
    · have hcoding : ¬ f.IsNamed Field.codingName := fun h => not_isNamed_both ⟨hlength, h⟩
      simp [hlength, hcoding]
    · by_cases hcoding : f.IsNamed Field.codingName <;> simp [hlength, hcoding]

/-! ## Fetches -/

/-- What is read of a response of status 200 before its body: the framing, and the bytes that are left
for the body. -/
def ReadsHead (bs : Bytes) (F : Framing) (rest : Bytes) : Prop :=
  statusOf (splitLine bs).1 = .ok 200 ∧ readHeaders .unknown (splitLine bs).2 = .ok (F, rest)

theorem ReadsHead.unique {rest rest' : Bytes} {F' : Framing} (h : ReadsHead bs F rest)
    (h' : ReadsHead bs F' rest') : F = F' ∧ rest = rest' := by
  have heq := h.2.symm.trans h'.2
  simpa using heq

/-- A response is one of status 200 with a body exactly if its parts can be read so. -/
theorem readResponse_eq_ok_iff {body : Bytes} :
    readResponse .get bs = .ok ⟨200, body⟩ ↔
      ∃ F rest, ReadsHead bs F rest ∧ readBody F rest = .ok body := by
  unfold readResponse ReadsHead statusOf
  cases lineText (splitLine bs).1 with
  | error fault => simp [bind, Except.bind]
  | ok text =>
    simp only [bind, Except.bind]
    cases readStatus text with
    | error fault => simp
    | ok status =>
      cases readHeaders .unknown (splitLine bs).2 with
      | error fault => simp
      | ok head =>
        obtain ⟨F, rest⟩ := head
        cases hbody : readBody F rest <;> simp [pure, Except.pure, hbody]

theorem splitLine_statusLine (h : Head) (more : Bytes) :
    splitLine (h.statusLine ++ lineEnd ++ more) = (h.statusLine ++ lineEnd, more) :=
  splitLine_lineEnd h.not_mem_statusLine more

theorem statusOf_statusLine (h : Head) :
    statusOf (h.statusLine ++ lineEnd) = if (text? h.reason).isSome then .ok 200 else .error .io := by
  have := status_opening (h := h) h.reason_apart isBlankEnd_lineEnd
  rwa [encode_lineEnd] at this

/-- Behind a whole status line, the head is read by its header lines. -/
theorem readsHead_iff {q rest : Bytes} :
    ReadsHead (h.statusLine ++ lineEnd ++ q) F rest ↔
      (text? h.reason).isSome ∧ readHeaders .unknown q = .ok (F, rest) := by
  unfold ReadsHead
  rw [splitLine_statusLine, statusOf_statusLine]
  by_cases hreason : (text? h.reason).isSome = true <;> simp [hreason]

/-- A whole head is read as the framing that its fields announce. -/
theorem readsHead_bytes_iff {q rest : Bytes} :
    ReadsHead (h.bytes ++ q) F rest ↔
      h.IsText ∧ F = ⟨announcedLength h.fields, mentionChunks h.fields⟩ ∧ rest = q := by
  have hbytes : h.bytes ++ q
      = h.statusLine ++ lineEnd ++ (Head.fieldLines h.fields ++ (lineEnd ++ q)) := by
    simp [Head.bytes]
  rw [hbytes, readsHead_iff, readHeaders_fieldLines, readHeaders_lineEnd, foldl_take]
  unfold Head.IsText
  by_cases htext : ∀ f ∈ h.fields, (text? f.value).isSome = true
  · rw [if_pos htext]
    constructor
    · rintro ⟨hreason, hread⟩
      cases hread
      exact ⟨⟨hreason, htext⟩, rfl, rfl⟩
    · rintro ⟨⟨hreason, -⟩, rfl, rfl⟩
      exact ⟨hreason, rfl⟩
  · rw [if_neg htext]
    simp [htext]

end GuestHost.Http

namespace GuestHost.Server

/-- **A fetch gives bytes** exactly if the status line says 200, the header lines can be read, and the
rest is a body of these bytes. -/
theorem fetch_eq_ok_iff {s : Server} {path : String} {bytes body : Bytes} (h : s.Sends path bytes) :
    s.fetch path = .ok body ↔
      ∃ F rest, Http.ReadsHead bytes F rest ∧ Http.readBody F rest = .ok body := by
  rw [fetch_eq h, ← Http.readResponse_eq_ok_iff]
  cases Http.readResponse .get bytes with
  | error fault => simp [Except.bind]
  | ok response =>
    obtain ⟨status, body'⟩ := response
    by_cases hstatus : status = 200 <;> simp [Except.bind, hstatus]

end GuestHost.Server
