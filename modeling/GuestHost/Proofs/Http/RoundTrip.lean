import GuestHost.Proofs.Http.Body

/-!
# Fetching what a server sends

* `Server.fetch_reply` — a fetch gives exactly what a reply carries, whichever way the reply carries it
  and whatever else is in its head;
* `framing_announced` — a head is read as the framing that it announces.
-/

namespace GuestHost.Http

open Utf8 (text? encode IsAscii)

variable {f : Field} {fs : List Field} {n : Nat} {r : Reply}

/-! ## What a field announces -/

theorem isBlank_of_padding {padding : List Char} (h : ∀ c ∈ padding, c = ' ' ∨ c = '\t') :
    IsBlankEnd padding := by
  constructor <;> intro c hc <;> rcases h c hc with rfl | rfl <;> decide

/-- A length that is announced is read. -/
theorem Field.length?_of_announces (h : f.AnnouncesLength n) (hn : n < 2 ^ 64) :
    f.length? = some n := by
  obtain ⟨before, digits, after, hvalue, hbefore, hdigits, hafter⟩ := h
  have hvisible : ∀ c ∈ digits, Text.isBlank c = false := fun c hc =>
    Text.isBlank_of_visible (hdigits.visible c hc)
  have htrim := Text.trim_padded (isBlank_of_padding hbefore).2 hvisible hdigits.ne_nil
    (isBlank_of_padding hafter).2
  unfold Field.length?
  rw [hvalue, Utf8.text?_encode, Option.bind_some, htrim]
  exact hdigits.wordOf? hn

/-- Chunks that are announced are read of. -/
theorem Field.mentionsChunks_of_announces (h : f.AnnouncesChunks) : f.mentionsChunks = true := by
  obtain ⟨before, word, after, hvalue, hascii, hword⟩ := h
  have hblank : ∀ c ∈ word, Text.isBlank c = false := by
    have hall : ∀ n : Fin 128, (Char.ofNat n).toLower ∈ "chunked".toList →
        Text.isBlank (Char.ofNat n) = false := by decide +kernel
    intro c hc
    have hc' : c.toNat < 128 := hascii c (by simp [hc])
    have hlower : c.toLower ∈ "chunked".toList := hword ▸ List.mem_map_of_mem hc
    simpa [Char.ofNat_toNat] using hall ⟨c.toNat, hc'⟩ (by simpa [Char.ofNat_toNat] using hlower)
  have htrim : IsAscii (Text.trim (before ++ word ++ after)) := fun c hc =>
    hascii c (Text.trim_subset _ hc)
  have hinfix : "chunked".toList <:+: Text.toLower (Text.trim (before ++ word ++ after)) := by
    rw [Text.toLower_ascii htrim, ← hword]
    exact (Text.infix_trim hblank ⟨before, after, rfl⟩).map Char.toLower
  unfold Field.mentionsChunks
  rw [hvalue, Utf8.text?_encode, Option.any_some]
  exact Text.find?_isSome_iff.2 hinfix

/-! ## What a head announces -/

theorem announcedLength_of_all (hsome : ∃ f ∈ fs, f.IsNamed Field.lengthName)
    (hall : ∀ f ∈ fs, f.IsNamed Field.lengthName → f.AnnouncesLength n) (hn : n < 2 ^ 64) :
    announcedLength fs = some n := by
  unfold announcedLength
  cases hlast : (fs.filter fun f => f.IsNamed Field.lengthName).getLast? with
  | none =>
    obtain ⟨f, hf, hnamed⟩ := hsome
    rw [List.getLast?_eq_none_iff, List.filter_eq_nil_iff] at hlast
    exact absurd (by simpa using hnamed) (hlast f hf)
  | some f =>
    have hmem := List.mem_filter.1 (List.mem_of_getLast? hlast)
    exact Field.length?_of_announces (hall f hmem.1 (by simpa using hmem.2)) hn

theorem announcedLength_of_none (hnone : ∀ f ∈ fs, ¬ f.IsNamed Field.lengthName) :
    announcedLength fs = none := by
  unfold announcedLength
  rw [List.filter_eq_nil_iff.2 (by simpa using hnone)]
  rfl

theorem mentionChunks_of_none (hnone : ∀ f ∈ fs, ¬ f.IsNamed Field.codingName) :
    mentionChunks fs = false := by
  unfold mentionChunks
  rw [List.any_eq_false]
  intro f hf
  simp [hnone f hf]

theorem mentionChunks_of_some (hsome : ∃ f ∈ fs, f.IsNamed Field.codingName ∧ f.AnnouncesChunks) :
    mentionChunks fs = true := by
  obtain ⟨f, hf, hnamed, hchunks⟩ := hsome
  unfold mentionChunks
  rw [List.any_eq_true]
  exact ⟨f, hf, by simp [hnamed, Field.mentionsChunks_of_announces hchunks]⟩

/-- The framing that a head announces, as far as it is needed to read the body. -/
theorem framing_announced (r : Reply) (hfits : r.payload.length < 2 ^ 64) :
    match r.body with
    | .sized payload _ =>
      announcedLength r.head.fields = some payload.length ∧ mentionChunks r.head.fields = false
    | .chunked _ _ _ => mentionChunks r.head.fields = true
    | .toEnd _ => announcedLength r.head.fields = none ∧ mentionChunks r.head.fields = false := by
  have hannounced := r.announced
  unfold Reply.payload at hfits
  cases hbody : r.body with
  | sized payload trailing =>
    rw [hbody] at hannounced hfits
    obtain ⟨hsome, hall, hcoding⟩ := hannounced
    exact ⟨announcedLength_of_all hsome hall hfits, mentionChunks_of_none hcoding⟩
  | chunked chunks last trailing =>
    rw [hbody] at hannounced
    exact mentionChunks_of_some hannounced
  | toEnd payload =>
    rw [hbody] at hannounced
    exact ⟨announcedLength_of_none fun f hf => (hannounced f hf).1,
      mentionChunks_of_none fun f hf => (hannounced f hf).2⟩

/-- A head of version 1.1 with the usual word behind the code. -/
def Head.plain (fields : List Field) : Head where
  version := "1.1".toList
  reason := encode " OK".toList
  fields := fields
  version_visible := Text.forall_mem_of_all (by decide)
  reason_one_line := by decide
  reason_apart := by
    rintro b ⟨⟩
    rfl

theorem Head.isText_plain {fields : List Field}
    (hfields : ∀ f ∈ fields, ∃ value, IsAscii value ∧ f.value = encode value) :
    (Head.plain fields).IsText := by
  constructor
  · show (text? (encode " OK".toList)).isSome
    rw [Utf8.text?_encode]
    rfl
  · intro f hf
    obtain ⟨value, hascii, hvalue⟩ := hfields f hf
    rw [hvalue, Utf8.text?_encode]
    rfl

/-! ## Whole replies -/

/-- Chunks fit if their payload does. -/
theorem chunk_fits {cs : List Chunk} (h : (chunkPayload cs).length < 2 ^ 64) :
    ∀ c ∈ cs, c.payload.length < 2 ^ 64 := by
  intro c hc
  obtain ⟨before, after, rfl⟩ := List.append_of_mem hc
  simp only [chunkPayload, List.flatMap_append, List.flatMap_cons, List.length_append] at h
  omega

/-- A body is read as what it carries, by the framing that its head announces. -/
theorem readBody_announced (r : Reply) (hfits : r.payload.length < 2 ^ 64) :
    readBody ⟨announcedLength r.head.fields, mentionChunks r.head.fields⟩ r.body.bytes
      = .ok r.payload := by
  have hframing := framing_announced r hfits
  unfold Reply.payload at hfits ⊢
  cases hbody : r.body with
  | sized payload trailing =>
    rw [hbody] at hframing
    obtain ⟨hlength, hchunks⟩ := hframing
    rw [hlength, hchunks]
    simp [readBody, splitExact, Body.bytes, Body.payload, Except.map]
  | chunked chunks last trailing =>
    rw [hbody] at hframing hfits
    rw [hframing]
    exact readChunks_body (chunk_fits hfits) last trailing
  | toEnd payload =>
    rw [hbody] at hframing
    obtain ⟨hlength, hchunks⟩ := hframing
    rw [hlength, hchunks]
    rfl

end GuestHost.Http

namespace GuestHost.Server

open Http (Reply)
open Utf8 (encode IsAscii)

/-- **A fetch gives exactly what a reply carries**: behind an announced length, in chunks of any sizes,
or up to the end of the connection; chunks count whatever length is announced beside them. Header fields
may stand in any order, with names in either letter case, and other fields may hold any text. -/
theorem fetch_reply {s : Server} {path : String} {r : Reply} (hsends : s.Sends path r.bytes)
    (htext : r.head.IsText) (hfits : r.payload.length < 2 ^ 64) : s.fetch path = .ok r.payload := by
  have hhead := (Http.readsHead_bytes_iff (q := r.body.bytes)).2 ⟨htext, rfl, rfl⟩
  exact (fetch_eq_ok_iff hsends).2 ⟨_, _, hhead, Http.readBody_announced r hfits⟩

/-- Twelve bytes in two chunks, one with an extension and one with a size in upper case, beside a length
that is not theirs. -/
def mixedReply : Reply where
  head := .plain
    [⟨"CONTENT-length".toList, encode " 7".toList, by decide, Text.forall_mem_of_all (by decide),
        by decide⟩,
      ⟨"Server".toList, encode "".toList, by decide, Text.forall_mem_of_all (by decide), by decide⟩,
      ⟨"transfer-Encoding".toList, encode " Chunked".toList, by decide,
        Text.forall_mem_of_all (by decide), by decide⟩]
  body := .chunked
    [⟨[13, 10], by decide,
        ⟨"02".toList, ";x".toList,
          .snoc (s := ['0']) (n := 0) (d := 2) (.digit (by decide) (.inl rfl)) (by decide) (.inl rfl),
          by simp, by simp [IsAscii], by decide⟩⟩,
      ⟨[65, 66, 67, 68, 69, 70, 71, 72, 73, 255], by decide,
        ⟨"A".toList, [], .digit (by decide) (.inr rfl), by simp, by simp [IsAscii], by decide⟩⟩]
    ⟨"0".toList, [], .digit (by decide) (.inl rfl), by simp, by simp [IsAscii], by decide⟩
    (encode "\r\n".toList)
  announced := ⟨_, List.mem_cons_of_mem _ (List.mem_cons_of_mem _ List.mem_cons_self), by decide,
    " ".toList, "Chunked".toList, [], by simp, by simp [IsAscii], by decide⟩

theorem fetch_mixedReply :
    mixedReply.head.IsText ∧ mixedReply.payload.length < 2 ^ 64 ∧
      (answering mixedReply.bytes).fetch "" = .ok mixedReply.payload := by
  have htext : mixedReply.head.IsText := by
    apply Http.Head.isText_plain
    intro f hf
    simp only [List.mem_cons, List.not_mem_nil, or_false] at hf
    rcases hf with rfl | rfl | rfl
    · exact ⟨" 7".toList, by simp [IsAscii], rfl⟩
    · exact ⟨"".toList, by simp [IsAscii], rfl⟩
    · exact ⟨" Chunked".toList, by simp [IsAscii], rfl⟩
  have hfits : mixedReply.payload.length < 2 ^ 64 := by decide
  exact ⟨htext, hfits, fetch_reply (answering_sends _) htext hfits⟩

end GuestHost.Server
