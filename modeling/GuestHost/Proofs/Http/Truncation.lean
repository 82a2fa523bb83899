import GuestHost.Proofs.Http.RoundTrip

/-!
# Replies that are cut off

The end of the connection ends a head as an empty line does, so a reply that is cut off may be taken for
a whole one of a shorter body.

* `Server.fetch_cut_reply` — what is fetched of a reply that is cut off is a start of its payload, and
  exactly which cuts are taken for the end of a whole reply;
* `Server.fetch_cut_behind_status` — a reply cut behind its status line is an empty file;
* `Head.Shows.read`, `Head.shows_of_cut` — a head that is cut off is read by what is there of it.
-/

namespace GuestHost.Http

open Utf8 (text? encode IsAscii)

variable {h : Head} {fs seen : List Field} {p q kept : Bytes} {F : Framing}

/-! ## Heads that are cut off -/

/-- The bytes are the start of a head, cut off before its end, and show some of its fields. The last one
shown may have lost a part of its value. -/
inductive Head.Shows (h : Head) : Bytes → List Field → Prop
  /-- The cut falls behind the code on the status line. -/
  | status {part : Bytes} (hpart : part <+: h.reason ++ [13]) (htext : (text? part).isSome) :
    h.Shows (h.opening ++ part) []
  /-- The cut falls in the name of a field. -/
  | name {before after : List Field} {f : Field} {part : List Char}
    (hfields : h.fields = before ++ f :: after) (hpart : part <+: f.name)
    (hreason : (text? h.reason).isSome) (htext : ∀ f ∈ before, (text? f.value).isSome) :
    h.Shows (h.statusLine ++ lineEnd ++ (fieldLines before ++ encode part)) before
  /-- The cut falls in the value of a field, or in the end of its line. -/
  | value {before after : List Field} {f g : Field}
    (hfields : h.fields = before ++ f :: after) (hname : g.name = f.name)
    (hvalue : g.value <+: f.value ++ [13])
    (hreason : (text? h.reason).isSome) (htext : ∀ f ∈ before ++ [g], (text? f.value).isSome) :
    h.Shows (h.statusLine ++ lineEnd ++ (fieldLines before ++ g.bytes)) (before ++ [g])
  /-- The cut falls in the empty line. -/
  | last {part : Bytes} (hpart : part <+: [13]) (hreason : (text? h.reason).isSome)
    (htext : ∀ f ∈ h.fields, (text? f.value).isSome) :
    h.Shows (h.statusLine ++ lineEnd ++ (fieldLines h.fields ++ part)) h.fields

/-- A status line that is cut off behind its code says 200 if it is a text. -/
theorem statusOf_part {part : Bytes} (hpart : part <+: h.reason ++ [13]) :
    statusOf (h.opening ++ part) = if (text? part).isSome then .ok 200 else .error .io := by
  rcases List.prefix_concat_iff.1 hpart with rfl | hwithin
  · have hreturn : encode ['\r'] = [13] := by decide
    have hread := status_opening (h := h) h.reason_apart isBlankEnd_return
    have htext := text?_append_encode isBlankEnd_return.1 h.reason
    rw [hreturn] at hread htext
    rw [← List.append_assoc, hread, htext, Option.isSome_map]
  · have hapart : ∀ b ∈ part.head?, b = 32 := by
      intro b hb
      obtain ⟨others, hothers⟩ := hwithin
      apply h.reason_apart
      rw [← hothers, Option.mem_def, List.head?_append, hb]
      rfl
    simpa using status_opening (h := h) hapart isBlankEnd_nil

/-- Behind a status line that is cut off there are no header lines. -/
theorem readsHead_part_iff {part rest : Bytes} (hpart : part <+: h.reason ++ [13]) :
    ReadsHead (h.opening ++ part) F rest ↔
      (text? part).isSome ∧ F = .unknown ∧ rest = [] := by
  have hfeed : (10 : UInt8) ∉ h.opening ++ part := by
    have hreason : (10 : UInt8) ∉ h.reason ++ [13] := by simpa using h.reason_one_line
    rw [List.mem_append, not_or]
    exact ⟨h.not_mem_opening, fun hmem => hreason (hpart.subset hmem)⟩
  unfold ReadsHead
  rw [splitLine_of_not_mem hfeed, statusOf_part hpart, readHeaders_nil]
  by_cases htext : (text? part).isSome = true <;> simp [htext, eq_comm]

/-- **A head that is cut off is read by the fields that it shows**, and nothing is left behind it. -/
theorem Head.Shows.read (hshows : h.Shows p seen) :
    ReadsHead p ⟨announcedLength seen, mentionChunks seen⟩ [] := by
  cases hshows with
  | status hpart htext => exact (readsHead_part_iff hpart).2 ⟨htext, rfl, rfl⟩
  | name hfields hpart hreason htext =>
    refine readsHead_iff.2 ⟨hreason, ?_⟩
    rw [readHeaders_fieldLines, if_pos htext, readHeaders_name hpart, foldl_take]
  | @value before after f g hfields hname hvalue hreason htext =>
    have hbefore : ∀ f ∈ before, (text? f.value).isSome := fun f hf =>
      htext f (List.mem_append_left _ hf)
    have hg : (text? g.value).isSome := htext g (by simp)
    refine readsHead_iff.2 ⟨hreason, ?_⟩
    rw [readHeaders_fieldLines, if_pos hbefore, readHeaders_value, if_pos hg,
      ← foldl_take (before ++ [g]), List.foldl_concat]
  | @last part hpart hreason htext =>
    refine readsHead_iff.2 ⟨hreason, ?_⟩
    rw [readHeaders_fieldLines, if_pos htext, foldl_take]
    rcases List.prefix_concat_iff.1 (show part <+: [] ++ [13] from hpart) with rfl | hnil
    · exact readHeaders_return _
    · rw [List.prefix_nil.1 hnil, readHeaders_nil]

/-- Header lines are cut off within the line of a field, or within the empty line. -/
theorem fieldLines_cut (hq : q <+: Head.fieldLines fs ++ lineEnd)
    (hcut : q ≠ Head.fieldLines fs ++ lineEnd) :
    (∃ before f after part, fs = before ++ f :: after ∧ q = Head.fieldLines before ++ part ∧
      part <+: f.bytes ++ [13]) ∨
    ∃ part, q = Head.fieldLines fs ++ part ∧ part <+: [13] := by
  have hstrict : ∀ part line : Bytes, part <+: line ++ lineEnd → part ≠ line ++ lineEnd →
      part <+: line ++ [13] := by
    intro part line hpart hne
    have hline : line ++ lineEnd = (line ++ [13]) ++ [10] := by simp [lineEnd]
    rw [hline] at hpart hne
    exact (List.prefix_concat_iff.1 hpart).resolve_left hne
  induction fs generalizing q with
  | nil => exact .inr ⟨q, rfl, hstrict q [] hq hcut⟩
  | cons f rest ih =>
    have hcons : Head.fieldLines (f :: rest) ++ lineEnd
        = (f.bytes ++ lineEnd) ++ (Head.fieldLines rest ++ lineEnd) := by simp [Head.fieldLines]
    rw [hcons] at hq hcut
    rcases cut_cases hq with ⟨hwithin, hne⟩ | ⟨t, ht, rfl⟩
    · exact .inl ⟨[], f, rest, q, rfl, by simp [Head.fieldLines], hstrict q f.bytes hwithin hne⟩
    · rcases ih ht (fun heq => hcut (by rw [heq])) with
        ⟨before, g, after, part, rfl, rfl, hpart⟩ | ⟨part, rfl, hpart⟩
      · exact .inl ⟨f :: before, g, after, part, rfl, by simp [Head.fieldLines], hpart⟩
      · exact .inr ⟨part, by simp [Head.fieldLines], hpart⟩

/-- A field is cut off within its name, or is there with a part of its value. -/
theorem field_cut {f : Field} (hp : p <+: f.bytes ++ [13]) :
    (∃ name, name <+: f.name ∧ p = encode name) ∨
      ∃ g : Field, g.name = f.name ∧ g.value <+: f.value ++ [13] ∧ p = g.bytes := by
  have hpieces : p <+: encode f.name ++ ([58] ++ (f.value ++ [13])) := by
    simpa [Field.bytes] using hp
  rcases cut_cases hpieces with ⟨hname, -⟩ | ⟨s, hs, rfl⟩
  · exact .inl (Utf8.exists_of_start_encode f.name_ascii hname)
  rcases cut_cases hs with ⟨hcolon, hne⟩ | ⟨value, hvalue, rfl⟩
  · rcases List.prefix_concat_iff.1 (show s <+: [] ++ [58] from hcolon) with heq | hnil
    · exact absurd heq hne
    · exact .inl ⟨f.name, List.prefix_rfl, by rw [List.prefix_nil.1 hnil, List.append_nil]⟩
  · have hfeed : (10 : UInt8) ∉ value := by
      have hline : (10 : UInt8) ∉ f.value ++ [13] := by simpa using f.value_one_line
      exact fun hmem => hline (hvalue.subset hmem)
    exact .inr ⟨⟨f.name, value, f.name_ne_nil, f.name_visible, hfeed⟩, rfl, hvalue, rfl⟩

/-- **Only what shows fields can be read** of a head that is cut off. -/
theorem Head.shows_of_cut {rest : Bytes} (hp : p <+: h.bytes) (hcut : p ≠ h.bytes)
    (hread : ReadsHead p F rest) : ∃ seen, h.Shows p seen := by
  have hbytes : h.bytes = h.opening ++ ((h.reason ++ [13]) ++ ([10] ++
      (Head.fieldLines h.fields ++ lineEnd))) := by simp [Head.bytes, Head.statusLine, lineEnd]
  rw [hbytes] at hp hcut
  rcases cut_cases hp with ⟨hopening, hne⟩ | ⟨s, hs, rfl⟩
  · -- The cut falls before the end of the code.
    have hfeed : (10 : UInt8) ∉ p := fun hmem => h.not_mem_opening (hopening.subset hmem)
    have hstatus := hread.1
    rw [splitLine_of_not_mem hfeed] at hstatus
    exact absurd hstatus (status_cut hopening hne)
  rcases cut_cases hs with ⟨hpart, -⟩ | ⟨t, ht, rfl⟩
  · exact ⟨[], .status hpart ((readsHead_part_iff hpart).1 hread).1⟩
  rcases cut_cases ht with ⟨hnil, hne⟩ | ⟨q, hq, rfl⟩
  · have hpart : h.reason ++ [13] ++ t <+: h.reason ++ [13] := by
      rcases List.prefix_concat_iff.1 (show t <+: [] ++ [10] from hnil) with heq | hnil
      · exact absurd heq hne
      · rw [List.prefix_nil.1 hnil, List.append_nil]
    exact ⟨[], .status hpart ((readsHead_part_iff hpart).1 hread).1⟩
  -- The cut falls behind the status line.
  have hwhole : h.opening ++ ((h.reason ++ [13]) ++ ([10] ++ q)) = h.statusLine ++ lineEnd ++ q := by
    simp [Head.statusLine, lineEnd]
  rw [hwhole] at hread ⊢
  obtain ⟨hreason, hheaders⟩ := readsHead_iff.1 hread
  have htexts : ∀ {before more}, q = Head.fieldLines before ++ more →
      ∀ f ∈ before, (text? f.value).isSome := by
    rintro before more rfl
    rw [readHeaders_fieldLines] at hheaders
    by_contra hnot
    rw [if_neg hnot] at hheaders
    cases hheaders
  rcases fieldLines_cut hq (fun heq => hcut (by rw [heq])) with
    ⟨before, f, after, part, hfields, rfl, hpart⟩ | ⟨part, rfl, hpart⟩
  · have hbefore := htexts rfl
    rcases field_cut hpart with ⟨name, hname, rfl⟩ | ⟨g, hname, hvalue, rfl⟩
    · exact ⟨before, .name hfields hname hreason hbefore⟩
    · have hg : (text? g.value).isSome := by
        have hline : readHeaders (before.foldl Framing.take .unknown) g.bytes = .ok (F, rest) := by
          rw [readHeaders_fieldLines, if_pos hbefore] at hheaders
          exact hheaders
        rw [readHeaders_value] at hline
        by_contra hnot
        rw [if_neg hnot] at hline
        cases hline
      have htext : ∀ f ∈ before ++ [g], (text? f.value).isSome := by
        intro f' hf'
        rcases List.mem_append.1 hf' with hmem | hmem
        · exact hbefore f' hmem
        · rwa [List.mem_singleton.1 hmem]
      exact ⟨before ++ [g], .value hfields hname hvalue hreason htext⟩
  · exact ⟨h.fields, .last hpart hreason (htexts rfl)⟩

/-! ## Bodies that are cut off -/

/-- Nothing is a body of no bytes, unless chunks or a length say otherwise. -/
theorem readBody_nil : readBody F [] = .ok kept ↔
    kept = [] ∧ F.chunked = false ∧ ∀ n, F.length = some n → n = 0 := by
  unfold readBody
  cases hchunked : F.chunked with
  | true =>
    rw [if_pos rfl, readChunks_of_size_error readSize_nil]
    simp
  | false =>
    cases hlength : F.length with
    | none => simp [eq_comm]
    | some n =>
      by_cases hn : n = 0
      · subst hn
        simp [splitExact, Except.map, eq_comm]
      · simp [splitExact, Except.map, hn]

/-- A body whose end its head announces. -/
def Body.IsFramed : Body → Prop
  | .toEnd _ => False
  | _ => True

/-- The bytes end behind leading zeros of the size of one of the chunks. -/
def Body.CutInZeros (body : Body) (q : Bytes) (kept : Bytes) : Prop :=
  ∃ before c after last trailing zeros, body = .chunked (before ++ c :: after) last trailing ∧
    c.LeadingZeros zeros ∧ q = chunkBytes before ++ zeros ∧ kept = chunkPayload before

/-- **A body that is cut off is read whole or not at all**, unless the cut falls behind leading zeros of
the size of a chunk. -/
theorem readBody_cut {r : Reply} (hframed : r.body.IsFramed) (hfits : r.payload.length < 2 ^ 64)
    (hq : q <+: r.body.bytes)
    (h : readBody ⟨announcedLength r.head.fields, mentionChunks r.head.fields⟩ q = .ok kept) :
    kept = r.payload ∨ r.body.CutInZeros q kept := by
  have hframing := framing_announced r hfits
  unfold Reply.payload at hfits ⊢
  cases hbody : r.body with
  | sized payload trailing =>
    rw [hbody] at hframing hq
    obtain ⟨hlength, hchunks⟩ := hframing
    rw [hlength, hchunks] at h
    have hexact : payload.length ≤ q.length ∧ q.take payload.length = kept := by
      by_cases hle : payload.length ≤ q.length
      · exact ⟨hle, by simpa [readBody, splitExact, hle, Except.map] using h⟩
      · simp [readBody, splitExact, hle, Except.map] at h
    have htake : q.take payload.length = payload := by
      have hpayload : payload <+: payload ++ trailing := List.prefix_append _ _
      exact (List.prefix_iff_eq_take.1 (List.prefix_of_prefix_length_le hpayload hq hexact.1)).symm
    exact .inl (hexact.2.symm.trans htake)
  | chunked chunks last trailing =>
    rw [hbody] at hframing hq hfits
    rw [hframing] at h
    rcases readChunks_start (chunk_fits hfits) hq h with
      hkept | ⟨before, c, after, zeros, rfl, hzeros, rfl, rfl⟩
    · exact .inl hkept
    · exact .inr ⟨before, c, after, last, trailing, zeros, rfl, hzeros, rfl, rfl⟩
  | toEnd payload =>
    rw [hbody] at hframed
    exact hframed.elim

theorem Body.CutInZeros.read {r : Reply} (hzeros : r.body.CutInZeros q kept)
    (hfits : r.payload.length < 2 ^ 64) :
    readBody ⟨announcedLength r.head.fields, mentionChunks r.head.fields⟩ q = .ok kept ∧
      kept <+: r.payload ∧ kept ≠ r.payload := by
  have hframing := framing_announced r hfits
  obtain ⟨before, c, after, last, trailing, zeros, hbody, hc, rfl, rfl⟩ := hzeros
  unfold Reply.payload at hfits ⊢
  rw [hbody] at hframing hfits ⊢
  have hbefore : ∀ c ∈ before, c.payload.length < 2 ^ 64 := fun c hc =>
    chunk_fits hfits c (List.mem_append_left _ hc)
  have hpayload : (Body.chunked (before ++ c :: after) last trailing).payload
      = chunkPayload before ++ (c.payload ++ chunkPayload after) := by
    simp [Body.payload, chunkPayload]
  refine ⟨?_, ?_, ?_⟩
  · rw [hframing]
    show readChunks (chunkBytes before ++ zeros) = _
    rw [readChunks_append hbefore, readChunks_zeros hc]
    simp [Except.map]
  · rw [hpayload]
    exact List.prefix_append _ _
  · rw [hpayload]
    simp [c.payload_ne_nil]

/-! ## Replies that are cut off -/

/-- **A cut that goes unnoticed**: in the head, if the fields that are left announce neither chunks nor
a length but zero; or in the body, behind leading zeros of the size of a chunk. -/
def Reply.SilentlyCut (r : Reply) (p : Bytes) : Prop :=
  (∃ seen, r.head.Shows p seen ∧ mentionChunks seen = false ∧
    ∀ n, announcedLength seen = some n → n = 0) ∨
  r.head.IsText ∧ ∃ q kept, p = r.head.bytes ++ q ∧ r.body.CutInZeros q kept

end GuestHost.Http

namespace GuestHost.Server

open Http (Reply)
open Utf8 (encode IsAscii)

/-- **What is fetched of a reply that is cut off** is a start of its payload, and it is all of it unless
the cut goes unnoticed: then, and only then, an incomplete file is a success. -/
theorem fetch_cut_reply {s : Server} {path : String} {r : Reply} {p : Bytes} (hp : p <+: r.bytes)
    (hsends : s.Sends path p) (hframed : r.body.IsFramed) (hsome : r.payload ≠ [])
    (hfits : r.payload.length < 2 ^ 64) :
    (∀ kept, s.fetch path = .ok kept → kept <+: r.payload) ∧
      ((∃ kept, s.fetch path = .ok kept ∧ kept ≠ r.payload) ↔ r.SilentlyCut p) := by
  have hcases : ∀ kept, s.fetch path = .ok kept →
      kept = r.payload ∨ kept <+: r.payload ∧ r.SilentlyCut p := by
    intro kept hkept
    obtain ⟨F, rest, hhead, hbody⟩ := (fetch_eq_ok_iff hsends).1 hkept
    rcases Http.cut_cases (show p <+: r.head.bytes ++ r.body.bytes from hp) with
      ⟨hwithin, hcut⟩ | ⟨q, hq, rfl⟩
    · obtain ⟨seen, hshows⟩ := Http.Head.shows_of_cut hwithin hcut hhead
      obtain ⟨rfl, rfl⟩ := hhead.unique hshows.read
      obtain ⟨rfl, hchunks, hlength⟩ := Http.readBody_nil.1 hbody
      exact .inr ⟨by simp, .inl ⟨seen, hshows, hchunks, hlength⟩⟩
    · obtain ⟨htext, rfl, rfl⟩ := Http.readsHead_bytes_iff.1 hhead
      rcases Http.readBody_cut hframed hfits hq hbody with hwhole | hzeros
      · exact .inl hwhole
      · exact .inr ⟨(hzeros.read hfits).2.1, .inr ⟨htext, _, kept, rfl, hzeros⟩⟩
  refine ⟨fun kept hkept => ?_, ⟨?_, ?_⟩⟩
  · rcases hcases kept hkept with rfl | ⟨hstart, -⟩
    · exact List.prefix_rfl
    · exact hstart
  · rintro ⟨kept, hkept, hne⟩
    exact ((hcases kept hkept).resolve_left hne).2
  · rintro (⟨seen, hshows, hchunks, hlength⟩ | ⟨htext, q, kept, rfl, hzeros⟩)
    · have hbody := (Http.readBody_nil (F := ⟨_, _⟩)).2 ⟨rfl, hchunks, hlength⟩
      exact ⟨[], (fetch_eq_ok_iff hsends).2 ⟨_, _, hshows.read, hbody⟩, hsome.symm⟩
    · obtain ⟨hbody, -, hne⟩ := hzeros.read hfits
      have hhead := (Http.readsHead_bytes_iff (q := q)).2 ⟨htext, rfl, rfl⟩
      exact ⟨kept, (fetch_eq_ok_iff hsends).2 ⟨_, _, hhead, hbody⟩, hne⟩

/-- A field that announces three bytes. -/
def threeBytes : Http.Field :=
  ⟨"Content-Length".toList, encode " 3".toList, by decide, Text.forall_mem_of_all (by decide),
    by decide⟩

theorem announces_threeBytes :
    (Http.Head.plain [threeBytes]).Announces (.sized (encode "abc".toList) []) := by
  refine ⟨⟨_, List.mem_cons_self, by decide⟩, ?_, by decide⟩
  intro f hf _
  rw [List.mem_singleton.1 hf]
  exact ⟨" ".toList, "3".toList, [], by decide, by simp, .digit (by decide) (.inl rfl), by simp⟩

/-- Three bytes behind their length. -/
def shortReply : Reply := ⟨.plain [threeBytes], .sized (encode "abc".toList) [], announces_threeBytes⟩

/-- What is left of it if the connection ends behind the status line. -/
def shortReplyCut : Bytes := encode "HTTP/1.1 200 OK\r\n".toList

theorem fetch_cut_shortReply :
    shortReplyCut <+: shortReply.bytes ∧ shortReply.body.IsFramed ∧ shortReply.payload ≠ [] ∧
      shortReply.payload.length < 2 ^ 64 ∧
      ((∃ kept, (answering shortReplyCut).fetch "" = .ok kept ∧ kept ≠ shortReply.payload) ↔
        shortReply.SilentlyCut shortReplyCut) := by
  have hstart : shortReplyCut <+: shortReply.bytes := by decide
  have hsome : shortReply.payload ≠ [] := by decide
  have hfits : shortReply.payload.length < 2 ^ 64 := by decide
  exact ⟨hstart, trivial, hsome, hfits,
    (fetch_cut_reply hstart (answering_sends _) trivial hsome hfits).2⟩

/-- **An incomplete file can be a success**: cut behind its status line, a reply of three bytes is read
as one of none. -/
theorem fetch_cut_behind_status :
    ¬ ∀ (s : Server) (path : String) (r : Reply) (p : Bytes), r.head.IsText → r.body.IsFramed →
      r.payload ≠ [] → p <+: r.bytes → p ≠ r.bytes → s.Sends path p →
        s.fetch path = .ok r.payload ∨ ∃ fault, s.fetch path = .error fault := by
  intro hall
  have htext : shortReply.head.IsText := by
    apply Http.Head.isText_plain
    intro f hf
    rw [List.mem_singleton.1 hf]
    exact ⟨" 3".toList, by simp [IsAscii], rfl⟩
  have hempty : (answering shortReplyCut).fetch "" = .ok [] := by decide +kernel
  have hcut := hall _ "" shortReply shortReplyCut htext trivial (by decide) (by decide) (by decide)
    (answering_sends _)
  rw [hempty] at hcut
  rcases hcut with hwhole | ⟨fault, hfault⟩
  · revert hwhole
    decide
  · cases hfault

end GuestHost.Server
