import GuestHost.Proofs.Text.Transcoding
import GuestHost.Proofs.TextObjects.Arrays

/-!
# Character sets

Two natives transcode between an array of scalar values and an array of bytes. What a native makes of the
elements is a list of ints (`CharsetNative.transcoded`), and the two lists undo each other wherever nothing
is left out or replaced.

* `Host.NamesUtf8` — what is a character set for the host; it stays one while objects and texts are kept;
* `CharsetNative.transcoded_decode_encode`, `CharsetNative.transcoded_encode_decode` — there and back;
* `CharsetNative.exists_transcodes`, `CharsetNative.exists_transcodes_back` — a native makes one new array of
  what it transcoded, and two natives give the elements back;
* `charset_round_trips` — the natives one after the other.
-/

namespace GuestHost

open GuestHost.Action

/-- All elements of an array are ints. -/
def Host.HoldsInts (h : Host) (array : Value) (ns : List Int32) : Prop :=
  h.arrayValues array = .ok (ns.map Value.int)

/-- The name that the host reads for a character set is that of UTF-8. -/
def Host.NamesUtf8 (h : Host) (charset : Value) : Prop :=
  ∃ name, (CharsetNative.charsetName charset).apply h = (.ok name, h) ∧
    CharsetNative.isUtf8 name = true

/-- A native makes a new array of `ns` out of an array, whatever it is called on, and keeps every text and
every other array. -/
structure Host.Transcodes (h : Host) (native : CharsetNative) (charset array made : Value)
    (ns : List Int32) (h' : Host) : Prop where
  runs : ∀ this, (native.run [this, charset, array]).apply h = (.ok made, h')
  fresh : h.contents.arrays made = none
  contents : h'.contents = h.contents.withArray made (ns.map Value.int)

namespace Host

variable {h h' : Host} {charset array made : Value} {ns : List Int32} {native : CharsetNative}

theorem Transcodes.holdsInts (ht : h.Transcodes native charset array made ns h') :
    h'.HoldsInts made ns := arrayValues_withArray ht.contents

/-! ## Naming a character set -/

/-- What the name of a character set is read from: its name field, or else the set itself. -/
def nameHolder (h : Host) (charset : Value) : Value :=
  match charset with
  | .ref r =>
    match h.heap.field r CharsetNative.nameField with
    | .ok name => if name.isNull then .ref r else name
    | .error _ => .ref r
  | v => v

theorem apply_charsetName (h : Host) (charset : Value) :
    (CharsetNative.charsetName charset).apply h = (h.text (h.nameHolder charset), h) := by
  unfold CharsetNative.charsetName
  rw [apply_bind, apply_get]
  cases charset with
  | ref r =>
    simp only [nameHolder]
    cases h.heap.field r CharsetNative.nameField with
    | error fault => rfl
    | ok name => cases hnull : name.isNull <;> simp only [hnull] <;> rfl
  | null | int | long | float | double | handle => rfl

/-- The name is read from the same value while objects are kept. -/
theorem nameHolder_of_kept {name : String} (hname : h.text (h.nameHolder charset) = .ok name)
    (hobjects : ∀ r o, h.heap.get? r = some (.object o) → h'.heap.get? r = some (.object o)) :
    h'.nameHolder charset = h.nameHolder charset := by
  cases charset with
  | ref r =>
    cases ho : h.heap.object r with
    | ok o =>
      have hkept := Heap.object_eq_ok.2 (hobjects r o (Heap.object_eq_ok.1 ho))
      simp only [nameHolder, Heap.field, ho, hkept]
    | error fault =>
      -- Without an object there is neither a field nor a text.
      simp only [nameHolder, Heap.field, ho, text, Heap.text] at hname
      cases hname
  | null | int | long | float | double | handle => rfl

theorem NamesUtf8.apply_requireUtf8 (hutf8 : h.NamesUtf8 charset) :
    (CharsetNative.requireUtf8 charset).apply h = (.ok (), h) := by
  obtain ⟨name, hname, hisUtf8⟩ := hutf8
  unfold CharsetNative.requireUtf8
  rw [apply_bind_of_ok hname, if_pos hisUtf8, apply_pure]

/-- A character set keeps its name while objects and texts are kept. -/
theorem NamesUtf8.of_kept (hutf8 : h.NamesUtf8 charset)
    (hobjects : ∀ r o, h.heap.get? r = some (.object o) → h'.heap.get? r = some (.object o))
    (htexts : ∀ v s, h.text v = .ok s → h'.text v = .ok s) : h'.NamesUtf8 charset := by
  obtain ⟨name, hname, hisUtf8⟩ := hutf8
  rw [apply_charsetName] at hname
  have hread : h.text (h.nameHolder charset) = .ok name := congrArg Prod.fst hname
  refine ⟨name, ?_, hisUtf8⟩
  rw [apply_charsetName, nameHolder_of_kept hread hobjects, htexts _ _ hread]

end Host

/-- A new array leaves every object as it is. -/
theorem Action.keepsObjects_newArray (items : List Value) : KeepsObjects (newArray items) := by
  intro h r o ho
  cases hm : h.mode with
  | direct =>
    rw [apply_newArray_direct hm]
    exact Heap.get?_alloc_of_some ho _
  | exported =>
    rw [apply_newArray_exported hm]
    exact keepsObjects_onModule _ h r o ho

namespace CharsetNative

variable {h h' : Host} {charset array made : Value} {ns : List Int32}

/-! ## There and back -/

/-- What a native makes of the ints in an array. -/
def transcoded : CharsetNative → List Int32 → List Int32
  | .decode, ns => (Utf8.decodeLossy (ns.map Text.toByte)).map Text.ofChar
  | .encode, ns => (Utf8.encode (Text.ofScalars ns)).map Text.ofByte

theorem isByte_of_mem_encode {n : Int32} (hn : n ∈ transcoded .encode ns) : Text.IsByte n := by
  obtain ⟨b, -, rfl⟩ := List.mem_map.1 hn
  exact Text.isByte_ofByte b

theorem transcoded_decode_encode (hscalar : ∀ n ∈ ns, Text.IsScalar n) :
    transcoded .decode (transcoded .encode ns) = ns := by
  have hbytes : (transcoded .encode ns).map Text.toByte = Utf8.encode (Text.ofScalars ns) := by
    rw [transcoded, List.map_map]
    exact (List.map_congr_left fun b _ => Text.toByte_ofByte b).trans (List.map_id _)
  rw [transcoded, hbytes, Utf8.decodeLossy_encode, Text.map_ofChar_ofScalars,
    List.filter_eq_self.2 fun n hn => by simpa using hscalar n hn]

theorem transcoded_encode_decode (hbyte : ∀ n ∈ ns, Text.IsByte n)
    (htext : (Utf8.text? (ns.map Text.toByte)).isSome) :
    transcoded .encode (transcoded .decode ns) = ns := by
  obtain ⟨cs, hcs⟩ := Option.isSome_iff_exists.1 htext
  have hencode : ns.map Text.toByte = Utf8.encode cs := Utf8.text?_eq_some_iff.1 hcs
  calc transcoded .encode (transcoded .decode ns)
    _ = (Utf8.encode cs).map Text.ofByte := by
      rw [transcoded, transcoded, hencode, Utf8.decodeLossy_encode, Text.ofScalars_map_ofChar]
    _ = (ns.map Text.toByte).map Text.ofByte := by rw [hencode]
    _ = ns := by
      rw [List.map_map]
      exact (List.map_congr_left fun n hn => Text.ofByte_toByte (hbyte n hn)).trans (List.map_id _)

/-! ## One native -/

theorem run_eq (native : CharsetNative) (args : List Value) :
    native.run args
      = elements args >>= fun ns => newArray ((native.transcoded ns).map Value.int) := by
  cases native with
  | decode =>
    simp only [transcoded, List.map_map]
    rfl
  | encode =>
    simp only [transcoded, List.map_map]
    rfl

theorem apply_elements (hutf8 : h.NamesUtf8 charset) (harray : h.HoldsInts array ns) (this : Value) :
    (elements [this, charset, array]).apply h = (.ok ns, h) := by
  have hvalues : (arrayValues array).apply h = (.ok (ns.map Value.int), h) := apply_view_of_ok harray
  have hints : Args.ints (ns.map Value.int) = .ok ns := Args.ints_eq_ok.2 rfl
  have hcharset : Args.get [this, charset, array] 1 = .ok charset := Args.get_eq_ok.2 rfl
  have htaken : Args.get [this, charset, array] 2 = .ok array := Args.get_eq_ok.2 rfl
  unfold elements
  rw [hcharset, apply_bind_of_ok (apply_ofResult _), apply_bind_of_ok hutf8.apply_requireUtf8, htaken,
    apply_bind_of_ok (apply_ofResult _), apply_bind_of_ok hvalues, hints, apply_ofResult]

theorem readsOnly_elements (args : List Value) : ReadsOnly (elements args) := by
  have hname : ∀ charset, ReadsOnly (charsetName charset) := by
    intro charset h
    rw [Host.apply_charsetName]
  have hutf8 : ∀ charset, ReadsOnly (requireUtf8 charset) := fun charset =>
    (hname charset).bind fun name => by
      cases hisUtf8 : isUtf8 name
      · exact readsOnly_ofResult _
      · exact readsOnly_pure _
  exact (readsOnly_ofResult _).bind fun charset => (hutf8 charset).bind fun _ =>
    (readsOnly_ofResult _).bind fun array => (readsOnly_view _).bind fun _ => readsOnly_ofResult _

/-- Whatever an encoder is called with, the array that it answers with holds bytes. -/
theorem isByte_of_encode (hh : h.HoldsTexts) (hroom : h.storeSize < 2 ^ 32) {args : List Value}
    (hrun : (run .encode args).apply h = (.ok made, h')) :
    ∃ ms, h'.HoldsInts made ms ∧ ∀ m ∈ ms, Text.IsByte m := by
  rw [run_eq] at hrun
  obtain ⟨ns, h₁, helements, hnew⟩ := apply_bind_eq_ok.1 hrun
  obtain rfl : h₁ = h := by
    have hread := readsOnly_elements args h
    rwa [helements] at hread
  obtain ⟨v, h₂, hnew', -, -, hmade⟩ :=
    Host.newArray_of_holdsTexts hh ((transcoded .encode ns).map Value.int)
  obtain ⟨hv, rfl⟩ : Except.ok v = .ok made ∧ h₂ = h' := Prod.ext_iff.1 (hnew'.symm.trans hnew)
  obtain rfl : v = made := Except.ok.inj hv
  exact ⟨transcoded .encode ns, Host.arrayValues_withArray (hmade hroom).2,
    fun m hm => isByte_of_mem_encode hm⟩

/-- A native makes one new array of what it transcoded. -/
theorem exists_transcodes (native : CharsetNative) (hh : h.HoldsTexts) (hroom : h.storeSize < 2 ^ 32)
    (hutf8 : h.NamesUtf8 charset) (harray : h.HoldsInts array ns) :
    ∃ made h', h.Transcodes native charset array made (native.transcoded ns) h' ∧ h'.HoldsTexts ∧
      h'.storeSize = h.storeSize + 1 ∧ h'.NamesUtf8 charset := by
  obtain ⟨made, h', hnew, hholds, hsize, hmade⟩ :=
    Host.newArray_of_holdsTexts hh ((native.transcoded ns).map Value.int)
  obtain ⟨hfresh, hcontents⟩ := hmade hroom
  refine ⟨made, h', ⟨fun this => ?_, hfresh, hcontents⟩, hholds, hsize, ?_⟩
  · rw [run_eq, apply_bind_of_ok (apply_elements hutf8 harray this), hnew]
  · refine hutf8.of_kept (fun r o ho => ?_) fun v s hs => Host.text_withArray hcontents hs
    have hkept := keepsObjects_newArray ((native.transcoded ns).map Value.int) h r o ho
    rwa [hnew] at hkept

/-- Two natives one after the other give an array of the same elements if the second undoes the first. -/
theorem exists_transcodes_back (native other : CharsetNative) (hh : h.HoldsTexts)
    (hroom : h.storeSize + 1 < 2 ^ 32) (hutf8 : h.NamesUtf8 charset) (harray : h.HoldsInts array ns)
    (hback : other.transcoded (native.transcoded ns) = ns) :
    ∃ made ms h₁ made' h₂, h.Transcodes native charset array made ms h₁ ∧
      h₁.Transcodes other charset made made' ns h₂ ∧ h₂.HoldsInts made' ns := by
  obtain ⟨made, h₁, hmade, hh₁, hsize, hutf8₁⟩ :=
    native.exists_transcodes hh (Nat.lt_of_succ_lt hroom) hutf8 harray
  obtain ⟨made', h₂, hmade', -⟩ :=
    other.exists_transcodes hh₁ (hsize ▸ hroom) hutf8₁ hmade.holdsInts
  rw [hback] at hmade'
  exact ⟨made, _, h₁, made', h₂, hmade, hmade', hmade'.holdsInts⟩

end CharsetNative

/-! ## Both natives -/

/-- **Character sets round trip.** Where a character set names UTF-8, an array of scalar values that is
encoded and then decoded gives an array of the same elements, and so does an array of well-formed bytes that
is decoded and then encoded. What is encoded of ints are the UTF-8 bytes of the scalar values among them, in
their order, each as an int with a sign; no int beyond a byte is ever in an answer. Every text and every
other array is kept. -/
theorem charset_round_trips {h : Host} {charset : Value} (hh : h.HoldsTexts)
    (hroom : h.storeSize + 1 < 2 ^ 32) (hutf8 : h.NamesUtf8 charset) :
    (Imports.standard.find? "bytelink.classlib.CharsetDecoder"
          "$C$decodeFromBytes$Ljava$nio$charset$Charset$$$B"
        = some ⟨.onInstance, .builtin (.charset .decode)⟩ ∧
      Imports.standard.find? "bytelink.classlib.CharsetEncoder"
          "$B$encodeToBytes$Ljava$nio$charset$Charset$$$C"
        = some ⟨.onInstance, .builtin (.charset .encode)⟩) ∧
    (∀ array ns, h.HoldsInts array ns → (∀ n ∈ ns, Text.IsScalar n) →
      ∃ encoded bs h₁ decoded h₂, h.Transcodes .encode charset array encoded bs h₁ ∧
        h₁.Transcodes .decode charset encoded decoded ns h₂ ∧ h₂.HoldsInts decoded ns) ∧
    (∀ array bs, h.HoldsInts array bs → (∀ b ∈ bs, Text.IsByte b) →
      (Utf8.text? (bs.map Text.toByte)).isSome →
      ∃ decoded ns h₁ encoded h₂, h.Transcodes .decode charset array decoded ns h₁ ∧
        h₁.Transcodes .encode charset decoded encoded bs h₂ ∧ h₂.HoldsInts encoded bs) ∧
    (∀ array ns, h.HoldsInts array ns →
      ∃ encoded h₁ cs, ns.filter (fun n => Text.IsScalar n) = cs.map Text.ofChar ∧
        h.Transcodes .encode charset array encoded ((Utf8.encode cs).map Text.ofByte) h₁) ∧
    ∀ args encoded h₁, (CharsetNative.run .encode args).apply h = (.ok encoded, h₁) →
      ∃ bs, h₁.HoldsInts encoded bs ∧ ∀ b ∈ bs, Text.IsByte b := by
  have hfirst : h.storeSize < 2 ^ 32 := Nat.lt_of_succ_lt hroom
  refine ⟨⟨Builtin.find?_of_mem_listings (by simp [Builtin.listings, Builtin.charsetListings, Builtin.of]),
    Builtin.find?_of_mem_listings (by simp [Builtin.listings, Builtin.charsetListings, Builtin.of])⟩,
    fun array ns harray hscalar => ?_, fun array bs harray hbyte htext => ?_,
    fun array ns harray => ?_, fun args encoded h₁ => CharsetNative.isByte_of_encode hh hfirst⟩
  · exact CharsetNative.exists_transcodes_back .encode .decode hh hroom hutf8 harray
      (CharsetNative.transcoded_decode_encode hscalar)
  · exact CharsetNative.exists_transcodes_back .decode .encode hh hroom hutf8 harray
      (CharsetNative.transcoded_encode_decode hbyte htext)
  · obtain ⟨encoded, h₁, hencoded, -⟩ :=
      CharsetNative.exists_transcodes .encode hh hfirst hutf8 harray
    exact ⟨encoded, h₁, Text.ofScalars ns, (Text.map_ofChar_ofScalars ns).symm, hencoded⟩

/-- A character set with a name field, and three arrays: characters of one to four bytes, the bytes of
two characters, and a character between a surrogate and a negative number. -/
theorem charset_round_trips_in_heap :
    let charset : Object := ⟨rootClass, .ofList [("canonicalName", .ref ⟨1⟩)], .empty⟩
    let name : Object := ⟨CoreClass.string, .empty, .text "utf-8"⟩
    let scalars : List Int32 := [0x61, 0xE9, 0x20AC, 0x1F600]
    let bytes : List Int32 := [0x61, -61, -87]
    let mixed : List Int32 := [0xD800, 0xE9, -1]
    let h : Host :=
      { config := {}, heap := ⟨#[.object charset, .object name, .array (scalars.map Value.int),
          .array (bytes.map Value.int), .array (mixed.map Value.int)]⟩,
        registry := CoreClass.registry, linkage := .empty, files := .empty,
        source := .staged (.ofList []), imports := .standard, attached := none,
        surroundings := { millis := 0, seed := 0 } }
    h.HoldsTexts ∧ h.storeSize + 1 < 2 ^ 32 ∧ h.NamesUtf8 (.ref ⟨0⟩) ∧
      (∃ encoded bs h₁ decoded h₂, h.Transcodes .encode (.ref ⟨0⟩) (.ref ⟨2⟩) encoded bs h₁ ∧
        h₁.Transcodes .decode (.ref ⟨0⟩) encoded decoded scalars h₂) ∧
      (∃ decoded ns h₁ encoded h₂, h.Transcodes .decode (.ref ⟨0⟩) (.ref ⟨3⟩) decoded ns h₁ ∧
        h₁.Transcodes .encode (.ref ⟨0⟩) decoded encoded bytes h₂) ∧
      ∃ encoded h₁, h.Transcodes .encode (.ref ⟨0⟩) (.ref ⟨4⟩) encoded [-61, -87] h₁ := by
  intro charset name scalars bytes mixed h
  have hh : h.HoldsTexts := fun hm => nomatch hm
  have hroom : h.storeSize + 1 < 2 ^ 32 := by decide +kernel
  have hutf8 : h.NamesUtf8 (.ref ⟨0⟩) := by
    refine ⟨"utf-8", ?_, by decide +kernel⟩
    rw [Host.apply_charsetName]
    rfl
  have hscalars : scalars.all (fun n => Text.IsScalar n) = true := by decide +kernel
  have hbytes : bytes.all (fun n => Text.IsByte n) = true := by decide +kernel
  obtain ⟨-, hthere, hback, hmixed, -⟩ := charset_round_trips hh hroom hutf8
  refine ⟨hh, hroom, hutf8, ?_, ?_, ?_⟩
  · obtain ⟨encoded, bs, h₁, decoded, h₂, hencode, hdecode, -⟩ :=
      hthere (.ref ⟨2⟩) scalars rfl (by simpa using hscalars)
    exact ⟨encoded, bs, h₁, decoded, h₂, hencode, hdecode⟩
  · obtain ⟨decoded, ns, h₁, encoded, h₂, hdecode, hencode, -⟩ :=
      hback (.ref ⟨3⟩) bytes rfl (by simpa using hbytes) (by decide +kernel)
    exact ⟨decoded, ns, h₁, encoded, h₂, hdecode, hencode⟩
  · obtain ⟨encoded, h₁, cs, hcs, hencode⟩ := hmixed (.ref ⟨4⟩) mixed rfl
    obtain rfl : cs = ['é'] := by
      rw [← Text.ofScalars_map_ofChar cs, ← hcs]
      decide +kernel
    exact ⟨encoded, h₁, hencode⟩

end GuestHost
