import GuestHost.Proofs.Arrays.Filling
import GuestHost.Proofs.Text.Search
import GuestHost.Proofs.TextObjects.Arrays

/-!
# The characters of a string

Guest code gets at the characters of a string in four ways: one at a time, as a window that is copied into
an array, as a new array, and the other way round from an array. Each native reads the text anew, and all
of them see the same elements.

* `Text.elements` — a text as the elements of an array;
* `TextNative.showsElements_of_text` — the natives that read show these elements behind a value;
* `TextNative.apply_toCharArray`, `TextNative.apply_initializeFromChars` — an array is made of all of them,
  and a text of some;
* `character_views_agree` — the four ways together.
-/

namespace GuestHost

open GuestHost.Action

/-- The elements that a text comes to in an array: one for each scalar value. -/
def Text.elements (cs : List Char) : List Value := cs.map Value.ofChar

/-- The natives that read a text show these elements: their number, each of them, and each window of them,
which is stored wherever an array that is kept has room for it. -/
structure Host.ShowsElements (h : Host) (v : Value) (elements : List Value) : Prop where
  length : ∃ n : Int32, (TextNative.run .length [v]).apply h = (.ok (.int n), h) ∧
    n.toInt = elements.length
  charAt : ∀ i : Int32, 0 ≤ i.toInt → (hi : i.toInt.toNat < elements.length) →
    (TextNative.run .charAt [v, .int i]).apply h = (.ok elements[i.toInt.toNat], h)
  charAt_refused : ∀ i : Int32, ¬ (0 ≤ i.toInt ∧ i.toInt.toNat < elements.length) →
    Refuses (TextNative.run .charAt [v, .int i]) h
  getChars : ∀ (first last place : Int32) (array : Value) (room : Nat),
    0 ≤ first.toInt → first.toInt ≤ last.toInt → last.toInt ≤ elements.length →
    h.KeepsArray array → h.arrayLength array = .ok room → 0 ≤ place.toInt →
    place.toInt + (last.toInt - first.toInt) ≤ room →
    ∃ h', (TextNative.run .getChars [v, .int first, .int last, array, .int place]).apply h
        = (.ok .null, h') ∧
      h.Fills h' array place.toInt.toNat
        ((elements.drop first.toInt.toNat).take (last.toInt - first.toInt).toNat) ∧
      h.OnlyArrays h'

namespace Text

@[simp] theorem length_elements (cs : List Char) : (elements cs).length = cs.length := List.length_map _

theorem window_elements (cs : List Char) (start n : Nat) :
    ((elements cs).drop start).take n = elements ((cs.drop start).take n) := by
  unfold elements
  rw [List.map_take, List.map_drop]

end Text

namespace TextNative

variable {h : Host} {v target array : Value} {s old : String} {cs : List Char}

/-! ## Reading -/

theorem apply_text {args : List Value} (hv : args[0]? = some v) (hs : h.text v = .ok s) :
    (Args.text args 0).apply h = (.ok s.toList, h) :=
  Args.text_eq_ok.2 ⟨⟨v, s, hv, hs, rfl⟩, rfl⟩

theorem apply_charAt (hs : h.text v = .ok s) {i : Int32} (hpos : 0 ≤ i.toInt)
    (hi : i.toInt.toNat < (Text.elements s.toList).length) :
    (run .charAt [v, .int i]).apply h = (.ok (Text.elements s.toList)[i.toInt.toNat], h) := by
  have hindex : Args.index [v, .int i] 1 = .ok i.toInt.toNat :=
    Args.index_eq_ok.2 ⟨i, rfl, Int32.le_iff_toInt_le.2 hpos, rfl⟩
  have hlt : i.toInt.toNat < s.toList.length := by simpa using hi
  show (runCharAt [v, .int i]).apply h = _
  unfold runCharAt
  rw [apply_bind_of_ok (apply_text rfl hs), hindex, apply_bind_of_ok (apply_ofResult _)]
  simp only [List.getElem?_eq_getElem hlt, Text.elements, List.getElem_map, apply_pure]

theorem refuses_charAt (hs : h.text v = .ok s) {i : Int32}
    (hi : ¬ (0 ≤ i.toInt ∧ i.toInt.toNat < (Text.elements s.toList).length)) :
    Refuses (run .charAt [v, .int i]) h := by
  show ∃ fault, (runCharAt [v, .int i]).apply h = (.error fault, h)
  unfold runCharAt
  rw [apply_bind_of_ok (apply_text rfl hs)]
  cases hindex : Args.index [v, .int i] 1 with
  | error fault => exact ⟨fault, rfl⟩
  | ok n =>
    obtain ⟨p, hp, hpos, rfl⟩ := Args.index_eq_ok.1 hindex
    obtain rfl : i = p := by simpa using hp
    have hnone : s.toList[i.toInt.toNat]? = none := by
      rw [List.getElem?_eq_none_iff, ← Text.length_elements]
      exact Nat.le_of_not_lt fun hlt => hi ⟨Int32.le_iff_toInt_le.1 hpos, hlt⟩
    rw [apply_bind_of_ok (apply_ofResult _), hnone]
    exact ⟨_, rfl⟩

/-- The distance of two numbers that are not negative is a number again. -/
theorem toInt_sub_of_le {first last : Int32} (hpos : 0 ≤ first.toInt) (hle : first.toInt ≤ last.toInt) :
    (last - first).toInt = last.toInt - first.toInt := by
  have hmax := last.toInt_lt
  rw [Int32.toInt_sub, Int.bmod_eq_of_le (by omega) (by omega)]

theorem exists_getChars (hs : h.text v = .ok s) {first last place : Int32} {room : Nat}
    (hpos : 0 ≤ first.toInt) (hle : first.toInt ≤ last.toInt)
    (hend : last.toInt ≤ (Text.elements s.toList).length) (hk : h.KeepsArray array)
    (hroom : h.arrayLength array = .ok room)
    (hplace : 0 ≤ place.toInt) (hfits : place.toInt + (last.toInt - first.toInt) ≤ room) :
    ∃ h', (run .getChars [v, .int first, .int last, array, .int place]).apply h = (.ok .null, h') ∧
      h.Fills h' array place.toInt.toNat
        (((Text.elements s.toList).drop first.toInt.toNat).take (last.toInt - first.toInt).toNat) ∧
      h.OnlyArrays h' := by
  rw [Text.length_elements] at hend
  let cs := (s.toList.drop first.toInt.toNat).take (last - first).toInt.toNat
  have hsub := toInt_sub_of_le hpos hle
  have hcopies : Copies [v, .int first, .int last, array, .int place] h array place.toInt.toNat cs :=
    ⟨v, s, first, last, place, rfl, hs, rfl, rfl, rfl, rfl, Int32.le_iff_toInt_le.2 hplace, rfl,
      Int32.le_iff_toInt_le.2 hpos, Int32.le_iff_toInt_le.2 (by rw [hsub]; exact Int.sub_nonneg.2 hle),
      by omega, rfl⟩
  have hlength : cs.length ≤ (last.toInt - first.toInt).toNat := by
    rw [← hsub]
    exact List.length_take_le _ _
  have hall : cs.length ≤ h.room array place.toInt.toNat := by
    rw [Host.room_of_length hroom]
    omega
  have hkept : ∀ w ∈ [v, .int first, .int last, array, .int place][3]?, h.KeepsArray w := by
    rintro w ⟨⟩
    exact hk
  obtain ⟨h', hfills, honly, ⟨-, hrun⟩ | ⟨hlt, -⟩⟩ := apply_getChars hkept hcopies
  · rw [List.take_of_length_le (by simpa using hall)] at hfills
    refine ⟨h', hrun, ?_, honly⟩
    rw [Text.window_elements, ← hsub]
    exact hfills
  · omega

/-- The natives show the elements of the text that is behind a value. -/
theorem showsElements_of_text (hs : h.text v = .ok s) (hlt : s.length < 2 ^ 31) :
    h.ShowsElements v (Text.elements s.toList) where
  length := by
    refine ⟨Int32.ofNat s.toList.length,
      h.represents_contents.length v s.toList (Host.contents_texts_eq hs), ?_⟩
    rw [Text.length_elements]
    exact Int32.toInt_ofNat_of_lt hlt
  charAt i := apply_charAt hs
  charAt_refused i := refuses_charAt hs
  getChars first last place array room := exists_getChars hs

/-! ## Making an array -/

/-- An array is made of all elements of a text, and all else is kept. -/
theorem apply_toCharArray (hh : h.HoldsTexts) (hroom : h.storeSize < 2 ^ 32) (hs : h.text v = .ok s) :
    ∃ array h', (run .toCharArray [v]).apply h = (.ok array, h') ∧ h'.HoldsTexts ∧
      h'.storeSize = h.storeSize + 1 ∧ h.contents.arrays array = none ∧
      h'.contents = h.contents.withArray array (Text.elements s.toList) := by
  obtain ⟨array, h', hnew, hholds, hsize, hcontents⟩ :=
    Host.newArray_of_holdsTexts hh (Text.elements s.toList)
  obtain ⟨hfresh, hcontents⟩ := hcontents hroom
  refine ⟨array, h', ?_, hholds, hsize, hfresh, hcontents⟩
  rw [← hnew]
  exact apply_bind_of_ok (apply_text rfl hs) _

/-! ## Making a text -/

/-- The scalar values of elements are those that the elements were made of. -/
theorem scalars_elements (cs : List Char) :
    (Text.elements cs).filterMap (fun x => Text.withNumber? (x.toInt?.getD 0).toInt) = cs := by
  unfold Text.elements
  rw [List.filterMap_map]
  refine (List.filterMap_congr fun c _ => ?_).trans List.filterMap_some
  show Text.withNumber? (Int32.ofNat c.toNat).toInt = some c
  rw [← Text.scalar?_eq_withNumber?]
  exact scalar?_eq_some_iff.2 rfl

/-- A text is set to the scalar values of a window of elements, and all else is kept. -/
theorem apply_initializeFromChars (hh : h.HoldsTexts) (htarget : target ≠ .null)
    (hold : h.text target = .ok old) (harray : h.arrayValues array = .ok (Text.elements cs))
    {offset count : Int32} (hoffset : 0 ≤ offset.toInt) (hcount : 0 ≤ count.toInt)
    (hfits : offset.toInt + count.toInt ≤ cs.length) :
    ∃ h', (run .initializeFromChars [target, array, .int offset, .int count]).apply h
        = (.ok .null, h') ∧ h'.HoldsTexts ∧ h'.storeSize = h.storeSize ∧
      h'.contents
        = h.contents.write target ((cs.drop offset.toInt.toNat).take count.toInt.toNat) := by
  let window := (cs.drop offset.toInt.toNat).take count.toInt.toNat
  have hchars : h.contents.chars? array (.int offset) (.int count) = some window := by
    have hle : offset.toInt.toNat + count.toInt.toNat ≤ (Text.elements cs).length := by
      rw [Text.length_elements]
      omega
    have hfirst : (Value.int offset).toNat? = some offset.toInt.toNat := if_pos hoffset
    have hn : (Value.int count).toNat? = some count.toInt.toNat := if_pos hcount
    simp only [Contents.chars?, hfirst, hn, Host.contents_arrays_eq_some.2 harray, Option.bind_eq_bind,
      Option.bind_some, if_pos hle, Text.window_elements, scalars_elements]
    rfl
  have htexts : h.contents.texts target = some old.toList := Host.contents_texts_eq hold
  have heffect : (TextCall.initializeFromChars target array (.int offset) (.int count)).effect?
      h.contents = some (.write target window .null) := by
    simp [TextCall.effect?, hchars, Contents.writing?, htarget, htexts]
  have houtcome := Host.outcome_initializeFromChars hh target array (.int offset) (.int count)
  rw [heffect] at houtcome
  cases hrun : (runInitializeFromChars [target, array, .int offset, .int count]).apply h with
  | mk result h' =>
    rw [hrun] at houtcome
    cases houtcome with
    | wrote holds size contents => exact ⟨h', hrun, holds, size, contents⟩

end TextNative

/-! ## The views together -/

/-- **The views of a string agree.** Behind a text of fewer than 2^31 scalar values the natives show one
element for each, so many as they count: an index is answered exactly if it is one of an element, and a
window of elements is stored in any array that has room for it, one of the heap or of a module that keeps
its arrays, which changes nothing else. A new array is made of just these elements, beside all that was
there. A text that is set to a window of an array that holds them is made of that window, whose elements a
new array has again, and the whole array gives the text back; all other texts and arrays are kept. -/
theorem character_views_agree {h : Host} {v : Value} {s : String} (hs : h.text v = .ok s)
    (hlt : s.length < 2 ^ 31) :
    let elements := Text.elements s.toList
    (Imports.standard.find? "java.lang.String" "I$length$$"
        = some ⟨.onInstance, .builtin (.text .length)⟩ ∧
      Imports.standard.find? "java.lang.String" "C$charAt$I"
        = some ⟨.onInstance, .builtin (.text .charAt)⟩ ∧
      Imports.standard.find? "java.lang.String" "V$getChars$I$I$$C$I"
        = some ⟨.onInstance, .builtin (.text .getChars)⟩ ∧
      Imports.standard.find? "java.lang.String" "$C$toCharArray$$"
        = some ⟨.onInstance, .builtin (.text .toCharArray)⟩ ∧
      Imports.standard.find? "java.lang.String" "V$initializeWith$$C$I$I"
        = some ⟨.onInstance, .builtin (.text .initializeFromChars)⟩) ∧
    h.ShowsElements v elements ∧
    (h.HoldsTexts → h.storeSize < 2 ^ 32 →
      ∃ array h₁, (TextNative.run .toCharArray [v]).apply h = (.ok array, h₁) ∧ h₁.HoldsTexts ∧
        h.contents.arrays array = none ∧ h₁.contents = h.contents.withArray array elements ∧
        h₁.arrayValues array = .ok elements ∧ h₁.ShowsElements v elements) ∧
    ∀ (g : Host) (target array : Value) (old : String) (offset count : Int32), g.HoldsTexts →
      g.arrayValues array = .ok elements → target ≠ .null → g.text target = .ok old →
      0 ≤ offset.toInt → 0 ≤ count.toInt → offset.toInt + count.toInt ≤ elements.length →
      ∃ g', (TextNative.run .initializeFromChars [target, array, .int offset, .int count]).apply g
          = (.ok .null, g') ∧ g'.HoldsTexts ∧
        g'.contents
          = g.contents.write target ((s.toList.drop offset.toInt.toNat).take count.toInt.toNat) ∧
        (g.storeSize < 2 ^ 32 →
          ∃ array' g₁, (TextNative.run .toCharArray [target]).apply g' = (.ok array', g₁) ∧
            g₁.arrayValues array'
              = .ok ((elements.drop offset.toInt.toNat).take count.toInt.toNat)) ∧
        (offset.toInt = 0 → count.toInt = elements.length → g'.text target = .ok s) := by
  intro elements
  refine ⟨⟨TextNative.find?_string (by simp [Builtin.textListings, Builtin.of]),
    TextNative.find?_string (by simp [Builtin.textListings, Builtin.of]),
    TextNative.find?_string (by simp [Builtin.textListings, Builtin.of]),
    TextNative.find?_string (by simp [Builtin.textListings, Builtin.of]),
    TextNative.find?_string (by simp [Builtin.textListings, Builtin.of])⟩,
    TextNative.showsElements_of_text hs hlt, fun hh hroom => ?_, ?_⟩
  · obtain ⟨array, h₁, hrun, hholds, -, hfresh, hcontents⟩ := TextNative.apply_toCharArray hh hroom hs
    exact ⟨array, h₁, hrun, hholds, hfresh, hcontents, Host.arrayValues_withArray hcontents,
      TextNative.showsElements_of_text (Host.text_withArray hcontents hs) hlt⟩
  · intro g target array old offset count hg harray htarget hold hoffset hcount hfits
    rw [Text.length_elements] at hfits
    obtain ⟨g', hrun, hholds, hsize, hcontents⟩ :=
      TextNative.apply_initializeFromChars hg htarget hold harray hoffset hcount hfits
    have htext := Host.text_write hcontents
    refine ⟨g', hrun, hholds, hcontents, fun hroom => ?_, fun hzero hall => ?_⟩
    · obtain ⟨array', g₁, hrun', -, -, -, hcontents'⟩ :=
        TextNative.apply_toCharArray hholds (hsize ▸ hroom) htext
      refine ⟨array', g₁, hrun', ?_⟩
      rw [Host.arrayValues_withArray hcontents', String.toList_ofList, Text.window_elements]
    · rw [Text.length_elements] at hall
      rw [htext, hzero, hall, Int.toNat_natCast, Int.toNat_zero, List.drop_zero, List.take_length,
        String.ofList_toList]

/-- A string of characters of one to four bytes, in a module in memory. -/
theorem character_views_agree_in_module :
    let h : Host :=
      { config := { mode := .exported }, heap := .empty, registry := CoreClass.registry,
        linkage := .empty, files := .empty, source := .staged (.ofList []), imports := .standard,
        attached := some (.arena ⟨"guest", #[.text .string "aé€😀"]⟩),
        surroundings := { millis := 0, seed := 0 } }
    let elements : List Value := [.int 0x61, .int 0xE9, .int 0x20AC, .int 0x1F600]
    h.text (.handle 0) = .ok "aé€😀" ∧ h.HoldsTexts ∧ h.storeSize < 2 ^ 32 ∧
      h.ShowsElements (.handle 0) elements ∧
      ∃ array h₁, (TextNative.run .toCharArray [.handle 0]).apply h = (.ok array, h₁) ∧
        h₁.arrayValues array = .ok elements := by
  intro h elements
  have hs : h.text (.handle 0) = .ok "aé€😀" := by decide +kernel
  have hh : h.HoldsTexts := fun _ => ⟨_, rfl⟩
  have hroom : h.storeSize < 2 ^ 32 := by decide +kernel
  have helements : Text.elements "aé€😀".toList = elements := by decide +kernel
  obtain ⟨-, hshows, hmade, -⟩ := character_views_agree hs (by decide)
  obtain ⟨array, h₁, hrun, -, -, -, hvalues, -⟩ := hmade hh hroom
  rw [helements] at hshows hvalues
  exact ⟨hs, hh, hroom, hshows, array, h₁, hrun, hvalues⟩

end GuestHost
