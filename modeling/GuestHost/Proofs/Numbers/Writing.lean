import GuestHost.Proofs.Numbers.Reading
import GuestHost.Proofs.TextObjects.Access

/-!
# Writing integers

An integer is written as a minus sign if it is negative and the digits of its magnitude. What is written has
the parts that integers are read from, so reading gives the integer again, wrapped to the type that it is
read as. That is the integer itself if it is one of that type.

* `exists_integerText_digits` — the parts of what is written;
* `parsePrefix?_format` — reading gives every word of 64 bits again, the least one too;
* `IntegerKind.exists_newText_read` — what the natives read from a text that was just made;
* `integers_written_and_read` — the round trip of words and of the values of all types.
-/

namespace GuestHost

namespace Radix

variable {radix : Nat}

/-! ## The parts of what is written -/

theorem Spells.forall_mem {digits : List Char} {values : List Nat}
    (h : Spells radix digits values) : ∀ c ∈ digits, ∃ d, IsDigitOf radix d c := by
  induction h with
  | nil => simp
  | cons hc _ ih => simpa using ⟨⟨_, hc⟩, ih⟩

/-- In radix sixteen x is no digit, so digits are not taken for a mark. -/
theorem Spells.not_mark {digits : List Char} {values : List Nat} (h : Spells 16 digits values) :
    ∀ m ∈ hexMarks, ¬ m <+: digits := by
  have hnot : ∀ c, digitValue? 16 c = none → c ∉ digits := by
    intro c hc hmem
    obtain ⟨d, hd⟩ := h.forall_mem c hmem
    rw [← digitValue?_eq_some_iff (by decide), hc] at hd
    cases hd
  intro m hm hpre
  simp only [hexMarks, List.mem_cons, List.not_mem_nil, or_false] at hm
  rcases hm with rfl | rfl
  · exact hnot 'x' (by decide) (hpre.subset (by simp))
  · exact hnot 'X' (by decide) (hpre.subset (by simp))

/-- Digits with a minus sign or without one have the parts of an integer, and nothing else. -/
theorem exists_integerText_digits (hradix : 2 ≤ radix ∧ radix ≤ 36) {sign : List Char}
    (hsign : sign = ['-'] ∨ sign = []) (n : Nat) :
    ∃ t : IntegerText radix (sign ++ natDigits radix n), t.digits ≠ [] ∧
      t.value = if sign = ['-'] then -(n : Int) else n := by
  obtain ⟨values, hspells, hvalue⟩ := spells_natDigits hradix n
  have hhead : ∀ c ∈ (natDigits radix n).head?,
      Text.isBlank c = false ∧ c ≠ '-' ∧ c ≠ '+' := by
    intro c hc
    obtain ⟨d, hd⟩ := hspells.forall_mem c (List.mem_of_mem_head? hc)
    exact hd.not_before hradix.2
  refine ⟨⟨[], sign, [], natDigits radix n, values, [], by simp, by simp, ?_, ?_,
    .inr ⟨rfl, ?_⟩, hspells, by simp [NoDigitAhead]⟩, natDigits_ne_nil hradix.1 n, ?_⟩
  · rcases hsign with rfl | rfl
    · simpa using show Text.isBlank '-' = false by decide
    · simpa using fun c hc => (hhead c hc).1
  · rcases hsign with rfl | rfl
    · exact .inl rfl
    · exact .inr (.inr ⟨rfl, by simpa using fun c hc => (hhead c hc).2⟩)
  · rintro rfl
    simpa using hspells.not_mark
  · rw [IntegerText.value, hvalue]

theorem format_eq (value : Int) (radix : Nat) :
    format value radix = (if value < 0 then ['-'] else []) ++ natDigits radix value.natAbs := by
  unfold format
  split <;> rfl

/-- What an integer is written as denotes it. -/
theorem exists_integerText_format (hradix : 2 ≤ radix ∧ radix ≤ 36) (value : Int) :
    ∃ t : IntegerText radix (format value radix), t.digits ≠ [] ∧ t.value = value := by
  rw [format_eq]
  by_cases hneg : value < 0
  · obtain ⟨t, hdigits, hvalue⟩ := exists_integerText_digits hradix (.inl rfl) value.natAbs
    rw [if_pos hneg]
    exact ⟨t, hdigits, by rw [hvalue, if_pos rfl]; omega⟩
  · obtain ⟨t, hdigits, hvalue⟩ := exists_integerText_digits hradix (.inr rfl) value.natAbs
    rw [if_neg hneg]
    exact ⟨t, hdigits, by rw [hvalue, if_neg (by simp)]; omega⟩

/-- **Every word of 64 bits is read as it was written**, the least one too. -/
theorem parsePrefix?_format (hradix : 2 ≤ radix ∧ radix ≤ 36) (v : Int64) :
    parsePrefix? (format v.toInt radix) radix = some v := by
  obtain ⟨t, hdigits, hvalue⟩ := exists_integerText_format hradix v.toInt
  rw [parsePrefix?_eq t hradix.2, if_neg hdigits, hvalue, Int64.ofInt_toInt]

end Radix

/-! ## The natives -/

namespace IntegerKind

/-- The native that writes an integer, and its key. -/
def writing : IntegerKind → String × NumberNative
  | .byte => ("Ljava$lang$String$$toString$B$I", .intToString)
  | .short => ("Ljava$lang$String$$toString$S$I", .intToString)
  | .int => ("Ljava$lang$String$$toString$I$I", .intToString)
  | .long => ("Ljava$lang$String$$toString$J$I", .longToString)

/-- The native that writes a type is found under its name. -/
theorem find?_writing (k : IntegerKind) :
    Imports.standard.find? k.className k.writing.1
      = some ⟨.static, .builtin (.number k.writing.2)⟩ := by
  have hlisted : (k.className, k.writing.1, .static, .number k.writing.2)
      ∈ Builtin.numberListings := by
    cases k <;> simp [Builtin.numberListings, Builtin.of, className, writing]
  exact Builtin.find?_of_mem_listings (Builtin.mem_listings_of_number hlisted)

/-- An integer is one of a type. -/
def InRange (k : IntegerKind) (n : Int) : Prop := -2 ^ (k.bits - 1) ≤ n ∧ n < 2 ^ (k.bits - 1)

variable {k : IntegerKind} {v v' : Value} {n : Int} {h : Host}

/-- An integer of a type is not changed by wrapping. -/
theorem InRange.bmod_eq (hn : k.InRange n) : n.bmod (2 ^ k.bits) = n := by
  obtain ⟨hle, hlt⟩ := hn
  cases k <;> exact Int.bmod_eq_of_le (by simpa [bits] using hle) (by simpa [bits] using hlt)

/-- A value is known by its type and its integer. -/
theorem Holds.unique (hv : k.Holds v n) (hv' : k.Holds v' n) : v = v' := by
  cases k with
  | byte | short | int =>
    obtain ⟨x, rfl, hx⟩ := hv
    obtain ⟨x', rfl, hx'⟩ := hv'
    rw [Int32.toInt_inj.1 (hx.trans hx'.symm)]
  | long =>
    obtain ⟨x, rfl, hx⟩ := hv
    obtain ⟨x', rfl, hx'⟩ := hv'
    rw [Int64.toInt_inj.1 (hx.trans hx'.symm)]

theorem apply_writing (hv : k.Holds v n) (radix : Int32) (h : Host) :
    (NumberNative.run k.writing.2 [v, .int radix]).apply h
      = (TextNative.newText (Radix.format n (Radix.effective radix))).apply h := by
  cases k with
  | byte | short | int | long =>
    obtain ⟨x, rfl, rfl⟩ := hv
    rfl

/-- A new text has the given characters. -/
theorem exists_newText (hh : h.HoldsTexts) (hsize : h.storeSize < 2 ^ 32) (cs : List Char) :
    ∃ text h' s, (TextNative.newText cs).apply h = (.ok text, h') ∧ h'.text text = .ok s ∧
      s.toList = cs := by
  obtain ⟨text, h', hnew, -, -, hroom⟩ := Host.newText_of_holdsTexts hh .string (String.ofList cs)
  obtain ⟨-, hcontents⟩ := hroom hsize
  have hread : readText (h'.text text) = some cs := by
    rw [show readText (h'.text text) = h'.contents.texts text from rfl, hcontents]
    simp [Contents.write]
  refine ⟨text, h', ?_⟩
  cases hs : h'.text text with
  | error fault => simp [hs] at hread
  | ok s => exact ⟨s, hnew, rfl, by simpa [hs] using hread⟩

/-- What is read from a new text that denotes an integer is the integer, wrapped. -/
theorem exists_newText_read (k : IntegerKind) (hh : h.HoldsTexts) (hsize : h.storeSize < 2 ^ 32)
    {radix : Int32} {cs : List Char}
    (t : Radix.IntegerText (Radix.effective (k.readingRadix radix)) cs) (ht : t.digits ≠ []) :
    ∃ text h' answer, (TextNative.newText cs).apply h = (.ok text, h') ∧
      (NumberNative.run k.reading.2 (k.readingArgs text radix)).apply h' = (.ok answer, h') ∧
      k.Holds answer (t.value.bmod (2 ^ k.bits)) := by
  obtain ⟨text, h', s, hnew, htext, rfl⟩ := exists_newText hh hsize cs
  refine ⟨text, h', _, hnew, k.apply_reading htext radix, ?_⟩
  rw [Radix.parsePrefix?_eq t (Radix.effective_range _).2, if_neg ht]
  exact k.holds_narrow t.value

/-- A value that is written is read as it was. -/
theorem exists_written_read (hh : h.HoldsTexts) (hsize : h.storeSize < 2 ^ 32) (hv : k.Holds v n)
    (hn : k.InRange n) {radix : Int32} (hradix : k = .byte → Radix.effective radix = 10) :
    ∃ text h', (NumberNative.run k.writing.2 [v, .int radix]).apply h = (.ok text, h') ∧
      (NumberNative.run k.reading.2 (k.readingArgs text radix)).apply h' = (.ok v, h') := by
  have hsame : Radix.effective (k.readingRadix radix) = Radix.effective radix := by
    cases k with
    | byte => exact (hradix rfl).symm
    | short | int | long => rfl
  obtain ⟨t, ht, hvalue⟩ :=
    Radix.exists_integerText_format (Radix.effective_range (k.readingRadix radix)) n
  obtain ⟨text, h', answer, hnew, hread, hanswer⟩ := exists_newText_read k hh hsize t ht
  rw [hvalue, hn.bmod_eq] at hanswer
  rw [hsame] at hnew
  rw [hanswer.unique hv] at hread
  exact ⟨text, h', (apply_writing hv radix h).trans hnew, hread⟩

/-- The magnitude that an int is written with in hexadecimal is the int, wrapped. -/
theorem bmod_toUInt32 (x : Int32) : (x.toUInt32.toNat : Int).bmod (2 ^ 32) = x.toInt :=
  (BitVec.toInt_eq_toNat_bmod x.toBitVec).symm

/-- An int that is written in hexadecimal is read as it was. -/
theorem exists_hex_read (hh : h.HoldsTexts) (hsize : h.storeSize < 2 ^ 32) (x : Int32) :
    ∃ text h', (NumberNative.run .intToHexString [.int x]).apply h = (.ok text, h') ∧
      (NumberNative.run .parseInt [text, .int 16]).apply h' = (.ok (.int x), h') := by
  have hrange := Radix.effective_range (IntegerKind.int.readingRadix 16)
  obtain ⟨t, ht, hvalue⟩ :=
    Radix.exists_integerText_digits hrange (.inr rfl) x.toUInt32.toNat
  obtain ⟨text, h', answer, hnew, hread, hanswer⟩ :=
    exists_newText_read .int hh hsize t ht
  rw [hvalue, if_neg (by simp), show 2 ^ IntegerKind.int.bits = 2 ^ 32 from rfl,
    bmod_toUInt32] at hanswer
  obtain rfl := hanswer.unique ⟨x, rfl, rfl⟩
  exact ⟨text, h', hnew, hread⟩

end IntegerKind

/-- **Integers are read as they were written.** A word of 64 bits is written in a radix as a minus sign if it
is negative and digits of the radix, at least one and no zero in front of others, and reading what is written
in the same radix gives the word. A radix that the guest asks for counts alike both times. So the natives of
the four types read from the texts that they write the values that these were written for, bytes in radix ten
only, and an int that was written in hexadecimal is read in radix sixteen as it was. This is said of every
host that can make a text: references have not run out, and a module that texts are kept in holds them. -/
theorem integers_written_and_read :
    (∀ (v : Int64) (radix : Int32),
      (∃ digits, Radix.format v.toInt (Radix.effective radix)
          = (if v < 0 then ['-'] else []) ++ digits ∧
        digits ≠ [] ∧ (∀ c ∈ digits, ∃ d, Radix.IsDigitOf (Radix.effective radix) d c) ∧
        (digits.head? = some '0' → digits = ['0'])) ∧
      Radix.parsePrefix? (Radix.format v.toInt (Radix.effective radix)) (Radix.effective radix)
        = some v) ∧
    (∀ k : IntegerKind,
      Imports.standard.find? k.className k.writing.1
        = some ⟨.static, .builtin (.number k.writing.2)⟩ ∧
      Imports.standard.find? k.className k.reading.1
        = some ⟨.static, .builtin (.number k.reading.2)⟩) ∧
    Imports.standard.find? "java.lang.Integer" "Ljava$lang$String$$toHexString$I"
      = some ⟨.static, .builtin (.number .intToHexString)⟩ ∧
    ∀ h : Host, h.HoldsTexts → h.storeSize < 2 ^ 32 →
      (∀ (k : IntegerKind) (v : Value) (n : Int) (radix : Int32), k.Holds v n → k.InRange n →
        (k = .byte → Radix.effective radix = 10) →
        ∃ text h', (NumberNative.run k.writing.2 [v, .int radix]).apply h = (.ok text, h') ∧
          (NumberNative.run k.reading.2 (k.readingArgs text radix)).apply h' = (.ok v, h')) ∧
      ∀ x : Int32, ∃ text h',
        (NumberNative.run .intToHexString [.int x]).apply h = (.ok text, h') ∧
          (NumberNative.run .parseInt [text, .int 16]).apply h' = (.ok (.int x), h') := by
  have hhex : ("java.lang.Integer", "Ljava$lang$String$$toHexString$I", .static,
      .number .intToHexString) ∈ Builtin.numberListings := by
    simp [Builtin.numberListings, Builtin.of]
  refine ⟨fun v radix => ⟨?_, Radix.parsePrefix?_format (Radix.effective_range radix) v⟩,
    fun k => ⟨k.find?_writing, k.find?_reading⟩,
    Builtin.find?_of_mem_listings (Builtin.mem_listings_of_number hhex), fun h hh hsize =>
    ⟨fun k v n radix hv hn hradix => IntegerKind.exists_written_read hh hsize hv hn hradix,
      IntegerKind.exists_hex_read hh hsize⟩⟩
  have hrange := Radix.effective_range radix
  have hsign : (if v < 0 then ['-'] else []) = if v.toInt < 0 then ['-'] else [] := by
    simp [Int64.lt_iff_toInt_lt]
  obtain ⟨values, hspells, -⟩ := Radix.spells_natDigits hrange v.toInt.natAbs
  refine ⟨_, by rw [Radix.format_eq, hsign], Radix.natDigits_ne_nil hrange.1 _, hspells.forall_mem,
    fun hhead => ?_⟩
  rw [Radix.natDigits_head_zero hrange hhead]
  rfl

/-- The least word is written in radix 36 and read again. -/
theorem integers_written_and_read_least :
    let host : Host :=
      { config := {}, heap := .empty, registry := .initial, linkage := .empty, files := .empty,
        source := .staged .empty, imports := .empty, attached := none,
        surroundings := { millis := 0, seed := 0 } }
    ∃ text h', (NumberNative.run .longToString [.long Int64.minValue, .int 36]).apply host
        = (.ok text, h') ∧
      (NumberNative.run .parseLong [text, .int 36]).apply h' = (.ok (.long Int64.minValue), h') := by
  intro host
  have hh : host.HoldsTexts := fun hm => absurd hm (by decide)
  have hsize : host.storeSize < 2 ^ 32 := by decide
  exact (integers_written_and_read.2.2.2 host hh hsize).1 .long (.long Int64.minValue)
    Int64.minValue.toInt 36 ⟨_, rfl, rfl⟩ ⟨by decide, by decide⟩ (by decide)

end GuestHost
