import GuestHost.Proofs.Text.Search
import GuestHost.Proofs.Text.Utf8

/-!
# Bytes and scalar values

A guest holds scalar values and bytes as ints, the bytes with a sign. Between the two stands UTF-8, whose
two directions undo each other.

* `Utf8.front_eq_scalar_iff`, `Utf8.text?_eq_some_iff` — bytes are read as a text exactly if they are the
  bytes of that text: there is one way to write a character;
* `Utf8.decodeLossy_encode` — nothing in the bytes of a text is replaced;
* `Text.map_ofChar_ofScalars` — of ints, the ones that are scalar values are read, and no others;
* `Text.toByte_ofByte`, `Text.ofByte_toByte` — a byte and the int that stands for it.
-/

namespace GuestHost

namespace Utf8

/-! ## One character -/

section

variable {a b c d : UInt8} {n : Nat}

theorem byte_eq (h : a.toNat = n) : byte n = a := by
  rw [← h]
  exact UInt8.ofNat_toNat

theorem isTail_iff : isTail a = true ↔ 0x80 ≤ a.toNat ∧ a.toNat ≤ 0xBF := by
  simp [isTail, UInt8.le_iff_toNat_le]

/-- What is known of the byte that follows the first one of three or four. -/
theorem isSecond_iff : isSecond a b = true ↔
    (0x80 ≤ b.toNat ∧ b.toNat ≤ 0xBF) ∧ (a.toNat = 0xE0 → 0xA0 ≤ b.toNat) ∧
      (a.toNat = 0xED → b.toNat ≤ 0x9F) ∧ (a.toNat = 0xF0 → 0x90 ≤ b.toNat) ∧
      (a.toNat = 0xF4 → b.toNat ≤ 0x8F) := by
  simp only [isSecond, secondRange, ← UInt8.toNat_inj, UInt8.le_iff_toNat_le, Bool.and_eq_true,
    decide_eq_true_eq]
  repeat' split
  all_goals simp only [UInt8.reduceToNat] at *; omega

theorem encodeChar_one (ha : a < 0x80) : encodeChar (Char.ofNat a.toNat) = [a] := by
  simp only [UInt8.lt_iff_toNat_lt, UInt8.reduceToNat] at ha
  have hx := toNat_ofNat (n := a.toNat) (by omega)
  rw [encodeChar_of_ascii (by omega), byte_eq hx.symm]

theorem encodeChar_two (ha : 0xC2 ≤ a ∧ a < 0xE0) (hb : isTail b = true) :
    encodeChar (Char.ofNat (a.toNat % 32 * 64 + tailBits b)) = [a, b] := by
  simp only [UInt8.le_iff_toNat_le, UInt8.lt_iff_toNat_lt, UInt8.reduceToNat] at ha
  rw [isTail_iff] at hb
  have hx := toNat_ofNat (n := a.toNat % 32 * 64 + b.toNat % 64) (by omega)
  unfold encodeChar tailBits
  dsimp only
  rw [if_neg (by omega), if_pos (by omega), byte_eq (a := a) (by omega), byte_eq (a := b) (by omega)]

theorem encodeChar_three (ha : 0xE0 ≤ a ∧ a < 0xF0) (hb : isSecond a b = true)
    (hc : isTail c = true) :
    encodeChar (Char.ofNat (a.toNat % 16 * 4096 + tailBits b * 64 + tailBits c)) = [a, b, c] := by
  simp only [UInt8.le_iff_toNat_le, UInt8.lt_iff_toNat_lt, UInt8.reduceToNat] at ha
  rw [isSecond_iff] at hb
  rw [isTail_iff] at hc
  have hx := toNat_ofNat (n := a.toNat % 16 * 4096 + b.toNat % 64 * 64 + c.toNat % 64) (by omega)
  unfold encodeChar tailBits
  dsimp only
  rw [if_neg (by omega), if_neg (by omega), if_pos (by omega), byte_eq (a := a) (by omega),
    byte_eq (a := b) (by omega), byte_eq (a := c) (by omega)]

theorem encodeChar_four (ha : 0xF0 ≤ a ∧ a < 0xF5) (hb : isSecond a b = true)
    (hc : isTail c = true) (hd : isTail d = true) :
    encodeChar (Char.ofNat
      (a.toNat % 8 * 262144 + tailBits b * 4096 + tailBits c * 64 + tailBits d)) = [a, b, c, d] := by
  simp only [UInt8.le_iff_toNat_le, UInt8.lt_iff_toNat_lt, UInt8.reduceToNat] at ha
  rw [isSecond_iff] at hb
  rw [isTail_iff] at hc hd
  have hx := toNat_ofNat
    (n := a.toNat % 8 * 262144 + b.toNat % 64 * 4096 + c.toNat % 64 * 64 + d.toNat % 64) (by omega)
  unfold encodeChar tailBits
  dsimp only
  rw [if_neg (by omega), if_neg (by omega), if_neg (by omega), byte_eq (a := a) (by omega),
    byte_eq (a := b) (by omega), byte_eq (a := c) (by omega), byte_eq (a := d) (by omega)]

end

/-- A character is read from its own bytes and from no others. -/
theorem front_eq_scalar_iff {bs rest : Bytes} {x : Char} :
    front bs = .scalar x rest ↔ bs = encodeChar x ++ rest := by
  refine ⟨?_, fun heq => heq ▸ front_encodeChar x rest⟩
  fun_cases front bs
  case case2 a rest' ha =>
    rintro ⟨⟩
    rw [encodeChar_one ha]
    rfl
  case case5 a _ hfirst hlast b rest' hb =>
    rintro ⟨⟩
    rw [encodeChar_two ⟨UInt8.not_lt.1 hfirst, hlast⟩ hb]
    rfl
  case case9 a _ _ hfirst hlast b hb c rest' hc =>
    rintro ⟨⟩
    rw [encodeChar_three ⟨UInt8.not_lt.1 hfirst, hlast⟩ hb hc]
    rfl
  case case15 a _ _ _ hfirst hlast b hb c hc d rest' hd =>
    rintro ⟨⟩
    rw [encodeChar_four ⟨UInt8.not_lt.1 hfirst, hlast⟩ hb hc hd]
    rfl
  all_goals rintro ⟨⟩

/-! ## Texts -/

/-- Bytes are read as a text exactly if they are the bytes of that text. -/
theorem text?_eq_some_iff {bs : Bytes} {cs : List Char} : text? bs = some cs ↔ bs = encode cs := by
  refine ⟨fun h => ?_, fun heq => heq ▸ text?_encode cs⟩
  induction hn : bs.length using Nat.strongRecOn generalizing bs cs with
  | ind n ih =>
    subst hn
    cases hfront : front bs with
    | done =>
      obtain rfl := eq_nil_of_front_done hfront
      obtain rfl : [] = cs := by simpa using h
      rfl
    | scalar c rest =>
      rw [text?_of_scalar hfront] at h
      obtain ⟨cs', hrest, rfl⟩ := Option.map_eq_some_iff.1 h
      rw [front_eq_scalar_iff.1 hfront, ih _ (length_lt_of_front_scalar hfront) hrest rfl, encode_cons]
    | broken k rest => simp [text?_of_broken hfront] at h
    | cutShort => simp [text?_of_cutShort hfront] at h

theorem decodeLossy_of_scalar {bs rest : Bytes} {c : Char} (h : front bs = .scalar c rest) :
    decodeLossy bs = c :: decodeLossy rest := by
  rw [decodeLossy]
  split <;> simp_all

/-- Nothing in the bytes of a text is replaced. -/
theorem decodeLossy_encode (cs : List Char) : decodeLossy (encode cs) = cs := by
  induction cs with
  | nil =>
    rw [encode_nil, decodeLossy]
    rfl
  | cons c rest ih => rw [encode_cons, decodeLossy_of_scalar (front_encodeChar c _), ih]

end Utf8

/-! ## Ints -/

namespace Text

variable {n : Int32} {ns : List Int32} {c : Char} {b : UInt8}

/-- The int is the number of a scalar value: neither negative nor a surrogate nor too large. -/
def IsScalar (n : Int32) : Prop :=
  0 ≤ n.toInt ∧ n.toInt < 0xD800 ∨ 0xDFFF < n.toInt ∧ n.toInt ≤ 0x10FFFF

instance (n : Int32) : Decidable (IsScalar n) := inferInstanceAs (Decidable (_ ∨ _))

/-- The int is in the range of a guest byte. -/
def IsByte (n : Int32) : Prop := -128 ≤ n.toInt ∧ n.toInt ≤ 127

instance (n : Int32) : Decidable (IsByte n) := inferInstanceAs (Decidable (_ ∧ _))

/-- The guest's form of a byte, which has a sign. -/
def ofByte (b : UInt8) : Int32 := b.toInt8.toInt32

/-- The byte of which a guest has the form. -/
def toByte (n : Int32) : UInt8 := n.toUInt32.toUInt8

/-- A scalar value is read from its own number. -/
theorem scalar?_eq_some_iff : scalar? n = some c ↔ ofChar c = n := by
  rw [TextNative.scalar?_eq_some_iff]
  exact Value.int.injEq _ _ ▸ Iff.rfl

theorem isScalar_iff : IsScalar n ↔ ∃ c, ofChar c = n := by
  constructor
  · intro h
    have hnat : (n.toInt.toNat : Int) = n.toInt := by
      unfold IsScalar at h
      omega
    have hc : (Char.ofNat n.toInt.toNat).toNat = n.toInt.toNat := Utf8.toNat_ofNat (by
      unfold IsScalar at h
      omega)
    refine ⟨Char.ofNat n.toInt.toNat, Int32.toInt_inj.1 ?_⟩
    rw [ofChar, hc, Int32.toInt_ofNat_of_lt (by have := n.toInt_lt; omega), hnat]
  · rintro ⟨c, rfl⟩
    have hvalid : c.toNat < 0xD800 ∨ 0xDFFF < c.toNat ∧ c.toNat < 0x110000 := c.valid
    have hn : (ofChar c).toInt = c.toNat := Int32.toInt_ofNat_of_lt (by omega)
    unfold IsScalar
    omega

theorem scalar?_eq_none_iff : scalar? n = none ↔ ¬ IsScalar n := by
  simp only [isScalar_iff, ← scalar?_eq_some_iff, Option.eq_none_iff_forall_ne_some, not_exists]

/-- The scalar values that are read from ints are those among the ints. -/
theorem map_ofChar_ofScalars (ns : List Int32) :
    (ofScalars ns).map ofChar = ns.filter fun n => IsScalar n := by
  induction ns with
  | nil => rfl
  | cons n rest ih =>
    cases hn : scalar? n with
    | none =>
      have hskipped : ¬ IsScalar n := scalar?_eq_none_iff.1 hn
      rw [List.filter_cons_of_neg (by simpa using hskipped), ← ih, ofScalars,
        List.filterMap_cons_none hn]
      rfl
    | some c =>
      have heq : ofChar c = n := scalar?_eq_some_iff.1 hn
      rw [List.filter_cons_of_pos (by simpa using isScalar_iff.2 ⟨c, heq⟩), ← ih, ofScalars,
        List.filterMap_cons_some hn, List.map_cons, heq]
      rfl

theorem ofScalars_map_ofChar (cs : List Char) : ofScalars (cs.map ofChar) = cs := by
  have hread : ∀ c ∈ cs, scalar? (ofChar c) = some c := fun c _ => scalar?_eq_some_iff.2 rfl
  rw [ofScalars, List.filterMap_map]
  exact (List.filterMap_congr hread).trans List.filterMap_some

/-- The byte of an int has the low bits of the int. -/
theorem toInt8_toByte (n : Int32) : (toByte n).toInt8 = n.toInt8 := by
  have hwidth : BitVec.setWidth 8 n.toBitVec = BitVec.signExtend 8 n.toBitVec :=
    (BitVec.signExtend_eq_setWidth_of_le _ (by decide)).symm
  apply Int8.toBitVec_inj.1
  simpa [toByte] using hwidth

theorem toByte_ofByte (b : UInt8) : toByte (ofByte b) = b := by
  calc toByte (ofByte b) = (toByte (ofByte b)).toInt8.toUInt8 := (UInt8.toUInt8_toInt8 _).symm
    _ = b.toInt8.toUInt8 := by rw [toInt8_toByte, ofByte, Int8.toInt8_toInt32]
    _ = b := UInt8.toUInt8_toInt8 b

theorem ofByte_toByte (h : IsByte n) : ofByte (toByte n) = n := by
  obtain ⟨hlow, hhigh⟩ := h
  apply Int32.toInt_inj.1
  rw [ofByte, toInt8_toByte, Int8.toInt_toInt32, Int32.toInt_toInt8,
    Int.bmod_eq_of_le (by omega) (by omega)]

-- A byte above 127 is negative.
example : ofByte 0xC3 = -61 := by decide

theorem isByte_ofByte (b : UInt8) : IsByte (ofByte b) := by
  have hlow := b.toInt8.le_toInt
  have hhigh := b.toInt8.toInt_lt
  unfold IsByte ofByte
  rw [Int8.toInt_toInt32]
  omega

end Text
end GuestHost
