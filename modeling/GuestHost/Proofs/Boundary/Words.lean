import GuestHost.Value.Word

/-!
# Words and values

Every value has a word, and reading the word gives the value back. The other way round, a word with a known
tag stands for one value, and the word of that value has the same tag and, of the data, those bits that the
tag uses.

* `Word.toValue_ofValue`, `Word.toValues_map_ofValue` — a value, or a list of them, read back;
* `Word.toValue_eq_error` — which words stand for no value, and the fault;
* `Word.ofValue_of_toValue` — the word of the value that a word stands for.
-/

namespace GuestHost.Word

variable {w : Word} {v : Value}

/-- The bits of the data that a tag uses: none for null, all for a long or a double, and the low half
otherwise. -/
def usedBits (tag : UInt8) : UInt64 :=
  if tag = 0 then 0 else if tag = 2 ∨ tag = 4 then 0xFFFFFFFFFFFFFFFF else 0xFFFFFFFF

/-- The data is taken for its low half. -/
theorem toUInt64_toUInt32 (data : UInt64) : data.toUInt32.toUInt64 = data &&& 0xFFFFFFFF := by
  apply UInt64.toNat_inj.1
  rw [UInt32.toNat_toUInt64, UInt64.toNat_toUInt32, UInt64.toNat_and]
  exact (Nat.and_two_pow_sub_one_eq_mod data.toNat 32).symm

@[simp] theorem toValue_ofValue (v : Value) : (ofValue v).toValue = .ok v := by
  cases v <;> simp [ofValue, toValue, null]

@[simp] theorem toValues_map_ofValue (args : List Value) :
    toValues (args.map ofValue) = .ok args := by
  induction args with
  | nil => rfl
  | cons v rest ih => simp [toValues, ih]

/-- The tags: seven of them are known. -/
theorem tag_cases (tag : UInt8) : tag = 0 ∨ tag = 1 ∨ tag = 2 ∨ tag = 3 ∨ tag = 4 ∨ tag = 5 ∨
    tag = 6 ∨ 6 < tag := by
  simp only [← UInt8.toNat_inj, UInt8.lt_iff_toNat_lt, UInt8.reduceToNat]
  omega

theorem toValue_of_unknown (hw : 6 < w.tag) :
    w.toValue = .error (.inModule (.unknownTag w.tag)) := by
  have hne : ∀ tag : UInt8, tag ≤ 6 → w.tag ≠ tag := by
    rintro tag hle rfl
    exact absurd hw (UInt8.not_lt.2 hle)
  unfold toValue
  rw [if_neg (hne 0 (by decide)), if_neg (hne 1 (by decide)), if_neg (hne 2 (by decide)),
    if_neg (hne 3 (by decide)), if_neg (hne 4 (by decide)), if_neg (hne 5 (by decide)),
    if_neg (hne 6 (by decide))]

/-- A word with a known tag stands for a value, which has the same tag and the bits that the tag uses. -/
theorem toValue_of_known (hw : ¬ 6 < w.tag) :
    ∃ v, w.toValue = .ok v ∧ ofValue v = ⟨w.tag, w.data &&& usedBits w.tag⟩ := by
  obtain ⟨tag, data⟩ := w
  have hall : data &&& 0xFFFFFFFFFFFFFFFF = data := UInt64.and_neg_one
  rcases tag_cases tag with rfl | rfl | rfl | rfl | rfl | rfl | rfl | hgt
  · exact ⟨.null, rfl, congrArg (Word.mk 0) UInt64.and_zero.symm⟩
  · exact ⟨.int data.toUInt32.toInt32, rfl, congrArg (Word.mk _) (toUInt64_toUInt32 data)⟩
  · exact ⟨.long data.toInt64, rfl, congrArg (Word.mk _) hall.symm⟩
  · exact ⟨.float data.toUInt32, rfl, congrArg (Word.mk _) (toUInt64_toUInt32 data)⟩
  · exact ⟨.double data, rfl, congrArg (Word.mk _) hall.symm⟩
  · exact ⟨.ref ⟨data.toUInt32⟩, rfl, congrArg (Word.mk _) (toUInt64_toUInt32 data)⟩
  · exact ⟨.handle data.toUInt32, rfl, congrArg (Word.mk _) (toUInt64_toUInt32 data)⟩
  · exact absurd hgt hw

/-- A word stands for no value exactly if its tag is not known. -/
theorem toValue_eq_error {fault : Fault} :
    w.toValue = .error fault ↔ 6 < w.tag ∧ fault = .inModule (.unknownTag w.tag) := by
  by_cases hw : 6 < w.tag
  · rw [toValue_of_unknown hw]
    simp [hw, eq_comm]
  · obtain ⟨v, hv, -⟩ := toValue_of_known hw
    simp [hv, hw]

/-- The word of a value that a word stands for is that word without the bits that its tag does not
use. -/
theorem ofValue_of_toValue (hv : w.toValue = .ok v) :
    ofValue v = ⟨w.tag, w.data &&& usedBits w.tag⟩ := by
  have hw : ¬ 6 < w.tag := by
    intro hgt
    rw [toValue_of_unknown hgt] at hv
    cases hv
  obtain ⟨v', hv', hword⟩ := toValue_of_known hw
  obtain rfl : v' = v := by simpa [hv'] using hv
  exact hword

/-- A list of words is read up to the first that stands for no value. -/
theorem toValues_of_find? {words : List Word} (hw : words.find? (6 < ·.tag) = some w) :
    toValues words = .error (.inModule (.unknownTag w.tag)) := by
  induction words with
  | nil => cases hw
  | cons w' rest ih =>
    rw [toValues]
    by_cases hgt : 6 < w'.tag
    · rw [List.find?_cons_of_pos (by simpa using hgt)] at hw
      obtain rfl : w' = w := Option.some.inj hw
      rw [toValue_of_unknown hgt]
    · rw [List.find?_cons_of_neg (by simpa using hgt)] at hw
      obtain ⟨v, hv, -⟩ := toValue_of_known hgt
      rw [hv, ih hw]

end GuestHost.Word
