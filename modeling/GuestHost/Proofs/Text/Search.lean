import Mathlib.Order.Bounds.Basic
import GuestHost.Natives.Text
import GuestHost.Proofs.Arguments
import GuestHost.Proofs.Dispatch.Listings
import GuestHost.Proofs.Text.Words
import GuestHost.Proofs.TextObjects.Refinement

/-!
# Searching texts

Texts are searched in their UTF-8 form: the answer of a search is a byte offset, which is then counted in
scalar values. The bytes of one text stand in those of another only where its characters do, since no
character has the first byte of a character anywhere but at its start. So the offsets that are found are
those of characters, and counting gives the index that the guest asks for.

* `Text.StandsAt` — the bytes of a text stand at an offset of another one;
* `Text.standsAt_iff` — they stand where the characters do and nowhere else;
* `Text.find?_eq_some_iff_isLeast`, `Text.findLast?_eq_some_iff_isGreatest` — the programs search bytes;
* `Text.scalarIndex_offset` — counting gives an offset's index again;
* `searches_exact` — what the natives answer, in terms of indices alone.
-/

namespace GuestHost

namespace Utf8

/-! ## The first byte of a character -/

theorem isTail_byte {n : Nat} (hn : n < 256) : isTail (byte n) = true ↔ 0x80 ≤ n ∧ n ≤ 0xBF := by
  simp [isTail, UInt8.le_iff_toNat_le, toNat_byte hn]

/-- A character is one byte that continues no other, and bytes that do. -/
theorem encodeChar_eq_cons (c : Char) : ∃ b tails, encodeChar c = b :: tails ∧ isTail b = false ∧
    (∀ x ∈ tails, isTail x = true) ∧ tails.length + 1 = c.utf8Size := by
  have hvalid : c.toNat < 0xD800 ∨ 0xDFFF < c.toNat ∧ c.toNat < 0x110000 := c.valid
  have hfirst : ∀ {n : Nat}, n < 256 → (n < 0x80 ∨ 0xBF < n) → isTail (byte n) = false := by
    intro n hn hnot
    rw [Bool.eq_false_iff, Ne, isTail_byte hn]
    omega
  have htail : ∀ n, isTail (byte (0x80 + n % 64)) = true := fun n =>
    isTail_tail (Nat.mod_lt n (by decide))
  have hsize : c.utf8Size = if c.toNat < 0x80 then 1 else if c.toNat < 0x800 then 2
      else if c.toNat < 0x10000 then 3 else 4 := by
    simp only [Char.utf8Size, UInt32.le_iff_toNat_le, Char.toNat, UInt32.toNat_ofNatLT]
    repeat' split
    all_goals omega
  unfold encodeChar
  rw [hsize]
  dsimp only
  split
  · exact ⟨_, [], rfl, hfirst (by omega) (by omega), by simp, rfl⟩
  split
  · exact ⟨_, [_], rfl, hfirst (by omega) (by omega), by simp [htail], rfl⟩
  split
  · exact ⟨_, [_, _], rfl, hfirst (by omega) (by omega), by simp [htail], rfl⟩
  · exact ⟨_, [_, _, _], rfl, hfirst (by omega) (by omega), by simp [htail], rfl⟩

theorem length_encodeChar (c : Char) : (encodeChar c).length = c.utf8Size := by
  obtain ⟨b, tails, heq, -, -, hlength⟩ := encodeChar_eq_cons c
  rw [heq, List.length_cons, hlength]

/-- Bytes start with those of a text exactly if they are those of a text that starts with it. -/
theorem encode_prefix_iff {needle s : List Char} : encode needle <+: encode s ↔ needle <+: s := by
  constructor
  · rintro ⟨more, hmore⟩
    have htext := text?_encode_append needle more
    rw [hmore, text?_encode] at htext
    obtain ⟨rest, -, hrest⟩ := Option.map_eq_some_iff.1 htext.symm
    exact ⟨rest, hrest⟩
  · rintro ⟨rest, rfl⟩
    exact ⟨encode rest, (encode_append needle rest).symm⟩

end Utf8

namespace Text

open Utf8 (encode encodeChar encode_cons length_encodeChar)

variable {needle s : List Char} {o i : Nat}

/-! ## Offsets and indices -/

/-- The byte offset of the character with an index. -/
def offset (s : List Char) (i : Nat) : Nat := (encode (s.take i)).length

@[simp] theorem offset_zero (s : List Char) : offset s 0 = 0 := rfl

@[simp] theorem offset_cons_succ (c : Char) (rest : List Char) (i : Nat) :
    offset (c :: rest) (i + 1) = offset rest i + c.utf8Size := by
  simp [offset, encode_cons, length_encodeChar, Nat.add_comm]

theorem offset_length (s : List Char) : offset s s.length = (encode s).length := by
  rw [offset, List.take_length]

theorem offset_mono {j : Nat} (hle : i ≤ j) : offset s i ≤ offset s j := by
  obtain ⟨more, hmore⟩ := List.take_prefix_take_left hle (l := s)
  rw [offset, offset, ← hmore, Utf8.encode_append]
  simp

/-- **Counting the characters before an offset** gives the index that it is the offset of. -/
theorem scalarIndex_offset (hi : i ≤ s.length) : scalarIndex s (offset s i) = i := by
  induction s generalizing i with
  | nil => simp [scalarIndex, Nat.le_zero.1 hi]
  | cons c rest ih =>
    cases i with
    | zero => rfl
    | succ i =>
      obtain ⟨n, hn⟩ : ∃ n, c.utf8Size = n + 1 := ⟨c.utf8Size - 1, by have := c.utf8Size_pos; omega⟩
      have hrest := ih (i := i) (by simpa using hi)
      rw [offset_cons_succ, hn, ← Nat.add_assoc, scalarIndex, hn,
        show offset rest i + n + 1 - (n + 1) = offset rest i by omega, hrest, Nat.add_comm]

/-! ## Where bytes stand -/

/-- The bytes of a text stand at an offset of those of another one. -/
def StandsAt (needle s : List Char) (o : Nat) : Prop :=
  o ≤ (encode s).length ∧ encode needle <+: (encode s).drop o

theorem standsAt_offset (hi : i ≤ s.length) : StandsAt needle s (offset s i) ↔ needle <+: s.drop i := by
  have hdrop : (encode s).drop (offset s i) = encode (s.drop i) := by
    conv_lhs => rw [← List.take_append_drop i s, Utf8.encode_append]
    rw [List.drop_append_of_le_length (by simp [offset]), List.drop_eq_nil_of_le (by simp [offset])]
    rfl
  rw [StandsAt, hdrop, Utf8.encode_prefix_iff, ← offset_length]
  exact and_iff_right (offset_mono hi)

/-- Inside a character there are only bytes that no character starts with. -/
theorem not_prefix_inside {c : Char} (hne : needle ≠ []) (hpos : 0 < o)
    (hlt : o < (encodeChar c).length) (more : Bytes) :
    ¬ encode needle <+: (encodeChar c ++ more).drop o := by
  intro hpre
  obtain ⟨d, needle, rfl⟩ := List.exists_cons_of_ne_nil hne
  obtain ⟨b, tails, hc, -, htails, -⟩ := Utf8.encodeChar_eq_cons c
  obtain ⟨first, _, hd, hfirst, -, -⟩ := Utf8.encodeChar_eq_cons d
  obtain ⟨k, rfl⟩ := Nat.exists_eq_succ_of_ne_zero hpos.ne'
  have hk : k < tails.length := by simpa [hc] using hlt
  rw [List.drop_append_of_le_length hlt.le, hc, List.drop_succ_cons, List.drop_eq_getElem_cons hk,
    encode_cons, hd, List.cons_append, List.cons_append, List.cons_prefix_cons] at hpre
  have htail := htails _ (List.getElem_mem hk)
  rw [← hpre.1, hfirst] at htail
  cases htail

/-- **Bytes of a text that is not empty stand only where its characters do.** -/
theorem standsAt_iff (hne : needle ≠ []) :
    StandsAt needle s o ↔ ∃ i ≤ s.length, o = offset s i ∧ needle <+: s.drop i := by
  constructor
  · rintro ⟨hle, hpre⟩
    induction s generalizing o with
    | nil =>
      have hnil : encode needle <+: encode [] := by simpa using hpre
      exact ⟨0, Nat.le_refl 0, by simpa using hle, Utf8.encode_prefix_iff.1 hnil⟩
    | cons c rest ih =>
      rw [encode_cons] at hle hpre
      by_cases hzero : o = 0
      · -- The bytes stand at the front.
        subst hzero
        rw [List.drop_zero, ← encode_cons, Utf8.encode_prefix_iff] at hpre
        exact ⟨0, Nat.zero_le _, rfl, hpre⟩
      · have hge : (encodeChar c).length ≤ o := by
          by_contra hlt
          exact not_prefix_inside hne (Nat.pos_of_ne_zero hzero) (by omega) _ hpre
        obtain ⟨k, rfl⟩ := Nat.exists_eq_add_of_le hge
        rw [List.drop_append, List.drop_eq_nil_of_le (Nat.le_add_right _ k)] at hpre
        obtain ⟨i, hi, rfl, hrest⟩ := ih (by simpa using hle) (by simpa using hpre)
        exact ⟨i + 1, by simpa using hi,
          by rw [offset_cons_succ, length_encodeChar, Nat.add_comm], hrest⟩
  · rintro ⟨i, hi, rfl, hpre⟩
    exact (standsAt_offset hi).2 hpre

/-! ## The first and the last place -/

/-- Where a search finds something, it finds the first place. -/
theorem find?_eq_some (h : find? needle s = some o) : ∃ i ≤ s.length, o = offset s i ∧
    needle <+: s.drop i ∧ ∀ j < i, ¬ needle <+: s.drop j := by
  induction s generalizing o with
  | nil =>
    obtain ⟨rfl, rfl⟩ : needle = [] ∧ 0 = o := by simpa [find?] using h
    exact ⟨0, Nat.le_refl 0, rfl, List.nil_prefix, by simp⟩
  | cons c rest ih =>
    rw [find?] at h
    by_cases hpre : needle <+: c :: rest
    · rw [if_pos (List.isPrefixOf_iff_prefix.2 hpre)] at h
      exact ⟨0, Nat.zero_le _, (Option.some.inj h).symm, hpre, by simp⟩
    · rw [if_neg fun hp => hpre (List.isPrefixOf_iff_prefix.1 hp)] at h
      obtain ⟨o, ho, rfl⟩ := Option.map_eq_some_iff.1 h
      obtain ⟨i, hi, rfl, hstart, hleast⟩ := ih ho
      refine ⟨i + 1, by simpa using hi, (offset_cons_succ c rest i).symm, hstart, fun j hj => ?_⟩
      cases j with
      | zero => exact hpre
      | succ j => exact hleast j (by omega)

theorem infix_of_prefix_drop (h : needle <+: s.drop i) : needle <:+: s :=
  h.isInfix.trans (List.drop_suffix i s).isInfix

/-- A search from the end succeeds exactly where there is something to be found. -/
theorem findLast?_isSome_iff : (findLast? needle s).isSome = true ↔ needle <:+: s := by
  induction s with
  | nil => simp [findLast?, List.infix_nil]
  | cons c rest ih =>
    rw [findLast?, List.infix_cons_iff, ← ih]
    cases findLast? needle rest with
    | some o => simp
    | none => by_cases hpre : needle <+: c :: rest <;> simp [hpre]

theorem singleton_prefix_drop {c : Char} : [c] <+: s.drop i ↔ s[i]? = some c := by
  rw [← List.head?_drop]
  cases s.drop i <;> simp [eq_comm]

/-- Where a search from the end finds something, it finds the last place. -/
theorem findLast?_eq_some (h : findLast? needle s = some o) : ∃ i ≤ s.length, o = offset s i ∧
    needle <+: s.drop i ∧ ∀ j ≤ s.length, needle <+: s.drop j → j ≤ i := by
  induction s generalizing o with
  | nil =>
    obtain ⟨rfl, rfl⟩ : needle = [] ∧ 0 = o := by simpa [findLast?] using h
    exact ⟨0, Nat.le_refl 0, rfl, List.nil_prefix, fun j hj _ => hj⟩
  | cons c rest ih =>
    rw [findLast?] at h
    cases hrest : findLast? needle rest with
    | some o' =>
      obtain rfl : o' + c.utf8Size = o := by simpa [hrest] using h
      obtain ⟨i, hi, rfl, hstart, hgreatest⟩ := ih hrest
      refine ⟨i + 1, by simpa using hi, (offset_cons_succ c rest i).symm, hstart, ?_⟩
      intro j hj hpre
      cases j with
      | zero => exact Nat.zero_le _
      | succ j => exact Nat.succ_le_succ (hgreatest j (by simpa using hj) hpre)
    | none =>
      obtain ⟨hpre, rfl⟩ : needle <+: c :: rest ∧ 0 = o := by simpa [hrest] using h
      refine ⟨0, Nat.zero_le _, rfl, hpre, fun j hj hlater => ?_⟩
      cases j with
      | zero => exact Nat.le_refl 0
      | succ j =>
        have hfound := findLast?_isSome_iff.2 (infix_of_prefix_drop (s := rest) hlater)
        simp [hrest] at hfound

theorem infix_of_standsAt (h : StandsAt needle s o) : needle <:+: s := by
  by_cases hne : needle = []
  · exact hne ▸ List.nil_infix
  · obtain ⟨i, -, -, hpre⟩ := (standsAt_iff hne).1 h
    exact infix_of_prefix_drop hpre

/-- **The first place is the least offset** at which the bytes stand. -/
theorem find?_eq_some_iff_isLeast :
    find? needle s = some o ↔ IsLeast {o | StandsAt needle s o} o := by
  have hleast : ∀ {o}, find? needle s = some o → IsLeast {o | StandsAt needle s o} o := by
    intro o h
    obtain ⟨i, hi, rfl, hpre, hfirst⟩ := find?_eq_some h
    refine ⟨(standsAt_offset hi).2 hpre, fun o' ho' => ?_⟩
    by_cases hne : needle = []
    · -- The empty text stands everywhere, so it is found at the front.
      have hzero : i = 0 := by
        by_contra hpos
        exact hfirst 0 (Nat.pos_of_ne_zero hpos) (hne ▸ List.nil_prefix)
      simp [hzero]
    · obtain ⟨j, -, rfl, hj⟩ := (standsAt_iff hne).1 ho'
      exact offset_mono (Nat.not_lt.1 fun hlt => hfirst j hlt hj)
  refine ⟨hleast, fun h => ?_⟩
  obtain ⟨o', ho'⟩ := Option.isSome_iff_exists.1 (find?_isSome_iff.2 (infix_of_standsAt h.1))
  rw [ho', (hleast ho').unique h]

/-- **The last place is the greatest offset** at which the bytes stand. -/
theorem findLast?_eq_some_iff_isGreatest :
    findLast? needle s = some o ↔ IsGreatest {o | StandsAt needle s o} o := by
  have hgreatest : ∀ {o}, findLast? needle s = some o → IsGreatest {o | StandsAt needle s o} o := by
    intro o h
    obtain ⟨i, hi, rfl, hpre, hlast⟩ := findLast?_eq_some h
    refine ⟨(standsAt_offset hi).2 hpre, fun o' ho' => ?_⟩
    by_cases hne : needle = []
    · -- The empty text stands everywhere, so it is found at the end.
      have hlength : s.length ≤ i := hlast _ (Nat.le_refl _) (hne ▸ List.nil_prefix)
      rw [Nat.le_antisymm hi hlength, offset_length]
      exact ho'.1
    · obtain ⟨j, hj, rfl, hstart⟩ := (standsAt_iff hne).1 ho'
      exact offset_mono (hlast j hj hstart)
  refine ⟨hgreatest, fun h => ?_⟩
  obtain ⟨o', ho'⟩ := Option.isSome_iff_exists.1 (findLast?_isSome_iff.2 (infix_of_standsAt h.1))
  rw [ho', (hgreatest ho').unique h]

end Text

/-! ## The natives -/

/-- The character at an index of a guest's string is the guest's `n`. -/
def Host.HasCharAt (h : Host) (v : Value) (i n : Int32) : Prop :=
  (TextNative.run .charAt [v, .int i]).apply h = (.ok (.int n), h)

namespace TextNative

variable {h : Host} {v w : Value} {s t : String} {n : Int32}

/-- The scalar value that a guest character holds is the one that it is the form of. -/
theorem scalar?_eq_some_iff {c : Char} : Text.scalar? n = some c ↔ Value.ofChar c = .int n := by
  have hsmall : c.toNat < 2 ^ 31 := by
    have hvalid : c.toNat < 0xD800 ∨ 0xDFFF < c.toNat ∧ c.toNat < 0x110000 := c.valid
    omega
  have htoInt : (Int32.ofNat c.toNat).toInt = c.toNat := Int32.toInt_ofNat_of_lt hsmall
  simp only [Text.scalar?_eq_withNumber?, Text.withNumber?, Option.filter_eq_some_iff,
    Option.some.injEq, decide_eq_true_eq, Value.ofChar, Value.int.injEq]
  constructor
  · rintro ⟨-, hn⟩
    exact Int32.toInt_inj.1 (htoInt.trans hn)
  · rintro rfl
    rw [htoInt, Int.toNat_natCast]
    exact ⟨Char.ofNat_toNat c, rfl⟩

theorem hasCharAt_iff (hs : h.text v = .ok s) {i : Int32} :
    h.HasCharAt v i n ↔
      0 ≤ i ∧ ∃ c, Text.scalar? n = some c ∧ s.toList[i.toInt.toNat]? = some c := by
  have htext : (Args.text [v, .int i] 0).apply h = (.ok s.toList, h) :=
    Args.text_eq_ok.2 ⟨⟨v, s, rfl, hs, rfl⟩, rfl⟩
  simp only [Host.HasCharAt, run, runCharAt, Action.apply_bind_of_ok htext, scalar?_eq_some_iff]
  constructor
  · intro hrun
    obtain ⟨m, h₁, hindex, hrest⟩ := Action.apply_bind_eq_ok.1 hrun
    obtain ⟨hm, rfl⟩ := Action.apply_ofResult_eq_ok.1 hindex
    obtain ⟨p, hp, hpos, hplace⟩ := Args.index_eq_ok.1 hm
    obtain rfl : i = p := by simpa using hp
    refine ⟨hpos, ?_⟩
    rw [hplace]
    cases hc : s.toList[m]? with
    | none => simp [hc] at hrest
    | some c => exact ⟨c, by simpa [hc] using hrest, rfl⟩
  · rintro ⟨hpos, c, hn, hc⟩
    rw [Args.index_eq_ok.2 ⟨i, rfl, hpos, rfl⟩, Action.apply_bind_of_ok (Action.apply_ofResult _)]
    simp only [hc, hn, Action.apply_pure]

theorem apply_indexOf (hs : h.text v = .ok s) (n : Int32) :
    (run .indexOf [v, .int n]).apply h
      = (.ok (indexValue s.toList ((Text.scalar? n).bind fun c => Text.find? [c] s.toList)), h) := by
  have htext : (Args.text [v, .int n] 0).apply h = (.ok s.toList, h) :=
    Args.text_eq_ok.2 ⟨⟨v, s, rfl, hs, rfl⟩, rfl⟩
  exact Action.apply_bind_of_ok htext _

theorem apply_lastIndexOf (hs : h.text v = .ok s) (ht : h.text w = .ok t) :
    (run .lastIndexOf [v, w]).apply h
      = (.ok (indexValue s.toList (Text.findLast? t.toList s.toList)), h) := by
  have hfirst : (Args.text [v, w] 0).apply h = (.ok s.toList, h) :=
    Args.text_eq_ok.2 ⟨⟨v, s, rfl, hs, rfl⟩, rfl⟩
  have hsecond : (Args.text [v, w] 1).apply h = (.ok t.toList, h) :=
    Args.text_eq_ok.2 ⟨⟨w, t, rfl, ht, rfl⟩, rfl⟩
  exact (Action.apply_bind_of_ok hfirst _).trans (Action.apply_bind_of_ok hsecond _)

/-- An offset that is found is answered as its index. -/
theorem indexValue_offset {cs : List Char} {i : Nat} (hi : i ≤ cs.length) :
    indexValue cs (some (Text.offset cs i)) = .int (Int32.ofNat i) := by
  simp [indexValue, Text.scalarIndex_offset hi]

theorem toInt_index {i : Nat} (hi : i ≤ s.length) (hs : s.length < 2 ^ 31) :
    (Int32.ofNat i).toInt = i := Int32.toInt_ofNat_of_lt (by omega)

theorem index_ne {i : Nat} (hi : (Int32.ofNat i).toInt = i) : Int32.ofNat i ≠ -1 := by
  intro heq
  rw [heq] at hi
  simp at hi

/-- **The index of a character** is the least one that it is at. -/
theorem indexOf_exact (hs : h.text v = .ok s) (hlt : s.length < 2 ^ 31) (n : Int32) :
    ∃ answer : Int32, (run .indexOf [v, .int n]).apply h = (.ok (.int answer), h) ∧
      (answer = -1 ↔ ∀ i, ¬ h.HasCharAt v i n) ∧
      (answer ≠ -1 → h.HasCharAt v answer n ∧ ∀ i, h.HasCharAt v i n → answer ≤ i) := by
  have hiff : ∀ i, h.HasCharAt v i n ↔
      0 ≤ i ∧ ∃ c, Text.scalar? n = some c ∧ [c] <+: s.toList.drop i.toInt.toNat := by
    intro i
    simp only [hasCharAt_iff hs, Text.singleton_prefix_drop]
  rw [apply_indexOf hs]
  cases hfound : (Text.scalar? n).bind fun c => Text.find? [c] s.toList with
  | none =>
    have hnone : ∀ i, ¬ h.HasCharAt v i n := by
      intro i hi
      obtain ⟨-, c, hc, hpre⟩ := (hiff i).1 hi
      have hsome := Text.find?_isSome_iff.2 (Text.infix_of_prefix_drop hpre)
      simp only [hc, Option.bind_some] at hfound
      simp [hfound] at hsome
    exact ⟨-1, rfl, by simp [hnone], fun hne => absurd rfl hne⟩
  | some o =>
    obtain ⟨c, hc, ho⟩ := Option.bind_eq_some_iff.1 hfound
    obtain ⟨i, hi, rfl, hpre, hfirst⟩ := Text.find?_eq_some ho
    have hindex : (Int32.ofNat i).toInt = i := toInt_index (String.length_toList ▸ hi) hlt
    have hat : h.HasCharAt v (Int32.ofNat i) n :=
      (hiff _).2 ⟨by simp [Int32.le_iff_toInt_le, hindex], c, hc, by simpa [hindex] using hpre⟩
    refine ⟨Int32.ofNat i, by rw [indexValue_offset hi], ?_, fun _ => ⟨hat, fun j hj => ?_⟩⟩
    · exact iff_of_false (index_ne hindex) fun hnone => hnone _ hat
    · obtain ⟨hpos, c', hc', hpre'⟩ := (hiff j).1 hj
      obtain rfl : c = c' := Option.some.inj (hc.symm.trans hc')
      have hnot : ¬ j.toInt.toNat < i := fun hlt => hfirst _ hlt hpre'
      rw [Int32.le_iff_toInt_le, Int32.toInt_zero] at hpos
      rw [Int32.le_iff_toInt_le, hindex]
      omega

/-- **The last index of a text** is the greatest one that it begins at. -/
theorem lastIndexOf_exact (hs : h.text v = .ok s) (hlt : s.length < 2 ^ 31)
    (ht : h.text w = .ok t) :
    ∃ answer : Int32, (run .lastIndexOf [v, w]).apply h = (.ok (.int answer), h) ∧
      (answer = -1 ↔ ¬ t.toList <:+: s.toList) ∧
      (answer ≠ -1 → ∃ i : Nat, answer.toInt = i ∧
        IsGreatest {i | i ≤ s.length ∧ t.toList <+: s.toList.drop i} i) ∧
      (t = "" → answer.toInt = s.length) := by
  rw [apply_lastIndexOf hs ht]
  cases hfound : Text.findLast? t.toList s.toList with
  | none =>
    have hnot : ¬ t.toList <:+: s.toList := by
      rw [← Text.findLast?_isSome_iff, hfound]
      simp
    refine ⟨-1, rfl, by simp [hnot], fun hne => absurd rfl hne, ?_⟩
    rintro rfl
    exact absurd List.nil_infix hnot
  | some o =>
    obtain ⟨i, hi, rfl, hpre, hlast⟩ := Text.findLast?_eq_some hfound
    have hle : i ≤ s.length := String.length_toList ▸ hi
    have hindex : (Int32.ofNat i).toInt = i := toInt_index hle hlt
    refine ⟨Int32.ofNat i, by rw [indexValue_offset hi], ?_, fun _ => ⟨i, hindex, ⟨hle, hpre⟩, ?_⟩, ?_⟩
    · exact iff_of_false (index_ne hindex) (not_not_intro (Text.infix_of_prefix_drop hpre))
    · rintro j ⟨hj, hstart⟩
      exact hlast j (String.length_toList.symm ▸ hj) hstart
    · rintro rfl
      have hend : s.length ≤ i := hlast s.length String.length_toList.ge List.nil_prefix
      rw [hindex, Nat.le_antisymm hle hend]

/-- A native of strings is found under its name. -/
theorem find?_string {key : String} {native : TextNative}
    (hl : ("java.lang.String", key, .onInstance, .text native) ∈ Builtin.textListings) :
    Imports.standard.find? "java.lang.String" key = some ⟨.onInstance, .builtin (.text native)⟩ :=
  Builtin.find?_of_mem_listings (Builtin.mem_listings_of_text hl)

end TextNative

/-- **Searches are exact in indices.** A search finds the least or the greatest byte offset at which the
UTF-8 form of one text stands in that of another. The offset always lies between two characters, and
counting the characters before it gives their number. So the natives of strings with fewer than 2^31 scalar
values answer with the least index at which there is the given character, whatever number it has, and with
the greatest one at which the given text begins, which is the length for the empty text. The answer is -1
exactly if there is none. -/
theorem searches_exact :
    (∀ (needle s : List Char) (o : Nat),
      (Text.find? needle s = some o ↔ IsLeast {o | Text.StandsAt needle s o} o) ∧
      (Text.findLast? needle s = some o ↔ IsGreatest {o | Text.StandsAt needle s o} o) ∧
      (Text.find? needle s = some o ∨ Text.findLast? needle s = some o →
        ∃ before after, s = before ++ after ∧ o = (Utf8.encode before).length ∧
          Text.scalarIndex s o = before.length)) ∧
    (Imports.standard.find? "java.lang.String" "C$charAt$I"
        = some ⟨.onInstance, .builtin (.text .charAt)⟩ ∧
      Imports.standard.find? "java.lang.String" "I$indexOf$I"
        = some ⟨.onInstance, .builtin (.text .indexOf)⟩ ∧
      Imports.standard.find? "java.lang.String" "I$lastIndexOf$Ljava$lang$String$"
        = some ⟨.onInstance, .builtin (.text .lastIndexOf)⟩) ∧
    ∀ (h : Host) (v : Value) (s : String), h.text v = .ok s → s.length < 2 ^ 31 →
      (∀ n : Int32, ∃ answer : Int32,
        (TextNative.run .indexOf [v, .int n]).apply h = (.ok (.int answer), h) ∧
        (answer = -1 ↔ ∀ i, ¬ h.HasCharAt v i n) ∧
        (answer ≠ -1 → h.HasCharAt v answer n ∧ ∀ i, h.HasCharAt v i n → answer ≤ i)) ∧
      ∀ (w : Value) (t : String), h.text w = .ok t → ∃ answer : Int32,
        (TextNative.run .lastIndexOf [v, w]).apply h = (.ok (.int answer), h) ∧
        (answer = -1 ↔ ¬ t.toList <:+: s.toList) ∧
        (answer ≠ -1 → ∃ i : Nat, answer.toInt = i ∧
          IsGreatest {i | i ≤ s.length ∧ t.toList <+: s.toList.drop i} i) ∧
        (t = "" → answer.toInt = s.length) := by
  refine ⟨fun needle s o => ⟨Text.find?_eq_some_iff_isLeast, Text.findLast?_eq_some_iff_isGreatest,
      fun hfound => ?_⟩,
    ⟨TextNative.find?_string (by simp [Builtin.textListings, Builtin.of]),
      TextNative.find?_string (by simp [Builtin.textListings, Builtin.of]),
      TextNative.find?_string (by simp [Builtin.textListings, Builtin.of])⟩,
    fun h v s hs hlt => ⟨TextNative.indexOf_exact hs hlt,
      fun w t ht => TextNative.lastIndexOf_exact hs hlt ht⟩⟩
  obtain ⟨i, hi, rfl⟩ : ∃ i ≤ s.length, o = Text.offset s i := by
    rcases hfound with hfirst | hlast
    · obtain ⟨i, hi, ho, -⟩ := Text.find?_eq_some hfirst
      exact ⟨i, hi, ho⟩
    · obtain ⟨i, hi, ho, -⟩ := Text.findLast?_eq_some hlast
      exact ⟨i, hi, ho⟩
  refine ⟨s.take i, s.drop i, (List.take_append_drop i s).symm, rfl, ?_⟩
  rw [Text.scalarIndex_offset hi, List.length_take, Nat.min_eq_left hi]

/-- Among characters of one, two and four bytes, the last of two overlapping places has index 3. -/
theorem searches_exact_overlapping :
    let host : Host :=
      { config := {},
        heap := ⟨#[.object ⟨CoreClass.string, .empty, .text "aé😀é😀é"⟩,
          .object ⟨CoreClass.string, .empty, .text "é😀é"⟩]⟩,
        registry := .initial, linkage := .empty, files := .empty, source := .staged .empty,
        imports := .empty, attached := none, surroundings := { millis := 0, seed := 0 } }
    host.text (.ref ⟨0⟩) = .ok "aé😀é😀é" ∧ host.text (.ref ⟨1⟩) = .ok "é😀é" ∧ ∃ answer : Int32,
      (TextNative.run .lastIndexOf [.ref ⟨0⟩, .ref ⟨1⟩]).apply host = (.ok (.int answer), host) ∧
        answer.toInt = 3 := by
  intro host
  have hs : host.text (.ref ⟨0⟩) = .ok "aé😀é😀é" := by decide +kernel
  have ht : host.text (.ref ⟨1⟩) = .ok "é😀é" := by decide +kernel
  obtain ⟨answer, hrun, hnone, hsome, -⟩ :=
    (searches_exact.2.2 host (.ref ⟨0⟩) "aé😀é😀é" hs (by decide)).2 (.ref ⟨1⟩) "é😀é" ht
  have hplace : ∀ i ≤ 6, "é😀é".toList <+: "aé😀é😀é".toList.drop i → i ≤ 3 := by decide
  have hthree : "é😀é".toList <+: "aé😀é😀é".toList.drop 3 := by decide
  obtain ⟨i, hi, ⟨hle, hpre⟩, hgreatest⟩ :=
    hsome fun heq => hnone.1 heq (Text.infix_of_prefix_drop hthree)
  have hthree_le : 3 ≤ i := hgreatest ⟨by decide, hthree⟩
  have hle_three : i ≤ 3 := hplace i hle hpre
  exact ⟨hs, ht, answer, hrun, by omega⟩

end GuestHost
