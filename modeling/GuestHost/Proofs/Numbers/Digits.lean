import Mathlib.Data.Nat.Digits.Lemmas
import GuestHost.Text.Radix

/-!
# Digits and what they denote

Integers are written and read digit by digit. Here the digits of a radix get their meaning, and what the
programs do with lists of digits is put in terms of `Nat.digits` and `Nat.ofDigits`:

* `effective_range` — a radix is between 2 and 36, whatever the guest asks for;
* `digitValue?_eq_some_iff` — the value of a digit is its place among the digits of its letter case;
* `digitRun_append` — the run at the start of a text takes all digits up to what is none;
* `wordOfDigits_eq` — a word that wraps at every digit is the number that the digits denote, wrapped once;
* `lowDigits_eq_digits`, `spells_natDigits` — writing takes the digits of a number, and no zero in front.
-/

namespace GuestHost.Radix

/-! ## Radixes -/

/-- Whatever the guest asks for, the digits and the letters of one case are enough. -/
theorem effective_range (radix : Int32) : 2 ≤ effective radix ∧ effective radix ≤ 36 := by
  unfold effective
  split <;> omega

/-! ## Single digits -/

/-- `c` is the digit of value `d` in a radix, in either letter case. -/
def IsDigitOf (radix d : Nat) (c : Char) : Prop :=
  d < radix ∧ ("0123456789abcdefghijklmnopqrstuvwxyz".toList[d]? = some c ∨
    "0123456789ABCDEFGHIJKLMNOPQRSTUVWXYZ".toList[d]? = some c)

instance (radix d : Nat) (c : Char) : Decidable (IsDigitOf radix d c) :=
  inferInstanceAs (Decidable (_ ∧ _))

variable {radix d n : Nat} {c : Char}

theorem IsDigitOf.mono {radix' : Nat} (h : IsDigitOf radix d c) (hle : radix ≤ radix') :
    IsDigitOf radix' d c := ⟨Nat.lt_of_lt_of_le h.1 hle, h.2⟩

/-- Digits are ASCII characters. -/
theorem toNat_lt_of_digitValue? (h : digitValue? radix c = some d) : c.toNat < 128 := by
  simp only [digitValue?, Option.filter_eq_some_iff] at h
  obtain ⟨hvalue, -⟩ := h
  split at hvalue
  · omega
  · split at hvalue
    · omega
    · split at hvalue
      · omega
      · cases hvalue

/-- The value of a digit is its place among the digits of its letter case. -/
theorem digitValue?_eq_some_iff (hradix : radix ≤ 36) :
    digitValue? radix c = some d ↔ IsDigitOf radix d c := by
  -- In the greatest radix, 128 characters have their values, and 36 values their digits in each case.
  have hvalue : ∀ n : Fin 128, (digitValue? 36 (Char.ofNat n)).all
      (fun d => IsDigitOf 36 d (Char.ofNat n)) = true := by decide +kernel
  have hlower : ∀ d : Fin 36, ("0123456789abcdefghijklmnopqrstuvwxyz".toList[d.val]?).all
      (digitValue? 36 · = some d.val) = true := by decide +kernel
  have hupper : ∀ d : Fin 36, ("0123456789ABCDEFGHIJKLMNOPQRSTUVWXYZ".toList[d.val]?).all
      (digitValue? 36 · = some d.val) = true := by decide +kernel
  have hgreatest : digitValue? 36 c = some d ↔ IsDigitOf 36 d c := by
    constructor
    · intro h
      have hc := hvalue ⟨c.toNat, toNat_lt_of_digitValue? h⟩
      simpa only [Char.ofNat_toNat, h, Option.all_some, decide_eq_true_eq] using hc
    · rintro ⟨hd, h | h⟩
      · simpa only [h, Option.all_some, decide_eq_true_eq] using hlower ⟨d, hd⟩
      · simpa only [h, Option.all_some, decide_eq_true_eq] using hupper ⟨d, hd⟩
  have hbelow : digitValue? radix c = some d ↔ d < radix ∧ digitValue? 36 c = some d := by
    simp only [digitValue?, Option.filter_eq_some_iff, decide_eq_true_eq]
    constructor
    · rintro ⟨hvalue, hlt⟩
      exact ⟨hlt, hvalue, by omega⟩
    · rintro ⟨hlt, hvalue, -⟩
      exact ⟨hvalue, hlt⟩
  rw [hbelow, hgreatest]
  exact ⟨fun h => ⟨h.1, h.2.2⟩, fun h => ⟨h.1, h.mono hradix⟩⟩

/-- The characters that may stand before digits are none. -/
theorem IsDigitOf.not_before (h : IsDigitOf radix d c) (hradix : radix ≤ 36) :
    Text.isBlank c = false ∧ c ≠ '-' ∧ c ≠ '+' := by
  have hall : ∀ n : Fin 128, (digitValue? 36 (Char.ofNat n)).isSome = true →
      Text.isBlank (Char.ofNat n) = false ∧ Char.ofNat n ≠ '-' ∧ Char.ofNat n ≠ '+' := by
    decide +kernel
  have hvalue : digitValue? 36 c = some d := (digitValue?_eq_some_iff le_rfl).2 (h.mono hradix)
  have hc := hall ⟨c.toNat, toNat_lt_of_digitValue? hvalue⟩
  simp only [Char.ofNat_toNat, hvalue, Option.isSome_some, true_implies] at hc
  exact hc

/-- A digit that is written is the one of its value. -/
theorem isDigitOf_digitChar (hd : d < radix) (hradix : radix ≤ 36) :
    IsDigitOf radix d (digitChar d) := by
  have hall : ∀ d : Fin 36, IsDigitOf 36 d (digitChar d) := by decide
  exact ⟨hd, (hall ⟨d, by omega⟩).2⟩

theorem digitChar_eq_zero_iff (hd : d < 36) : digitChar d = '0' ↔ d = 0 := by
  have hall : ∀ d : Fin 36, digitChar d = '0' ↔ d.val = 0 := by decide
  exact hall ⟨d, hd⟩

/-! ## Runs of digits -/

/-- The characters are the digits of the given values, one by one. -/
def Spells (radix : Nat) (digits : List Char) (values : List Nat) : Prop :=
  List.Forall₂ (fun c d => IsDigitOf radix d c) digits values

/-- A text does not go on with a digit. -/
def NoDigitAhead (radix : Nat) (rest : List Char) : Prop :=
  ∀ c ∈ rest.head?, ∀ d, ¬ IsDigitOf radix d c

variable {digits rest : List Char} {values : List Nat}

theorem digitRun_eq_nil_iff (hradix : radix ≤ 36) :
    digitRun radix rest = [] ↔ NoDigitAhead radix rest := by
  cases rest with
  | nil => simp [digitRun, NoDigitAhead]
  | cons c rest =>
    have hc : (∀ d, ¬ IsDigitOf radix d c) ↔ digitValue? radix c = none := by
      simp [← digitValue?_eq_some_iff hradix, Option.eq_none_iff_forall_ne_some]
    cases hvalue : digitValue? radix c <;> simp [NoDigitAhead, hc, digitRun, hvalue]

/-- The run at the start of a text takes all digits up to what is none. -/
theorem digitRun_append (hdigits : Spells radix digits values) (hrest : NoDigitAhead radix rest)
    (hradix : radix ≤ 36) : digitRun radix (digits ++ rest) = values := by
  induction hdigits with
  | nil => simpa using (digitRun_eq_nil_iff hradix).2 hrest
  | cons hc _ ih => simp [digitRun, (digitValue?_eq_some_iff hradix).2 hc, ih]

/-- Every text is digits and something that does not go on with one. -/
theorem exists_digits (radix : Nat) (text : List Char) : ∃ digits values rest,
    text = digits ++ rest ∧ Spells radix digits values ∧ NoDigitAhead radix rest := by
  induction text with
  | nil => exact ⟨[], [], [], rfl, .nil, by simp [NoDigitAhead]⟩
  | cons c text ih =>
    by_cases hc : ∃ d, IsDigitOf radix d c
    · obtain ⟨d, hd⟩ := hc
      obtain ⟨digits, values, rest, rfl, hdigits, hrest⟩ := ih
      exact ⟨c :: digits, d :: values, rest, rfl, .cons hd hdigits, hrest⟩
    · refine ⟨[], [], c :: text, rfl, .nil, ?_⟩
      simpa [NoDigitAhead] using hc

/-! ## Numbers -/

theorem ofDigits_eq (radix : Nat) (values : List Nat) :
    ofDigits radix values = Nat.ofDigits radix values.reverse := by
  simp [ofDigits, Nat.ofDigits_eq_foldr, Nat.mul_comm, Nat.add_comm]

/-- A word that wraps at every digit is the number that the digits denote, wrapped once. -/
theorem wordOfDigits_eq (radix : Nat) (values : List Nat) :
    wordOfDigits radix values = Int64.ofNat (Nat.ofDigits radix values.reverse) := by
  rw [← ofDigits_eq]
  -- One more digit does to the word what it does to the number, so the fold can be done on numbers.
  have hstep : ∀ n d, Int64.ofNat n * Int64.ofNat radix + Int64.ofNat d
      = Int64.ofNat (n * radix + d) := by
    intro n d
    rw [Int64.ofNat_add, Int64.ofNat_mul]
  exact List.foldl_hom Int64.ofNat hstep

/-! ## The digits that are written -/

theorem lowDigits_eq_digits (hradix : 2 ≤ radix) (n : Nat) :
    lowDigits radix n = Nat.digits radix n := by
  induction n using Nat.strongRecOn with
  | ind n ih =>
    rw [lowDigits]
    by_cases hn : n = 0
    · simp [hn]
    · have hpos : 0 < n := Nat.pos_of_ne_zero hn
      rw [dif_neg (by omega), ih _ (Nat.div_lt_self hpos hradix), Nat.digits_def' hradix hpos]

/-- A number that is not zero is written with the digits of `Nat.digits`, the highest first. -/
theorem natDigits_of_ne_zero (hradix : 2 ≤ radix) (hn : n ≠ 0) :
    natDigits radix n = ((Nat.digits radix n).map digitChar).reverse := by
  rw [natDigits, if_neg hn, lowDigits_eq_digits hradix]

/-- The digits of a number denote it. -/
theorem spells_natDigits (hradix : 2 ≤ radix ∧ radix ≤ 36) (n : Nat) :
    ∃ values, Spells radix (natDigits radix n) values ∧ Nat.ofDigits radix values.reverse = n := by
  by_cases hn : n = 0
  · subst hn
    exact ⟨[0], .cons ⟨by omega, .inl rfl⟩ .nil, by simp⟩
  · refine ⟨(Nat.digits radix n).reverse, ?_, by simp [Nat.ofDigits_digits]⟩
    rw [natDigits_of_ne_zero hradix.1 hn, ← List.map_reverse, Spells, List.forall₂_map_left_iff,
      List.forall₂_same]
    intro d hd
    have hlt : d < radix := Nat.digits_lt_base hradix.1 (by simpa using hd)
    exact isDigitOf_digitChar hlt hradix.2

theorem natDigits_ne_nil (hradix : 2 ≤ radix) (n : Nat) : natDigits radix n ≠ [] := by
  by_cases hn : n = 0
  · simp [natDigits, hn]
  · simpa [natDigits_of_ne_zero hradix hn, Nat.digits_ne_nil_iff_ne_zero] using hn

/-- No number but zero starts with the digit zero. -/
theorem natDigits_head_zero (hradix : 2 ≤ radix ∧ radix ≤ 36)
    (hhead : (natDigits radix n).head? = some '0') : n = 0 := by
  by_contra hn
  have hne : Nat.digits radix n ≠ [] := Nat.digits_ne_nil_iff_ne_zero.2 hn
  have hlt : (Nat.digits radix n).getLast hne < radix :=
    Nat.digits_lt_base hradix.1 (List.getLast_mem hne)
  rw [natDigits_of_ne_zero hradix.1 hn, List.head?_reverse, List.getLast?_map,
    List.getLast?_eq_some_getLast hne, Option.map_some, Option.some.injEq,
    digitChar_eq_zero_iff (by omega)] at hhead
  exact Nat.getLast_digit_ne_zero radix hn hhead

end GuestHost.Radix
