import Mathlib.Algebra.Group.Nat.Defs
import Mathlib.Data.List.DropRight
import Mathlib.Data.List.Infix
import GuestHost.Proofs.Text.Utf8
import GuestHost.Text.Letters
import GuestHost.Text.Radix
import GuestHost.Text.Scalars

/-!
# Words, blanks and numerals

Lines of a protocol are read by cutting blanks off, comparing words without regard to letter case, and
reading numerals.

* `trimEnd_append`, `trim_trimEnd`, `trim_padded` — what cutting blanks off does to a text put together
  from pieces;
* `toLower_ascii` — on ASCII texts the lowercase form is the one of each letter;
* `find?_isSome_iff` — a search succeeds exactly where there is something to be found;
* `Numeral`, `natOf?_numeral` — a numeral is read as the number that it stands for.
-/

namespace GuestHost.Text

open Utf8 (IsAscii)

/-- What can be tested of each character of a text. -/
theorem forall_mem_of_all {p : Char → Prop} [DecidablePred p] {s : List Char}
    (h : s.all (fun c => decide (p c)) = true) : ∀ c ∈ s, p c := by
  simpa using h

/-! ## Blanks -/

theorem trimEnd_eq_rdropWhile (s : List Char) : trimEnd s = s.rdropWhile isBlank := rfl

/-- Visible ASCII characters are no blanks. -/
theorem isBlank_of_visible {c : Char} (h : 32 < c.toNat ∧ c.toNat < 127) : isBlank c = false := by
  simp only [isBlank, blankRanges, List.any_cons, List.any_nil, Bool.or_false, Bool.or_eq_false_iff,
    Bool.and_eq_false_iff, decide_eq_false_iff_not]
  omega

theorem trimEnd_eq_nil_iff {s : List Char} : trimEnd s = [] ↔ ∀ c ∈ s, isBlank c = true :=
  List.rdropWhile_eq_nil_iff

/-- If something stays of the end of a text, nothing before it is cut off. -/
theorem trimEnd_append {t : List Char} (ht : trimEnd t ≠ []) (s : List Char) :
    trimEnd (s ++ t) = s ++ trimEnd t := by
  have hrev : t.reverse.dropWhile isBlank ≠ [] := fun h => ht (by rw [trimEnd, h]; rfl)
  have hdrop : (t.reverse ++ s.reverse).dropWhile isBlank
      = t.reverse.dropWhile isBlank ++ s.reverse := by
    rw [List.dropWhile_append, if_neg]
    simpa using hrev
  rw [trimEnd, trimEnd, List.reverse_append, hdrop, List.reverse_append, List.reverse_reverse]

theorem trimEnd_append_blanks {t : List Char} (ht : ∀ c ∈ t, isBlank c = true) (s : List Char) :
    trimEnd (s ++ t) = trimEnd s := by
  have hdrop : (t.reverse ++ s.reverse).dropWhile isBlank = s.reverse.dropWhile isBlank := by
    rw [List.dropWhile_append_of_pos]
    intro c hc
    exact ht c (List.mem_reverse.1 hc)
  rw [trimEnd, trimEnd, List.reverse_append, hdrop]

/-- A character that is no blank stays, with all that comes before it. -/
theorem trimEnd_append_cons {c : Char} (hc : isBlank c = false) (s t : List Char) :
    trimEnd (s ++ c :: t) = s ++ c :: trimEnd t := by
  have hne : trimEnd (c :: t) ≠ [] := by
    rw [Ne, trimEnd_eq_nil_iff]
    intro h
    simp [h c List.mem_cons_self] at hc
  have hcons : trimEnd (c :: t) = c :: trimEnd t := by
    by_cases ht : trimEnd t = []
    · rw [ht]
      have := trimEnd_append_blanks (trimEnd_eq_nil_iff.1 ht) [c]
      simpa [trimEnd, hc] using this
    · simpa using trimEnd_append ht [c]
  rw [trimEnd_append hne, hcons]

theorem trimStart_of_head {c : Char} (hc : isBlank c = false) (s : List Char) :
    trimStart (c :: s) = c :: s := by
  simp [trimStart, hc]

/-- A text that starts with no blank is trimmed at its end only. -/
theorem trim_of_head {c : Char} (hc : isBlank c = false) (s : List Char) :
    trim (c :: s) = trimEnd (c :: s) := by
  rw [trim, trimStart_of_head hc]

/-- A text without blanks stays as it is. -/
theorem trim_of_no_blank {s : List Char} (h : ∀ c ∈ s, isBlank c = false) : trim s = s := by
  cases s with
  | nil => rfl
  | cons c rest =>
    rw [trim_of_head (h c List.mem_cons_self), trimEnd_eq_rdropWhile, List.rdropWhile_eq_self_iff]
    intro hne
    simpa using h _ (List.getLast_mem hne)

theorem trim_blanks {s : List Char} (h : ∀ c ∈ s, isBlank c = true) : trim s = [] := by
  rw [trim, trimStart, List.dropWhile_eq_nil_iff.2 h]
  rfl

/-- Cutting blanks off the end first makes no difference. -/
theorem trim_trimEnd (s : List Char) : trim (trimEnd s) = trim s := by
  obtain ⟨blanks, hs, hblanks⟩ : ∃ blanks, s = trimEnd s ++ blanks ∧ ∀ c ∈ blanks, isBlank c = true :=
    ⟨s.rtakeWhile isBlank, List.rdropWhile_append_rtakeWhile.symm,
      fun c hc => List.mem_rtakeWhile_imp hc⟩
  by_cases hall : ∀ c ∈ trimEnd s, isBlank c = true
  · have hs' : ∀ c ∈ s, isBlank c = true := by
      intro c hc
      rw [hs, List.mem_append] at hc
      exact hc.elim (hall c) (hblanks c)
    rw [trim_blanks hall, trim_blanks hs']
  · have hdrop : (trimEnd s).dropWhile isBlank ≠ [] := fun h => hall (List.dropWhile_eq_nil_iff.1 h)
    have hstart : trimStart s = trimStart (trimEnd s) ++ blanks := by
      conv_lhs => rw [hs]
      rw [trimStart, List.dropWhile_append, if_neg (by simpa using hdrop)]
      rfl
    rw [trim, trim, hstart, trimEnd_append_blanks hblanks]

/-- Blanks around a word are cut off. -/
theorem trim_padded {before word after : List Char} (hbefore : ∀ c ∈ before, isBlank c = true)
    (hword : ∀ c ∈ word, isBlank c = false) (hne : word ≠ [])
    (hafter : ∀ c ∈ after, isBlank c = true) : trim (before ++ word ++ after) = word := by
  obtain ⟨c, rest, rfl⟩ := List.exists_cons_of_ne_nil hne
  have hc : isBlank c = false := hword c List.mem_cons_self
  have hstart : trimStart (before ++ (c :: rest) ++ after) = (c :: rest) ++ after := by
    rw [trimStart, List.append_assoc, List.dropWhile_append_of_pos hbefore]
    exact trimStart_of_head hc _
  have hself := trim_of_no_blank hword
  rw [trim_of_head hc] at hself
  rw [trim, hstart, trimEnd_append_blanks hafter, hself]

/-- Blanks behind a word are cut off. -/
theorem trim_word_append {word after : List Char} (hword : ∀ c ∈ word, isBlank c = false)
    (hne : word ≠ []) (hafter : ∀ c ∈ after, isBlank c = true) : trim (word ++ after) = word :=
  trim_padded (fun _ hc => (List.not_mem_nil hc).elim) hword hne hafter

/-- Cutting blanks off leaves a word in a text. -/
theorem infix_trim {word s : List Char} (hword : ∀ c ∈ word, isBlank c = false)
    (h : word <:+: s) : word <:+: trim s := by
  rcases word with _ | ⟨c, rest⟩
  · exact List.nil_infix
  obtain ⟨a, b, rfl⟩ := h
  have hc : isBlank c = false := hword c List.mem_cons_self
  -- The start of what is left still has the word, with something before it.
  obtain ⟨a', hstart⟩ : ∃ a', trimStart (a ++ (c :: rest) ++ b) = a' ++ (c :: rest) ++ b := by
    by_cases ha : a.dropWhile isBlank = []
    · refine ⟨[], ?_⟩
      rw [trimStart, List.append_assoc, List.dropWhile_append, if_pos (by simpa using ha)]
      exact trimStart_of_head hc _
    · refine ⟨a.dropWhile isBlank, ?_⟩
      rw [trimStart, List.append_assoc, List.dropWhile_append, if_neg (by simpa using ha),
        List.append_assoc]
  rw [trim, hstart]
  by_cases hb : trimEnd b = []
  · have hself := trim_of_no_blank hword
    rw [trim_of_head hc] at hself
    refine ⟨a', [], ?_⟩
    rw [trimEnd_append_blanks (trimEnd_eq_nil_iff.1 hb), trimEnd_append (by rw [hself]; simp), hself,
      List.append_nil]
  · exact ⟨a', trimEnd b, (trimEnd_append hb _).symm⟩

theorem trim_subset (s : List Char) : trim s ⊆ s := by
  have hstart : trimStart s ⊆ s := (List.dropWhile_suffix _).subset
  have hend : trimEnd (trimStart s) ⊆ trimStart s := (List.rdropWhile_prefix _ _).subset
  exact List.Subset.trans hend hstart

/-! ## Letter case -/

theorem lower_ascii {c : Char} (hc : c.toNat < 128) : lower c = [c.toLower] := by
  have hall : ∀ n : Fin 128, lower (Char.ofNat n) = [(Char.ofNat n).toLower] := by decide +kernel
  simpa [Char.ofNat_toNat] using hall ⟨c.toNat, hc⟩

/-- On ASCII texts the lowercase form is the one of each letter. -/
theorem toLower_ascii {s : List Char} (h : IsAscii s) : toLower s = s.map Char.toLower := by
  induction s with
  | nil => rfl
  | cons c rest ih =>
    have hrest := ih fun d hd => h d (List.mem_cons_of_mem c hd)
    have hc := lower_ascii (h c List.mem_cons_self)
    rw [toLower, List.flatMap_cons, hc, List.map_cons]
    exact congrArg (c.toLower :: ·) hrest

/-! ## Searching -/

/-- A search succeeds exactly where there is something to be found. -/
theorem find?_isSome_iff {needle s : List Char} : (find? needle s).isSome = true ↔ needle <:+: s := by
  induction s with
  | nil => simp [find?, List.infix_nil]
  | cons c rest ih =>
    rw [find?, List.infix_cons_iff]
    by_cases hp : needle.isPrefixOf (c :: rest) = true
    · simp [hp, List.isPrefixOf_iff_prefix.1 hp]
    · have hnot : ¬ needle <+: c :: rest := fun h => hp (List.isPrefixOf_iff_prefix.2 h)
      simp [hp, hnot, ih]

end GuestHost.Text

namespace GuestHost

/-! ## Numerals -/

/-- `c` is the digit of value `d`, in either letter case. -/
def IsDigit (d : Nat) (c : Char) : Prop :=
  "0123456789abcdef".toList[d]? = some c ∨ "0123456789ABCDEF".toList[d]? = some c

/-- A text is a numeral that stands for a number: digits, the highest first. -/
inductive Numeral (radix : Nat) : List Char → Nat → Prop
  | digit {c : Char} {d : Nat} (hd : d < radix) (hc : IsDigit d c) : Numeral radix [c] d
  | snoc {s : List Char} {n : Nat} {c : Char} {d : Nat} (hs : Numeral radix s n) (hd : d < radix)
      (hc : IsDigit d c) : Numeral radix (s ++ [c]) (n * radix + d)

theorem IsDigit.lt {d : Nat} {c : Char} (h : IsDigit d c) : d < 16 := by
  rcases h with h | h <;> simpa using (List.getElem?_eq_some_iff.1 h).1

/-- A digit is one of twenty-two characters, and its value is read off it. -/
theorem IsDigit.digitValue? {radix d : Nat} {c : Char} (h : IsDigit d c) (hd : d < radix) :
    Radix.digitValue? radix c = some d := by
  have hall : ∀ d : Fin 16, ∀ c ∈ ("0123456789abcdef".toList[d.val]?).toList
      ++ ("0123456789ABCDEF".toList[d.val]?).toList,
      Radix.digitValue? 16 c = some d.val := fun d =>
    Text.forall_mem_of_all (by revert d; decide +kernel)
  have h16 : Radix.digitValue? 16 c = some d := by
    refine hall ⟨d, h.lt⟩ c ?_
    simp only [List.mem_append, Option.mem_toList]
    exact h
  simp only [Radix.digitValue?, Option.filter_eq_some_iff] at h16 ⊢
  exact ⟨h16.1, by simpa using hd⟩

namespace Numeral

variable {radix n : Nat} {s : List Char}

theorem ne_nil (h : Numeral radix s n) : s ≠ [] := by
  cases h <;> simp

theorem mem_digit (h : Numeral radix s n) : ∀ c ∈ s, ∃ d, d < radix ∧ IsDigit d c := by
  induction h with
  | digit hd hc => simpa using ⟨_, hd, hc⟩
  | snoc hs hd hc ih =>
    intro c' hc'
    rcases List.mem_append.1 hc' with hmem | hmem
    · exact ih c' hmem
    · exact ⟨_, hd, by simpa [List.mem_singleton.1 hmem] using hc⟩

theorem digitRun_append {t : List Char} (h : ∀ c ∈ s, ∃ d, d < radix ∧ IsDigit d c) :
    Radix.digitRun radix (s ++ t) = Radix.digitRun radix s ++ Radix.digitRun radix t := by
  induction s with
  | nil => rfl
  | cons c rest ih =>
    obtain ⟨d, hd, hc⟩ := h c List.mem_cons_self
    have hrest := ih fun x hx => h x (List.mem_cons_of_mem c hx)
    simp only [List.cons_append, Radix.digitRun, hc.digitValue? hd, hrest]

theorem digitRun (h : Numeral radix s n) :
    (Radix.digitRun radix s).length = s.length ∧ Radix.ofDigits radix (Radix.digitRun radix s) = n := by
  induction h with
  | digit hd hc => simp [Radix.digitRun, hc.digitValue? hd, Radix.ofDigits]
  | snoc hs hd hc ih =>
    obtain ⟨hlength, hvalue⟩ := ih
    rw [digitRun_append hs.mem_digit]
    have hlast := hc.digitValue? hd
    simp only [Radix.ofDigits] at hvalue ⊢
    simp [Radix.digitRun, hlast, hlength, List.foldl_append, hvalue]

/-- A numeral is read as the number that it stands for. -/
theorem natOf? (h : Numeral radix s n) : Radix.natOf? radix s = some n := by
  obtain ⟨hlength, hvalue⟩ := h.digitRun
  obtain ⟨c, rest, hs⟩ := List.exists_cons_of_ne_nil h.ne_nil
  have hplus : c ≠ '+' := by
    obtain ⟨d, -, hc⟩ := h.mem_digit c (by simp [hs])
    rintro rfl
    have hlt := hc.lt
    have := hc.digitValue? hlt
    revert this
    simp [Radix.digitValue?]
  subst hs
  unfold Radix.natOf?
  split
  · next hp => exact absurd (List.cons.inj hp).1 hplus
  · simp [hlength, hvalue]

theorem wordOf? (h : Numeral radix s n) {bits : Nat} (hn : n < 2 ^ bits) :
    Radix.wordOf? bits radix s = some n := by
  rw [Radix.wordOf?, h.natOf?]
  simpa using hn

/-- The digits of a numeral are visible. -/
theorem visible (h : Numeral radix s n) : ∀ c ∈ s, 32 < c.toNat ∧ c.toNat < 127 := by
  intro c hc
  obtain ⟨d, -, hd⟩ := h.mem_digit c hc
  have hlower : ∀ c ∈ "0123456789abcdef".toList, 32 < c.toNat ∧ c.toNat < 127 :=
    Text.forall_mem_of_all (by decide)
  have hupper : ∀ c ∈ "0123456789ABCDEF".toList, 32 < c.toNat ∧ c.toNat < 127 :=
    Text.forall_mem_of_all (by decide)
  rcases hd with hd | hd
  · exact hlower c (List.mem_of_getElem? hd)
  · exact hupper c (List.mem_of_getElem? hd)

/-- The start of a numeral is one too, and stands for no greater number. -/
theorem exists_of_start (h : Numeral radix s n) (hradix : 0 < radix) {t : List Char}
    (ht : t <+: s) (hne : t ≠ []) : ∃ m, m ≤ n ∧ Numeral radix t m := by
  induction h with
  | digit hd hc =>
    rcases List.prefix_concat_iff.1 (show t <+: [] ++ [_] from ht) with rfl | hnil
    · exact ⟨_, le_rfl, .digit hd hc⟩
    · exact absurd (List.prefix_nil.1 hnil) hne
  | @snoc s n c d hs hd hc ih =>
    rcases List.prefix_concat_iff.1 ht with rfl | hstart
    · exact ⟨_, le_rfl, .snoc hs hd hc⟩
    · obtain ⟨m, hm, hnum⟩ := ih hstart
      have hn : n ≤ n * radix + d := (Nat.le_mul_of_pos_right n hradix).trans (Nat.le_add_right _ _)
      exact ⟨m, hm.trans hn, hnum⟩

/-- A numeral stands for zero exactly if it has no digit but zeros. -/
theorem eq_zero_iff (h : Numeral radix s n) (hradix : 0 < radix) : n = 0 ↔ ∀ c ∈ s, c = '0' := by
  have hzero : ∀ {d : Nat} {c : Char}, IsDigit d c → (d = 0 ↔ c = '0') := by
    intro d c hc
    have hvalue := hc.digitValue? hc.lt
    constructor
    · rintro rfl
      rcases hc with hc | hc <;> simpa using hc.symm
    · rintro rfl
      have hdigit : Radix.digitValue? 16 '0' = some 0 := by decide
      exact Option.some.inj (hvalue.symm.trans hdigit)
  induction h with
  | digit hd hc => simpa using hzero hc
  | snoc hs hd hc ih =>
    simp only [Nat.add_eq_zero_iff, Nat.mul_eq_zero, hradix.ne', or_false, ih, hzero hc,
      List.mem_append, List.mem_singleton, or_imp, forall_and, forall_eq]

end Numeral

end GuestHost
