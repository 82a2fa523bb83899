import Mathlib.Data.List.TakeWhile
import GuestHost.Natives.Numbers
import GuestHost.Proofs.Arguments
import GuestHost.Proofs.Dispatch.Listings
import GuestHost.Proofs.Numbers.Digits

/-!
# Reading integers

A text is read as an integer from its front: white space, a sign, in radix sixteen a mark, and then as many
digits as there are. The word that the digits are gathered in wraps, a minus is applied to the word, and the
types with fewer bits keep its lowest ones. All this comes to wrapping the integer of the text once.

* `IntegerText` — the parts of a text, and the integer that they denote; every text has them;
* `parsePrefix?_eq` — the program finds these parts and wraps their integer to 64 bits;
* `IntegerKind` — the types that the natives are for, and which values of theirs hold an integer;
* `integers_read_wrapped` — what the natives read, for every text that a guest can hand in.
-/

namespace GuestHost

namespace Radix

/-! ## The parts of a text -/

/-- The marks of hexadecimal numbers. -/
def hexMarks : List (List Char) := [['0', 'x'], ['0', 'X']]

/-- A text in parts: all the white space at its start, a sign and in radix sixteen a mark if there are any,
all the digits after them, and the rest. -/
structure IntegerText (radix : Nat) (text : List Char) where
  blanks : List Char
  sign : List Char
  mark : List Char
  digits : List Char
  /-- The values of the digits. -/
  values : List Nat
  rest : List Char
  eq_append : text = blanks ++ (sign ++ (mark ++ (digits ++ rest)))
  blank : ∀ c ∈ blanks, Text.isBlank c = true
  no_blank_ahead : ∀ c ∈ (sign ++ (mark ++ (digits ++ rest))).head?, Text.isBlank c = false
  sign_or_none : sign = ['-'] ∨ sign = ['+'] ∨
    sign = [] ∧ ∀ c ∈ (mark ++ (digits ++ rest)).head?, c ≠ '-' ∧ c ≠ '+'
  mark_or_none : radix = 16 ∧ mark ∈ hexMarks ∨
    mark = [] ∧ (radix = 16 → ∀ m ∈ hexMarks, ¬ m <+: digits ++ rest)
  spells : Spells radix digits values
  no_digit_ahead : NoDigitAhead radix rest

namespace IntegerText

variable {radix : Nat} {text : List Char}

/-- The integer that a text denotes. -/
def value (t : IntegerText radix text) : Int :=
  if t.sign = ['-'] then -(Nat.ofDigits radix t.values.reverse : Nat)
  else (Nat.ofDigits radix t.values.reverse : Nat)

end IntegerText

section parts

variable {radix : Nat} {s text : List Char}

theorem exists_blanks (text : List Char) : ∃ blanks s, text = blanks ++ s ∧
    (∀ c ∈ blanks, Text.isBlank c = true) ∧ ∀ c ∈ s.head?, Text.isBlank c = false := by
  refine ⟨text.takeWhile Text.isBlank, text.dropWhile Text.isBlank,
    List.takeWhile_append_dropWhile.symm, fun c hc => List.mem_takeWhile_imp hc, fun c hc => ?_⟩
  have := List.head?_dropWhile_not Text.isBlank text
  rw [Option.mem_def.1 hc] at this
  simpa using this

theorem exists_sign (s : List Char) : ∃ sign s', s = sign ++ s' ∧
    (sign = ['-'] ∨ sign = ['+'] ∨ sign = [] ∧ ∀ c ∈ s'.head?, c ≠ '-' ∧ c ≠ '+') := by
  match s with
  | [] => exact ⟨[], [], rfl, by simp⟩
  | c :: rest =>
    by_cases hminus : c = '-'
    · exact ⟨['-'], rest, by rw [hminus]; rfl, by simp⟩
    · by_cases hplus : c = '+'
      · exact ⟨['+'], rest, by rw [hplus]; rfl, by simp⟩
      · exact ⟨[], c :: rest, rfl, by simp [hminus, hplus]⟩

theorem exists_mark (radix : Nat) (s : List Char) : ∃ mark s', s = mark ++ s' ∧
    (radix = 16 ∧ mark ∈ hexMarks ∨ mark = [] ∧ (radix = 16 → ∀ m ∈ hexMarks, ¬ m <+: s')) := by
  by_cases hmark : radix = 16 ∧ ∃ m ∈ hexMarks, m <+: s
  · obtain ⟨hradix, m, hm, s', rfl⟩ := hmark
    exact ⟨m, s', rfl, .inl ⟨hradix, hm⟩⟩
  · exact ⟨[], s, rfl, .inr ⟨rfl, fun hradix m hm hpre => hmark ⟨hradix, m, hm, hpre⟩⟩⟩

/-- Every text has these parts. -/
theorem nonempty_integerText (radix : Nat) (text : List Char) :
    Nonempty (IntegerText radix text) := by
  obtain ⟨blanks, s₁, rfl, hblanks, hblank⟩ := exists_blanks text
  obtain ⟨sign, s₂, rfl, hsign⟩ := exists_sign s₁
  obtain ⟨mark, s₃, rfl, hmark⟩ := exists_mark radix s₂
  obtain ⟨digits, values, rest, rfl, hdigits, hrest⟩ := exists_digits radix s₃
  exact ⟨⟨blanks, sign, mark, digits, values, rest, rfl, hblanks, hblank, hsign, hmark, hdigits,
    hrest⟩⟩

/-! ## What the program reads -/

theorem trimStart_append {blanks : List Char} (hblanks : ∀ c ∈ blanks, Text.isBlank c = true)
    (hs : ∀ c ∈ s.head?, Text.isBlank c = false) : Text.trimStart (blanks ++ s) = s := by
  rw [Text.trimStart, List.dropWhile_append_of_pos hblanks]
  cases s with
  | nil => rfl
  | cons c rest => simp [hs c rfl]

theorem sign_of_no_sign (hs : ∀ c ∈ s.head?, c ≠ '-' ∧ c ≠ '+') : sign s = (false, s) := by
  unfold sign
  split
  · exact absurd rfl (hs '-' rfl).1
  · exact absurd rfl (hs '+' rfl).2
  · rfl

theorem sign_append {sg : List Char}
    (hsign : sg = ['-'] ∨ sg = ['+'] ∨ sg = [] ∧ ∀ c ∈ s.head?, c ≠ '-' ∧ c ≠ '+') :
    sign (sg ++ s) = (decide (sg = ['-']), s) := by
  rcases hsign with rfl | rfl | ⟨rfl, hs⟩
  · rfl
  · rfl
  · exact sign_of_no_sign hs

theorem dropHexMark_append {mark : List Char} (hmark : radix = 16 ∧ mark ∈ hexMarks ∨
      mark = [] ∧ (radix = 16 → ∀ m ∈ hexMarks, ¬ m <+: s)) :
    dropHexMark radix (mark ++ s) = s := by
  unfold dropHexMark
  rcases hmark with ⟨hradix, hm⟩ | ⟨rfl, hnone⟩
  · rw [if_pos hradix]
    simp only [hexMarks, List.mem_cons, List.not_mem_nil, or_false] at hm
    rcases hm with rfl | rfl <;> rfl
  · rw [List.nil_append]
    split
    · next hradix =>
      have hnot := hnone hradix
      split
      · exact absurd (List.prefix_append ['0', 'x'] _) (hnot _ (by simp [hexMarks]))
      · exact absurd (List.prefix_append ['0', 'X'] _) (hnot _ (by simp [hexMarks]))
      · rfl
    · rfl

/-- **A text without digits is no integer; any other is its integer, wrapped to 64 bits.** -/
theorem parsePrefix?_eq (t : IntegerText radix text) (hradix : radix ≤ 36) :
    parsePrefix? text radix = if t.digits = [] then none else some (Int64.ofInt t.value) := by
  have hempty : t.digits = [] ↔ t.values = [] := by
    rw [← List.length_eq_zero_iff, t.spells.length_eq, List.length_eq_zero_iff]
  have htrim : Text.trimStart text = t.sign ++ (t.mark ++ (t.digits ++ t.rest)) :=
    (congrArg Text.trimStart t.eq_append).trans (trimStart_append t.blank t.no_blank_ahead)
  have hrun : digitRun radix (t.digits ++ t.rest) = t.values :=
    digitRun_append t.spells t.no_digit_ahead hradix
  rw [parsePrefix?, htrim, sign_append t.sign_or_none]
  dsimp only
  rw [dropHexMark_append t.mark_or_none, hrun]
  cases hvalues : t.values with
  | nil => simp [hempty, hvalues]
  | cons d ds =>
    rw [if_neg (by simp [hempty, hvalues])]
    dsimp only
    rw [wordOfDigits_eq, IntegerText.value, hvalues]
    by_cases hsign : t.sign = ['-'] <;> simp [hsign, Int64.ofInt_neg, Int64.ofInt_eq_ofNat]

end parts

end Radix

/-! ## The natives -/

/-- The types of integers that are read from texts and written as texts. -/
inductive IntegerKind
  | byte
  | short
  | int
  | long
deriving Repr, DecidableEq

namespace IntegerKind

/-- Number of bits of a value. -/
def bits : IntegerKind → Nat
  | .byte => 8
  | .short => 16
  | .int => 32
  | .long => 64

/-- The class that the natives of a type belong to. -/
def className : IntegerKind → String
  | .byte => "java.lang.Byte"
  | .short => "java.lang.Short"
  | .int => "java.lang.Integer"
  | .long => "java.lang.Long"

/-- The native that reads an integer, and its key. -/
def reading : IntegerKind → String × NumberNative
  | .byte => ("B$parseByte$Ljava$lang$String$", .parseByte)
  | .short => ("S$parseShort$Ljava$lang$String$$I", .parseShort)
  | .int => ("I$parseInt$Ljava$lang$String$$I", .parseInt)
  | .long => ("J$parseLong$Ljava$lang$String$$I", .parseLong)

/-- The radix that an integer is read in: bytes are always read in radix ten. -/
def readingRadix (k : IntegerKind) (radix : Int32) : Int32 :=
  match k with
  | .byte => 10
  | .short | .int | .long => radix

/-- The arguments that an integer is read with. -/
def readingArgs (k : IntegerKind) (text : Value) (radix : Int32) : List Value :=
  match k with
  | .byte => [text]
  | .short | .int | .long => [text, .int radix]

/-- A value of a type is a certain integer. Values of fewer than 32 bits are kept as ints. -/
def Holds (k : IntegerKind) (v : Value) (n : Int) : Prop :=
  match k with
  | .byte | .short | .int => ∃ x : Int32, v = .int x ∧ x.toInt = n
  | .long => ∃ x : Int64, v = .long x ∧ x.toInt = n

/-- The value that is kept of a word. -/
def narrow (k : IntegerKind) (word : Int64) : Value :=
  match k with
  | .byte => .int word.toInt8.toInt32
  | .short => .int word.toInt16.toInt32
  | .int => .int word.toInt32
  | .long => .long word

/-- **Wrapping to 64 bits and keeping the lowest bits** is wrapping once. -/
theorem holds_narrow (k : IntegerKind) (n : Int) :
    k.Holds (k.narrow (Int64.ofInt n)) (n.bmod (2 ^ k.bits)) := by
  cases k with
  | byte =>
    refine ⟨_, rfl, ?_⟩
    rw [Int8.toInt_toInt32, Int64.toInt_toInt8, Int64.toInt_ofInt]
    exact Int.bmod_bmod_of_dvd (by decide)
  | short =>
    refine ⟨_, rfl, ?_⟩
    rw [Int16.toInt_toInt32, Int64.toInt_toInt16, Int64.toInt_ofInt]
    exact Int.bmod_bmod_of_dvd (by decide)
  | int =>
    refine ⟨_, rfl, ?_⟩
    rw [Int64.toInt_toInt32, Int64.toInt_ofInt]
    exact Int.bmod_bmod_of_dvd (by decide)
  | long => exact ⟨_, rfl, Int64.toInt_ofInt⟩

/-- The native that reads a type is found under its name. -/
theorem find?_reading (k : IntegerKind) :
    Imports.standard.find? k.className k.reading.1
      = some ⟨.static, .builtin (.number k.reading.2)⟩ := by
  have hlisted : (k.className, k.reading.1, .static, .number k.reading.2)
      ∈ Builtin.numberListings := by
    cases k <;> simp [Builtin.numberListings, Builtin.of, className, reading]
  exact Builtin.find?_of_mem_listings (Builtin.mem_listings_of_number hlisted)

variable {h : Host} {v : Value} {s : String}

theorem apply_parse {args : List Value} (hv : args[0]? = some v) (hs : h.text v = .ok s)
    (radix : Int32) : (NumberNative.parse args radix).apply h
      = (.ok ((Radix.parsePrefix? s.toList (Radix.effective radix)).getD 0), h) := by
  unfold NumberNative.parse
  exact Action.apply_bind_of_ok (Args.text_eq_ok.2 ⟨⟨v, s, hv, hs, rfl⟩, rfl⟩) _

/-- What a native makes of what is read from its text. -/
theorem apply_reading (k : IntegerKind) (hs : h.text v = .ok s) (radix : Int32) :
    (NumberNative.run k.reading.2 (k.readingArgs v radix)).apply h
      = (.ok (k.narrow ((Radix.parsePrefix? s.toList
          (Radix.effective (k.readingRadix radix))).getD 0)), h) := by
  cases k with
  | byte =>
    have hparse := apply_parse (show [v][0]? = some v from rfl) hs 10
    exact Action.apply_bind_of_ok hparse _
  | short | int | long =>
    have hparse := apply_parse (show [v, .int radix][0]? = some v from rfl) hs radix
    exact Action.apply_bind_of_ok hparse _

end IntegerKind

/-- **Integers that are read from texts are wrapped once.** Every text has the parts that an integer is read
from. What is read is none exactly if there are no digits, and else the integer of the parts modulo 2^64,
however long they are; the rest of the text makes no difference. The natives of all four types never fail on
what has a text behind it: they answer with the integer modulo the number of their values, or with zero if
there are no digits, and leave the host as it is. -/
theorem integers_read_wrapped :
    (∀ (text : List Char) (radix : Int32),
      Nonempty (Radix.IntegerText (Radix.effective radix) text) ∧
      ∀ t : Radix.IntegerText (Radix.effective radix) text,
        (Radix.parsePrefix? text (Radix.effective radix) = none ↔ t.digits = []) ∧
        ∀ word, Radix.parsePrefix? text (Radix.effective radix) = some word →
          word.toInt = t.value.bmod (2 ^ 64)) ∧
    ∀ (k : IntegerKind) (h : Host) (v : Value) (s : String) (radix : Int32), h.text v = .ok s →
      Imports.standard.find? k.className k.reading.1
        = some ⟨.static, .builtin (.number k.reading.2)⟩ ∧
      ∀ t : Radix.IntegerText (Radix.effective (k.readingRadix radix)) s.toList, ∃ answer,
        (NumberNative.run k.reading.2 (k.readingArgs v radix)).apply h = (.ok answer, h) ∧
        k.Holds answer (if t.digits = [] then 0 else t.value.bmod (2 ^ k.bits)) := by
  refine ⟨fun text radix => ⟨Radix.nonempty_integerText _ text, fun t => ?_⟩,
    fun k h v s radix hs => ⟨k.find?_reading, fun t => ⟨_, k.apply_reading hs radix, ?_⟩⟩⟩
  · rw [Radix.parsePrefix?_eq t (Radix.effective_range radix).2]
    refine ⟨by simp, fun word hword => ?_⟩
    obtain ⟨-, hvalue⟩ : ¬ t.digits = [] ∧ Int64.ofInt t.value = word := by simpa using hword
    rw [← hvalue, Int64.toInt_ofInt]
    rfl
  · rw [Radix.parsePrefix?_eq t (Radix.effective_range _).2]
    by_cases hdigits : t.digits = []
    · -- Zero is a word of its own that wraps to itself.
      simpa [hdigits] using k.holds_narrow 0
    · simpa [hdigits] using k.holds_narrow t.value

/-- Reading starts behind a blank, stops before a letter and keeps the lowest eight bits of -300. -/
theorem integers_read_wrapped_byte :
    let host : Host :=
      { config := {}, heap := ⟨#[.object ⟨CoreClass.string, .empty, .text " -300x"⟩]⟩,
        registry := .initial, linkage := .empty, files := .empty, source := .staged .empty,
        imports := .empty, attached := none, surroundings := { millis := 0, seed := 0 } }
    host.text (.ref ⟨0⟩) = .ok " -300x" ∧
      ∃ answer, (NumberNative.run .parseByte [.ref ⟨0⟩]).apply host = (.ok answer, host) ∧
        IntegerKind.byte.Holds answer (-44) := by
  intro host
  have htext : host.text (.ref ⟨0⟩) = .ok " -300x" := by decide +kernel
  refine ⟨htext, ?_⟩
  exact (integers_read_wrapped.2 .byte host (.ref ⟨0⟩) " -300x" 10 htext).2
    ⟨[' '], ['-'], [], ['3', '0', '0'], [3, 0, 0], ['x'], by decide,
      List.forall_mem_singleton.2 (by decide), by rintro c ⟨⟩; decide, .inl rfl,
      .inr ⟨rfl, fun hradix => absurd hradix (by decide)⟩,
      .cons (by decide) (.cons (by decide) (.cons (by decide) .nil)),
      (Radix.digitRun_eq_nil_iff (by decide)).1 (by decide)⟩

end GuestHost
