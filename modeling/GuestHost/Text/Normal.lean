import GuestHost.Text.NormalTable

/-!
# The composed normal form

Texts that look alike may be written in several ways: `é` is one character, or an `e` with a mark after
it. The composed normal form picks one. Characters are taken apart, the marks after each character are
put in the order of their classes, and then what can be one character becomes one.
-/

namespace GuestHost.Text

/-! ## Syllables of Hangul

There are 19 initial consonants, 21 vowels and 27 final consonants, of which a syllable may lack the
last.
-/

/-- The two characters that a syllable consists of: an initial consonant and a vowel, or a syllable
without final consonant and one. -/
def hangulParts? (n : Nat) : Option (List Nat) :=
  if 0xAC00 ≤ n ∧ n ≤ 0xD7A3 then
    let i := n - 0xAC00
    if i % 28 = 0 then some [0x1100 + i / 588, 0x1161 + i % 588 / 28]
    else some [n - i % 28, 0x11A7 + i % 28]
  else none

/-- The syllable that two characters make up. -/
def hangulOfParts? (a b : Nat) : Option Nat :=
  if 0x1100 ≤ a ∧ a < 0x1113 ∧ 0x1161 ≤ b ∧ b < 0x1176 then
    some (0xAC00 + ((a - 0x1100) * 21 + (b - 0x1161)) * 28)
  else if 0xAC00 ≤ a ∧ a ≤ 0xD7A3 ∧ (a - 0xAC00) % 28 = 0 ∧ 0x11A7 < b ∧ b < 0x11C3 then
    some (a + (b - 0x11A7))
  else none

/-! ## Taking apart -/

/-- The characters that one consists of. -/
def parts? (n : Nat) : Option (List Nat) :=
  hangulParts? n <|> (composites.entryOf? n <|> replacements.entryOf? n).map (Listed.image · n)

/-- Takes a character apart `depth` times. -/
def unfoldTo : (depth : Nat) → Nat → List Nat
  | 0, n => [n]
  | depth + 1, n =>
    match parts? n with
    | none => [n]
    | some ns => ns.flatMap (unfoldTo depth)

/-- The characters that one consists of in the end. The tables are at most three levels deep. -/
def unfold (c : Char) : List Char :=
  if c.toNat < 0x80 then [c] else (unfoldTo 4 c.toNat).map Char.ofNat

/-! ## The order of marks -/

/-- The class of a mark; zero for any other character. -/
def markClass (c : Char) : Nat :=
  if c.toNat < 0x300 then 0
  else match markClasses.entryOf? c.toNat with
    | some e => e.values.headD 0
    | none => 0

/-- Puts a character in front of marks in order; it goes behind those of lower class. -/
def insertMark (c : Char) : List Char → List Char
  | [] => [c]
  | d :: rest =>
    if 0 < markClass d ∧ markClass d < markClass c then d :: insertMark c rest else c :: d :: rest

/-- A text with the marks after each character in the order of their classes. Marks of one class keep
their order. -/
def orderMarks (s : List Char) : List Char := s.foldr insertMark []

/-! ## Putting together -/

/-- The character that two make up. -/
def ofParts? (a b : Char) : Option Char :=
  if b.toNat < 0x300 then none
  else
    let listed := List.find? (fun e : Listed => e.values == [a.toNat, b.toNat]) composites
    (hangulOfParts? a.toNat b.toNat <|> listed.map Listed.first).map Char.ofNat

/-- Puts together a character `base` and what follows. `marks` are the marks between that stay, the
last one first. A mark is out of reach of the base if one of its class or a higher one precedes it. -/
def composeFrom (base : Char) (marks : List Char) : List Char → List Char
  | [] => base :: marks.reverse
  | c :: rest =>
    let reachable := match marks with
      | [] => true
      | mark :: _ => markClass mark < markClass c
    match if reachable then ofParts? base c else none with
    | some composite => composeFrom composite marks rest
    | none =>
      if markClass c = 0 then base :: marks.reverse ++ composeFrom c [] rest
      else composeFrom base (c :: marks) rest

/-- Puts together what can be one character. Marks at the start of a text have no base. -/
def compose : List Char → List Char
  | [] => []
  | c :: rest => if markClass c = 0 then composeFrom c [] rest else c :: compose rest

/-- The composed normal form of a text. -/
def normal (s : List Char) : List Char := compose (orderMarks (s.flatMap unfold))

end GuestHost.Text
