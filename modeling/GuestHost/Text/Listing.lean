import GuestHost.Text.Pieces
import GuestHost.Text.Radix

/-!
# Listings

The larger tables on characters are written as texts. Blanks separate the entries. An entry is a
character, `41`, or a range of them, `41-5A`, and after an equals sign the numbers that belong to it,
separated by commas, as in `DF=73,73`. All numbers are hexadecimal.
-/

namespace GuestHost.Text

/-- A range of characters, and the numbers that belong to it. -/
structure Listed where
  first : Nat
  last : Nat
  values : List Nat
deriving Repr, DecidableEq

/-- A table on characters. -/
abbrev Listing := List Listed

namespace Listing

/-- A number of a listing. -/
def number (s : List Char) : Nat := Radix.ofDigits 16 (Radix.digitRun 16 s)

/-- Reads an entry. -/
def entry (s : List Char) : Listed :=
  let range := s.takeWhile (· ≠ '=')
  let values := s.drop (range.length + 1)
  let first := range.takeWhile (· ≠ '-')
  let last := range.drop (first.length + 1)
  { first := number first
    last := if last.isEmpty then number first else number last
    values := if values.isEmpty then [] else (split (· == ',') values).map number }

/-- Reads a listing. -/
def read (s : String) : Listing :=
  ((split Char.isWhitespace s.toList).filter (!·.isEmpty)).map entry

/-- The entry of a character. -/
def entryOf? (l : Listing) (n : Nat) : Option Listed :=
  List.find? (fun e : Listed => e.first ≤ n && n ≤ e.last) l

/-- Whether a listing has a character. -/
def has (l : Listing) (c : Char) : Bool := (l.entryOf? c.toNat).isSome

end Listing

/-- The numbers that belong to one character of a range: those of its first character, shifted by the
distance from it. -/
def Listed.image (e : Listed) (n : Nat) : List Nat := e.values.map (· + (n - e.first))

end GuestHost.Text
