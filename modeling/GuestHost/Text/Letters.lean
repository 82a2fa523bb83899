import GuestHost.Text.LetterTables

/-!
# Letter case

Case properties and case mappings of single characters, after the tables of the Unicode standard. A
mapping may expand a character to several.
-/

namespace GuestHost.Text

/-- Whether a run of a property lists `n`. -/
def inRun (n : Nat) (run : Nat × Nat × Nat) : Bool :=
  run.1 ≤ n && n ≤ run.2.1 && (n - run.1) % run.2.2 == 0

/-- Whether a character has the property Lowercase. -/
def isLowercase (c : Char) : Bool := lowercaseRuns.any (inRun c.toNat)

/-- Whether a character has the property Uppercase. -/
def isUppercase (c : Char) : Bool := uppercaseRuns.any (inRun c.toNat)

/-- Maps a character by a list of expansions and a list of runs. -/
def mapCase (expansions : List (Nat × List Nat)) (runs : List (Nat × Nat × Nat × Int)) (c : Char) :
    List Char :=
  match expansions.lookup c.toNat with
  | some codes => codes.map Char.ofNat
  | none =>
    match runs.find? fun run => inRun c.toNat (run.1, run.2.1, run.2.2.1) with
    | some run => [Char.ofNat (c.toNat + run.2.2.2).toNat]
    | none => [c]

/-- The uppercase form of a character. -/
def upper (c : Char) : List Char := mapCase upperExpansions upperRuns c

/-- The lowercase form of a character. -/
def lower (c : Char) : List Char := mapCase lowerExpansions lowerRuns c

/-- The uppercase form of a text, character by character. -/
def toUpper (s : List Char) : List Char := s.flatMap upper

/-- The lowercase form of a text, character by character. -/
def toLower (s : List Char) : List Char := s.flatMap lower

end GuestHost.Text
