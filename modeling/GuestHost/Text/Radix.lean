import GuestHost.Text.Blank

/-!
# Integers in a radix

Integers are written with a minus sign for negatives and the digits 0-9a-z, and read from the longest
prefix of a text that denotes one. A radix outside 2 to 36 counts as ten.
-/

namespace GuestHost.Radix

/-- The radix that a guest's radix argument stands for. -/
def effective (radix : Int32) : Nat :=
  if 2 ≤ radix.toInt ∧ radix.toInt ≤ 36 then radix.toInt.toNat else 10

/-- The digit of value `d`. -/
def digitChar (d : Nat) : Char :=
  if d < 10 then Char.ofNat (48 + d) else Char.ofNat (97 + (d - 10))

/-- The value of a digit of either letter case, if it is below the radix. -/
def digitValue? (radix : Nat) (c : Char) : Option Nat :=
  let n := c.toNat
  let value? :=
    if 48 ≤ n ∧ n ≤ 57 then some (n - 48)
    else if 97 ≤ n ∧ n ≤ 122 then some (n - 87)
    else if 65 ≤ n ∧ n ≤ 90 then some (n - 55)
    else none
  value?.filter (· < radix)

/-- The digit values of `n`, the lowest first; none for zero. -/
def lowDigits (radix n : Nat) : List Nat :=
  if _h : n = 0 ∨ radix < 2 then []
  else n % radix :: lowDigits radix (n / radix)
termination_by n
decreasing_by exact Nat.div_lt_self (by omega) (by omega)

/-- The digits of `n`, the highest first; `0` for zero. -/
def natDigits (radix n : Nat) : List Char :=
  if n = 0 then ['0'] else ((lowDigits radix n).map digitChar).reverse

/-- An integer in a radix. -/
def format (value : Int) (radix : Nat) : List Char :=
  if value < 0 then '-' :: natDigits radix value.natAbs else natDigits radix value.natAbs

/-- The number that digit values denote, the highest first. -/
def ofDigits (radix : Nat) (ds : List Nat) : Nat := ds.foldl (fun n d => n * radix + d) 0

/-- The values of the longest run of digits at the start of a text. -/
def digitRun (radix : Nat) : List Char → List Nat
  | [] => []
  | c :: rest =>
    match digitValue? radix c with
    | some d => d :: digitRun radix rest
    | none => []

/-- Splits an optional sign off a text; true stands for a minus. -/
def sign : List Char → Bool × List Char
  | '-' :: rest => (true, rest)
  | '+' :: rest => (false, rest)
  | s => (false, s)

/-- Drops the mark of a hexadecimal number. -/
def dropHexMark (radix : Nat) (s : List Char) : List Char :=
  if radix = 16 then
    match s with
    | '0' :: 'x' :: rest => rest
    | '0' :: 'X' :: rest => rest
    | s => s
  else s

/-- Folds digit values into a word of 64 bits, which wraps. -/
def wordOfDigits (radix : Nat) (ds : List Nat) : Int64 :=
  ds.foldl (fun n d => n * Int64.ofNat radix + Int64.ofNat d) 0

/-- Reads the longest prefix of a text, after white space, that denotes an integer: a sign, in radix
sixteen `0x`, and digits. The value wraps; without a digit there is none. -/
def parsePrefix? (text : List Char) (radix : Nat) : Option Int64 :=
  let (negative, rest) := sign (Text.trimStart text)
  match digitRun radix (dropHexMark radix rest) with
  | [] => none
  | d :: ds =>
    let value := wordOfDigits radix (d :: ds)
    some (if negative then -value else value)

/-- Reads a natural number written in one radix only: an optional plus sign and digits up to the end
of the text. -/
def natOf? (radix : Nat) (text : List Char) : Option Nat :=
  let digits := match text with
    | '+' :: rest => rest
    | s => s
  let run := digitRun radix digits
  if digits.isEmpty || run.length ≠ digits.length then none else some (ofDigits radix run)

/-- Reads a natural number of at most `bits` bits. -/
def wordOf? (bits radix : Nat) (text : List Char) : Option Nat :=
  (natOf? radix text).filter (· < Nat.pow 2 bits)

end GuestHost.Radix
