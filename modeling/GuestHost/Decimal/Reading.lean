import GuestHost.Decimal.Binary
import GuestHost.Text.Radix

/-!
# Reading floating-point numbers

The longest prefix of a text, after white space, that denotes a number is read: a sign, and either a
name of infinity, a name of no number, or digits with an optional point and an optional exponent. The
result is the double nearest to the number denoted.
-/

namespace GuestHost.Decimal

/-- Whether a text starts with a word, in either letter case. -/
def startsWithWord (word : List Char) (s : List Char) : Bool :=
  (s.take word.length).map Char.toLower = word

/-- Reads an optional exponent; a mark that no digit follows is not part of the number. -/
def exponentPart (s : List Char) : Int :=
  match s with
  | c :: rest =>
    if c.toLower = 'e' then
      let (negative, digits) := Radix.sign rest
      let value : Int := Radix.ofDigits 10 (Radix.digitRun 10 digits)
      if negative then -value else value
    else 0
  | [] => 0

/-- The double nearest to `digits * 10 ^ exponent`. A number beyond ten to the plus or minus four
hundredth overflows to infinity or vanishes, whatever its exact value. -/
def doubleOfDecimal (negative : Bool) (digits : Nat) (exponent : Int) : Nat :=
  let f := Format.binary64
  let length : Int := (Radix.natDigits 10 digits).length
  if digits = 0 then f.withSign negative 0
  else if 400 < length + exponent then f.withSign negative f.infinity
  else if length + exponent < -400 then f.withSign negative 0
  else if 0 ≤ exponent then f.round negative (digits * Nat.pow 10 exponent.toNat) 1
  else f.round negative digits (Nat.pow 10 (-exponent).toNat)

/-- Reads a number without its sign from the start of a text. -/
def unsignedPrefix? (negative : Bool) (s : List Char) : Option Nat :=
  let f := Format.binary64
  let whole := Radix.digitRun 10 s
  let rest := s.drop whole.length
  let (fraction, rest) :=
    match rest with
    | '.' :: after =>
      let run := Radix.digitRun 10 after
      (run, after.drop run.length)
    | rest => ([], rest)
  if whole.isEmpty && fraction.isEmpty then
    if startsWithWord "inf".toList s then some (f.withSign negative f.infinity)
    else if startsWithWord "nan".toList s then some f.notANumber
    else none
  else
    some (doubleOfDecimal negative (Radix.ofDigits 10 (whole ++ fraction))
      (exponentPart rest - fraction.length))

/-- Reads the longest prefix of a text that denotes a number; a text without one is no number. -/
def parsePrefix (text : List Char) : UInt64 :=
  let (negative, rest) := Radix.sign (Text.trimStart text)
  UInt64.ofNat ((unsignedPrefix? negative rest).getD Format.binary64.notANumber)

end GuestHost.Decimal
