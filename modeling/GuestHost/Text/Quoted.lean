import GuestHost.Text.QuotedTable
import GuestHost.Text.Radix

/-!
# Quoted texts

Error texts show a text between double quotes. A quote and a backslash are escaped by a backslash,
four controls by a letter or a zero, and characters that would not show by their number.
-/

namespace GuestHost.Text

/-- Whether a quoted text shows a character by its number. -/
def isEscaped (c : Char) : Bool := escapedRanges.any fun r => r.1 ≤ c.toNat && c.toNat ≤ r.2

/-- A character inside quotes. -/
def quotedChar (c : Char) : List Char :=
  if c = '\x00' then ['\\', '0']
  else if c = '\t' then ['\\', 't']
  else if c = '\r' then ['\\', 'r']
  else if c = '\n' then ['\\', 'n']
  else if c = '\\' ∨ c = '"' then ['\\', c]
  else if isEscaped c then "\\u\x7b".toList ++ Radix.natDigits 16 c.toNat ++ ['}']
  else [c]

/-- A text between double quotes. -/
def quoted (s : List Char) : String := String.ofList ('"' :: s.flatMap quotedChar ++ ['"'])

end GuestHost.Text
