import GuestHost.Text.Radix
import GuestHost.Text.Utf8

/-!
# Percent escapes

A part of an address writes a character that could be misread as the escapes of its UTF-8 bytes. Which
ASCII characters are escaped depends on the part; all others are.
-/

namespace GuestHost.Url

/-- The ASCII characters that a part of an address escapes. -/
abbrev EscapeSet := Char → Bool

/-- The ASCII characters that are always escaped. -/
def controls : EscapeSet := fun c => c.toNat < 0x20 || c.toNat = 0x7F

/-- A larger set. -/
def EscapeSet.with (set : EscapeSet) (more : String) : EscapeSet := fun c => set c || c ∈ more.toList

/-- What a fragment escapes. -/
def fragmentSet : EscapeSet := controls.with " \"<>`"

/-- What a path escapes. -/
def pathSet : EscapeSet := fragmentSet.with "#?\x7b\x7d"

/-- What a user name and a password escape. -/
def userinfoSet : EscapeSet := pathSet.with "/:;=@[\\]^|"

/-- What a query escapes; `special` stands for the schemes of the web. -/
def querySet (special : Bool) : EscapeSet :=
  (controls.with " \"#<>").with (if special then "'" else "")

/-- A digit of an escape. -/
def escapeDigit (n : Nat) : Char := if n < 10 then Char.ofNat (48 + n) else Char.ofNat (55 + n)

/-- The escape of a byte. -/
def escapeByte (b : UInt8) : List Char :=
  ['%', escapeDigit (b.toNat / 16), escapeDigit (b.toNat % 16)]

/-- A character as a part of an address writes it. -/
def escapeChar (set : EscapeSet) (c : Char) : List Char :=
  if c.toNat < 0x80 && !set c then [c] else (Utf8.encodeChar c).flatMap escapeByte

/-- A text as a part of an address writes it. -/
def escape (set : EscapeSet) (s : List Char) : String := String.ofList (s.flatMap (escapeChar set))

/-- The bytes that a text with escapes stands for; a percent sign without two digits stands for
itself. -/
def unescape : List Char → Bytes
  | [] => []
  | '%' :: a :: b :: rest =>
    match Radix.digitValue? 16 a, Radix.digitValue? 16 b with
    | some x, some y => UInt8.ofNat (x * 16 + y) :: unescape rest
    | _, _ => 37 :: unescape (a :: b :: rest)
  | c :: rest => Utf8.encodeChar c ++ unescape rest

end GuestHost.Url
