import GuestHost.Text.Utf8

/-!
# Texts as sequences of scalar values

Guest code counts and cuts texts by Unicode scalar value. Searching reports byte offsets into the
UTF-8 form of a text; `scalarIndex` turns an offset back into a count of scalar values.
-/

namespace GuestHost.Text

/-- The scalar value that a guest character holds, if it is one. -/
def scalar? (v : Int32) : Option Char :=
  if v < 0 then none
  else
    let n := v.toInt.toNat
    if n.isValidChar then some (Char.ofNat n) else none

/-- The guest's form of a scalar value. -/
def ofChar (c : Char) : Int32 := Int32.ofNat c.toNat

/-- The text of guest characters; those that are no scalar value are skipped. -/
def ofScalars (values : List Int32) : List Char := values.filterMap scalar?

/-- Byte offset of the first place in a text where `needle` begins. -/
def find? (needle : List Char) : List Char → Option Nat
  | [] => if needle.isEmpty then some 0 else none
  | c :: rest =>
    if needle.isPrefixOf (c :: rest) then some 0 else (find? needle rest).map (· + c.utf8Size)

/-- Byte offset of the last place in a text where `needle` begins. -/
def findLast? (needle : List Char) : List Char → Option Nat
  | [] => if needle.isEmpty then some 0 else none
  | c :: rest =>
    match findLast? needle rest with
    | some offset => some (offset + c.utf8Size)
    | none => if needle.isPrefixOf (c :: rest) then some 0 else none

/-- Number of scalar values that begin before byte offset `offset`. -/
def scalarIndex : List Char → Nat → Nat
  | [], _ => 0
  | _ :: _, 0 => 0
  | c :: rest, offset + 1 => 1 + scalarIndex rest (offset + 1 - c.utf8Size)

/-- A text without the scalar values up to U+0020 at its ends. -/
def trimControls (s : List Char) : List Char :=
  let blank : Char → Bool := fun c => c ≤ ' '
  ((s.dropWhile blank).reverse.dropWhile blank).reverse

/-- A text cut or padded with U+0000 to exactly `n` scalar values. -/
def setLength (n : Nat) (s : List Char) : List Char :=
  s.take n ++ List.replicate (n - s.length) '\x00'

/-- `n` copies of a text, one after the other. -/
def repeated (n : Nat) (s : List Char) : List Char := (List.replicate n s).flatten

end GuestHost.Text
