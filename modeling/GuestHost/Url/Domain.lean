import GuestHost.Text.Letters
import GuestHost.Text.Normal
import GuestHost.Url.Direction
import GuestHost.Url.DomainTable
import GuestHost.Url.Joining
import GuestHost.Url.Punycode

/-!
# Domain names

A domain name consists of labels between dots. It may be given in any script. Its characters are brought
to one form first: letters become small, presentation forms plain, and what cannot be seen is left out.
A label with characters beyond ASCII is then written in ASCII after the letters `xn--`, and one that is
given so already has to stand for a label that could have been written out.
-/

namespace GuestHost.Url.Domain

open GuestHost.Text (normal isMark)

/-! ## Characters -/

/-- Whether a domain name must not hold an ASCII character: controls, blanks, and what separates the
parts of an address. -/
def isForbidden (c : Char) : Bool :=
  c.toNat ≤ 0x20 || c.toNat = 0x7F || c ∈ "%#/:<>?@[\\]^|".toList

/-- What stands for a character in a domain name, unless no name holds it. -/
def form? (c : Char) : Option (List Char) :=
  if c.toNat < 0x80 then some [c.toLower]
  else if refusedCharacters.has c then none
  else match domainForms.entryOf? c.toNat with
    | some e => some ((e.image c.toNat).map Char.ofNat)
    | none => some (Text.lower c)

/-- A text in the form that it has in a domain name, unless no name holds all of it. -/
def form (s : List Char) : Option (List Char) :=
  ((s.mapM form?).map fun forms => normal forms.flatten).filter fun s => !s.any isForbidden

/-! ## Labels -/

/-- Whether all characters of a text are ASCII. -/
def isAscii (s : List Char) : Bool := s.all fun c => c.toNat < 0x80

/-- Whether a label that is written in ASCII could have been written out: its characters have the form
that they have in a domain name. -/
def isWritten (label : List Char) : Bool :=
  label.all (fun c => form? c = some [c] && !isForbidden c && c ≠ '.') && normal label = label

/-- Whether a label may be part of a name: it does not start with a mark, its joiners fit, and if it
needs an ASCII form it has at most 1000 characters. -/
def isSound (label : List Char) : Bool :=
  !label.head?.any isMark && joinersFit label && (isAscii label || label.length ≤ 1000)

/-- The label that one in ASCII stands for after the letters `xn--`. -/
def ofAscii? (s : List Char) : Option (List Char) :=
  if isAscii s && s.length ≤ 2000 && s.getLast?.any (· ≠ '-') then
    (Punycode.decode s).filter isWritten
  else none

/-- The label that a part of a name stands for. -/
def label? (s : List Char) : Option (List Char) :=
  (if "xn--".toList.isPrefixOf s then ofAscii? (s.drop 4) else some s).filter isSound

/-- A label in ASCII. -/
def labelAscii (label : List Char) : List Char :=
  if isAscii label then label else "xn--".toList ++ Punycode.encode label

/-! ## Names -/

/-- The labels that a domain name consists of. -/
def labels? (name : List Char) : Option (List (List Char)) := do
  let labels ← (Text.split (· == '.') (← form name)).mapM label?
  if directionsAgree labels then some labels else none

/-- A domain name in ASCII. -/
def ascii? (name : List Char) : Option (List Char) :=
  (labels? name).map fun labels => ".".toList.intercalate (labels.map labelAscii)

end GuestHost.Url.Domain
