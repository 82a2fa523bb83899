/-!
# Guest values

A guest boolean, byte, short, character or int is an `int`; a character is its Unicode scalar value.
Floating-point values are carried by their bits. A reference points either into the host's heap or, as
a handle, at an object that a module owns.
-/

namespace GuestHost

/-- Index of an entry of the host's heap. -/
structure Ref where
  index : UInt32
deriving Repr, DecidableEq

instance : Inhabited Ref := ⟨⟨0⟩⟩

/-- A guest value. -/
inductive Value
  /-- The null reference. -/
  | null
  /-- A boolean, byte, short, character or int. -/
  | int (i : Int32)
  /-- A long. -/
  | long (l : Int64)
  /-- A float, as the bits of its binary32 form. -/
  | float (bits : UInt32)
  /-- A double, as the bits of its binary64 form. -/
  | double (bits : UInt64)
  /-- An entry of the host's heap. -/
  | ref (r : Ref)
  /-- An object that the module owns. -/
  | handle (h : UInt32)
deriving Repr, DecidableEq

namespace Value

instance : Inhabited Value := ⟨.null⟩

/-- A guest boolean. -/
def ofBool (b : Bool) : Value := .int (if b then 1 else 0)

/-- A guest character. -/
def ofChar (c : Char) : Value := .int (Int32.ofNat c.toNat)

/-- A guest byte, which is signed. -/
def ofByte (b : UInt8) : Value := .int b.toInt8.toInt32

/-- Whether a value is the null reference. -/
def isNull : Value → Bool
  | .null => true
  | _ => false

/-- The name of a value's kind. -/
def kindName : Value → String
  | .null => "null"
  | .int _ => "int"
  | .long _ => "long"
  | .float _ => "float"
  | .double _ => "double"
  | .ref _ => "object"
  | .handle _ => "extern"

/-- The int that a value holds. -/
def toInt? : Value → Option Int32
  | .int i => some i
  | _ => none

/-- The long that a value holds; an int is widened. -/
def toLong? : Value → Option Int64
  | .long l => some l
  | .int i => some i.toInt64
  | _ => none

/-- The truth of a value: every int but zero is true. -/
def toBool? (v : Value) : Option Bool := v.toInt?.map (· != 0)

/-- The host boolean of a value; what is no int is false. -/
def isTrue (v : Value) : Bool := v.toBool?.getD false

/-- The heap entry that a value refers to. -/
def toRef? : Value → Option Ref
  | .ref r => some r
  | _ => none

end Value

end GuestHost
