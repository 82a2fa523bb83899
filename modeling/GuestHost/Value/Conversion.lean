import GuestHost.Decimal.Binary
import GuestHost.Fault
import GuestHost.Value

/-!
# Conversions of guest values

A value of one kind is accepted where a wider kind is needed: an int as a long, an int as a float, any
number as a double. Everything else is a mismatch that names both kinds.
-/

namespace GuestHost.Value

/-- The float that a value holds; an int is rounded. -/
def toFloat? : Value → Option UInt32
  | .float bits => some bits
  | .int i => some (Decimal.floatOfInt i.toInt)
  | _ => none

/-- The double that a value holds; a float is widened, an integer rounded. -/
def toDouble? : Value → Option UInt64
  | .double bits => some bits
  | .float bits => some (Decimal.widen bits)
  | .int i => some (Decimal.doubleOfInt i.toInt)
  | .long l => some (Decimal.doubleOfInt l.toInt)
  | _ => none

/-- What a partial conversion gives, or a mismatch. -/
def orMismatch {α : Type} (v : Value) (expected : String) : Option α → Except Fault α
  | some a => .ok a
  | none => .error (.mismatch expected v.kindName)

/-- The int that a value must hold. -/
def expectInt (v : Value) : Except Fault Int32 := v.orMismatch "int" v.toInt?

/-- The long that a value must hold. -/
def expectLong (v : Value) : Except Fault Int64 := v.orMismatch "long" v.toLong?

/-- The float that a value must hold. -/
def expectFloat (v : Value) : Except Fault UInt32 := v.orMismatch "float" v.toFloat?

/-- The double that a value must hold. -/
def expectDouble (v : Value) : Except Fault UInt64 := v.orMismatch "double" v.toDouble?

/-- The heap entry that a value must refer to. -/
def expectObject (v : Value) : Except Fault Ref := v.orMismatch "object" v.toRef?

/-- What is wrong with a value in the place of an object of the given kind. -/
def notA (v : Value) (kind : String) : Fault :=
  if v.isNull then .reference (.nullFor kind) else .mismatch kind v.kindName

/-- The order of two values of one kind of number, as an int: values without an order count as
equal. -/
def order : Value → Value → Int32
  | .int a, .int b => sign (compare a b)
  | .long a, .long b => sign (compare a b)
  | .float a, .float b => ((Decimal.Format.binary32.compare? a.toNat b.toNat).map sign).getD 0
  | .double a, .double b => ((Decimal.Format.binary64.compare? a.toNat b.toNat).map sign).getD 0
  | _, _ => 0
where
  /-- The int of an order. -/
  sign : Ordering → Int32
    | .lt => -1
    | .eq => 0
    | .gt => 1

end GuestHost.Value
