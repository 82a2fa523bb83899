import GuestHost.Fault

/-!
# Kinds of text objects
-/

namespace GuestHost

/-- The guest classes whose instances hold a text. -/
inductive TextKind
  | string
  | builder
  | buffer
deriving Repr, DecidableEq

namespace TextKind

/-- The number of a kind. -/
def code : TextKind → UInt8
  | .string => 0
  | .builder => 1
  | .buffer => 2

/-- The kind with a number. -/
def ofCode (n : UInt8) : Except Fault TextKind :=
  if n = 0 then .ok .string
  else if n = 1 then .ok .builder
  else if n = 2 then .ok .buffer
  else .error (.argument (.unknownTextKind n))

/-- The name of a kind. -/
def name : TextKind → String
  | .string => "String"
  | .builder => "StringBuilder"
  | .buffer => "StringBuffer"

end TextKind

end GuestHost
