/-!
# Signature keys

A native method is named by a text built from its return type, its name and its parameter types:

    key    = ret "$" name "$" params
    params = the codes of the parameter types with "$" between them, or "$" if there are none

A primitive type has a letter, a reference type is written `L<name>$` with its dots replaced by `$`,
and an array type is `$` before its element type. Constructors go by the name `$init$`.
-/

namespace GuestHost

/-- A type in a method signature. -/
inductive TypeCode
  | void
  | boolean
  | byte
  | short
  | char
  | int
  | long
  | float
  | double
  /-- A reference type, by its dotted name. -/
  | object (name : String)
  | array (element : TypeCode)
deriving Repr, DecidableEq, Inhabited

namespace TypeCode

/-- The type of guest strings. -/
def string : TypeCode := .object "java.lang.String"

/-- The type with `n` array layers around `element`. -/
def arrays (element : TypeCode) : Nat → TypeCode
  | 0 => element
  | n + 1 => .array (arrays element n)

/-- A dotted name with its dots replaced. -/
def flatName (name : String) : List Char := name.toList.map fun c => if c = '.' then '$' else c

/-- The code of a type. -/
def code : TypeCode → List Char
  | .void => ['V']
  | .boolean => ['Z']
  | .byte => ['B']
  | .short => ['S']
  | .char => ['C']
  | .int => ['I']
  | .long => ['J']
  | .float => ['F']
  | .double => ['D']
  | .object name => 'L' :: flatName name ++ ['$']
  | .array element => '$' :: element.code

end TypeCode

/-- The form of a method name in a key. -/
def mangleName (name : String) : String :=
  if name = "<init>" then "$init$" else if name = "<clinit>" then "$clinit$" else name

/-- A typed method signature; its name is mangled. -/
structure Signature where
  name : String
  ret : TypeCode
  params : List TypeCode
deriving Repr, DecidableEq

namespace Signature

/-- The signature of a method. -/
def method (name : String) (ret : TypeCode) (params : List TypeCode) : Signature :=
  ⟨mangleName name, ret, params⟩

/-- The signature of a constructor. -/
def constructor (params : List TypeCode) : Signature := method "<init>" .void params

/-- The codes of a parameter list. -/
def paramCodes : List TypeCode → List Char
  | [] => ['$']
  | [p] => p.code
  | p :: q :: rest => p.code ++ '$' :: paramCodes (q :: rest)

/-- The characters of a signature's key. -/
def keyChars (s : Signature) : List Char :=
  s.ret.code ++ '$' :: s.name.toList ++ '$' :: paramCodes s.params

/-- The key of a signature. -/
def key (s : Signature) : String := String.ofList s.keyChars

/-- The key of the initializer without arguments. -/
def defaultInitializer : String := "V$$init$$$"

end Signature

end GuestHost
