import GuestHost.Program
import GuestHost.Value.Conversion

/-!
# Scripts

A small language of method bodies. A script is turned into a program for every argument list; it can
do nothing that a program cannot.
-/

namespace GuestHost

/-- A class, by its number or by its name. -/
inductive ClassName
  | number (id : ClassId)
  | named (name : String)
deriving Repr, DecidableEq

/-- A value as a script writes it. -/
inductive Literal
  | value (v : Value)
  /-- A new string. -/
  | text (s : String)
  /-- A new array. -/
  | array (items : List Literal)

instance : Inhabited Literal := ⟨.value .null⟩

/-- A method body. -/
inductive Script
  /-- A value, made anew at each call. -/
  | const (l : Literal)
  /-- An argument. -/
  | arg (i : Nat)
  /-- A new array of all arguments. -/
  | args
  /-- The sum of arguments that are ints. -/
  | sum (is : List Nat)
  /-- A field of the first argument. -/
  | getField (name : String)
  /-- Sets a field of the first argument to what a script gives. -/
  | setField (name : String) (value : Script)
  | fail (words : String)
  /-- A native, called with all arguments. -/
  | native (owner key : String)
  /-- A method of the first argument, called with the others. -/
  | virtual (key : String)
  /-- A method without receiver, called with all arguments. -/
  | static (cls : ClassName) (key : String)
  /-- Scripts one after the other; the last one gives the result. -/
  | seq (scripts : List Script)

instance : Inhabited Script := ⟨.seq []⟩

namespace Program

/-- Goes on with the value that a program ends with. -/
def andThen (p : Program) (next : Value → Program) : Program :=
  match p with
  | .done (.ok v) => next v
  | .done (.error fault) => .done (.error fault)
  | .perform op k => .perform op fun reply => (k reply).andThen next
  | .call c k => .call c fun result => (k result).andThen next

/-- The program that meets a fault. -/
def fail (fault : Fault) : Program := .done (.error fault)

/-- The program that ends with a value. -/
def give (v : Value) : Program := .done (.ok v)

/-- Asks for an operation, and goes on with its answer unless it is a fault. -/
def ask (op : Op Body) (next : Reply → Program) : Program :=
  .perform op fun
    | .ok reply => next reply
    | .error fault => fail fault

/-- Asks for an operation that answers with a value. -/
def askValue (op : Op Body) (next : Value → Program) : Program :=
  ask op fun
    | .value v => next v
    | _ => next .null

/-- Makes a call and ends with its result. -/
def tailCall (c : Call) : Program := .call c .done

/-- Goes on with what an argument list gives, or meets its fault. -/
def given {α : Type} (r : Except Fault α) (next : α → Program) : Program :=
  match r with
  | .ok a => next a
  | .error fault => fail fault

end Program

/-- The argument at a place. -/
def argument (args : List Value) (i : Nat) : Except Fault Value :=
  match args[i]? with
  | some v => .ok v
  | none => .error (.argument (.missing i args.length))

/-- Goes on with the number of a class. -/
def ClassName.resolve (c : ClassName) (next : ClassId → Program) : Program :=
  match c with
  | .number id => next id
  | .named name => .ask (.lookup name) fun
    | .cls id => next id
    | _ => .give .null

namespace Literal

mutual

/-- Makes the value that a literal writes. -/
def make (next : Value → Program) : Literal → Program
  | .value v => next v
  | .text s => .askValue (.newText .string s) next
  | .array items => makeAll (fun vs => .askValue (.newArray vs) next) items

/-- Makes the values that literals write, one after the other. -/
def makeAll (next : List Value → Program) : List Literal → Program
  | [] => next []
  | l :: rest => make (fun v => makeAll (fun vs => next (v :: vs)) rest) l

end

end Literal

namespace Script

/-- The sum of arguments that are ints. -/
def sumOf (args : List Value) : List Nat → Except Fault Int32
  | [] => .ok 0
  | i :: rest => do
    let v ← (← argument args i).expectInt
    return v + (← sumOf args rest)

mutual

/-- What a script does with its arguments. -/
def run (args : List Value) : Script → Program
  | .const l => l.make .give
  | .arg i => .given (argument args i) .give
  | .args => .askValue (.newArray args) .give
  | .sum is => .given (sumOf args is) fun n => .give (.int n)
  | .getField name => .given (argument args 0) fun v => .askValue (.getField v name) .give
  | .setField name value => .given ((argument args 0).bind Value.expectObject) fun r =>
    (value.run args).andThen fun v => .ask (.setField (.ref r) name v) fun _ => .give .null
  | .fail words => .fail (.unsupported (.refused words))
  | .native owner key => .tailCall (.native owner key args)
  | .virtual key => .given (argument args 0) fun v => .tailCall (.virtual v key (args.drop 1))
  | .static cls key => cls.resolve fun id => .tailCall (.static id key args)
  | .seq scripts => runAll args .null scripts

/-- What scripts do one after the other; `last` is the result of those before. -/
def runAll (args : List Value) (last : Value) : List Script → Program
  | [] => .give last
  | s :: rest => (s.run args).andThen fun v => runAll args v rest

end

/-- A script as a method body. -/
def body (s : Script) : Body := fun args => s.run args

end Script

end GuestHost
