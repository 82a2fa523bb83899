import GuestHost.Commands.Help

/-!
# Command lines

A command line names a command and gives it an operand and an option, in any order. An option stands
before its value or has it attached, an argument `--` makes all later arguments operands, and help is
given as soon as it is asked for, unless something before it is wrong.

* `CommandLine.read` says what a list of arguments asks for.
* `CommandLine.execute` answers it: with the outcome of a command, with help, or with a refusal.
-/

namespace GuestHost

/-- What is wrong with a command line. -/
inductive UsageFault
  /-- No command is named. -/
  | noCommand
  | unknownCommand (name : String)
  | unexpected (argument : String)
  | operandMissing (name : String)
  | valueMissing (name : String)
  | emptyValue (name : String)
  | twice (name : String)
deriving Repr, DecidableEq

/-- The wording of a usage fault. -/
def UsageFault.message : UsageFault → String
  | .noCommand => "a subcommand is required but one was not provided"
  | .unknownCommand name => s!"unrecognized subcommand '{name}'"
  | .unexpected argument => s!"unexpected argument '{argument}' found"
  | .operandMissing name => s!"the required argument <{name}> was not provided"
  | .valueMissing name => s!"a value is required for '{name}' but none was supplied"
  | .emptyValue name => s!"a value is required for '{name}' but an empty one was supplied"
  | .twice name => s!"the argument '{name}' cannot be used multiple times"

/-- What a command line asks for. -/
inductive Request
  | command (c : Command)
  | help (topic : Option Topic)
  | version
deriving Repr, DecidableEq

namespace CommandLine

/-- An argument by its form. -/
inductive Argument
  /-- The mark that only operands follow. -/
  | mark
  /-- An option with a long name, and what follows an equals sign. -/
  | long (name : String) (attached : Option String)
  /-- An option of one letter, and what is attached to it; an equals sign between them does not
  count. -/
  | short (letter : Char) (attached : Option String)
  | plain
deriving Repr, DecidableEq

namespace Argument

/-- What is attached to the letter of an option. -/
def attachedTo : List Char → Option String
  | [] => none
  | '=' :: rest => some (String.ofList rest)
  | rest => some (String.ofList rest)

/-- The form of an argument. A single hyphen is an operand. -/
def ofText (argument : String) : Argument :=
  match argument.toList with
  | ['-', '-'] => .mark
  | '-' :: '-' :: rest =>
    .long (String.ofList (rest.takeWhile (· ≠ '='))) <|
      match rest.dropWhile (· ≠ '=') with
      | [] => none
      | _ :: value => some (String.ofList value)
  | '-' :: letter :: rest => .short letter (attachedTo rest)
  | _ => .plain

end Argument

/-- What a command has been given. -/
structure Given where
  operand : Option String := none
  value : Option String := none
deriving Repr, DecidableEq

namespace Given

/-- Takes an operand, if the command has one and it has not been given. -/
def takeOperand (g : Given) (u : Usage) (operand : String) : Except UsageFault Given :=
  match u.operand with
  | none => .error (.unexpected operand)
  | some o =>
    if g.operand.isSome then .error (.unexpected operand)
    else if operand = "" ∧ !o.admitsEmpty then .error (.emptyValue o.name)
    else .ok { g with operand := some operand }

/-- Takes the value of the option, if it has not been given. -/
def takeValue (g : Given) (o : ValueOption) (value : String) : Except UsageFault Given :=
  if g.value.isSome then .error (.twice o.long)
  else if value = "" ∧ !o.admitsEmpty then .error (.emptyValue o.long)
  else .ok { g with value := some value }

end Given

/-- Whether an argument is the option of a command or asks for help; what is attached to it. -/
inductive Meaning
  | value (attached : Option String)
  | help
  | operand
  | operandsOnly
  | wrong
deriving Repr, DecidableEq

/-- What an argument means to a command. -/
def meaning (o : ValueOption) (argument : String) : Meaning :=
  match Argument.ofText argument with
  | .mark => .operandsOnly
  | .long name attached =>
    if name = o.long then .value attached
    else if name = "help" ∧ attached.isNone then .help
    else .wrong
  | .short letter attached =>
    if letter = o.short then .value attached else if letter = 'h' then .help else .wrong
  | .plain => .operand

/-- Reads operands only. -/
def readOperands (u : Usage) (g : Given) (arguments : List String) : Except UsageFault Given :=
  arguments.foldlM (fun g operand => g.takeOperand u operand) g

/-- Reads the arguments of a command; nothing is given if help is asked for. -/
def readArguments (u : Usage) (g : Given) : List String → Except UsageFault (Option Given)
  | [] => .ok (some g)
  | argument :: rest =>
    match meaning u.option argument with
    | .operandsOnly => (readOperands u g rest).map some
    | .help => .ok none
    | .wrong => .error (.unexpected argument)
    | .operand =>
      match g.takeOperand u argument with
      | .ok g => readArguments u g rest
      | .error fault => .error fault
    | .value (some attached) =>
      match g.takeValue u.option attached with
      | .ok g => readArguments u g rest
      | .error fault => .error fault
    | .value none =>
      match rest with
      | [] => .error (.valueMissing u.option.long)
      | value :: rest =>
        if Argument.ofText value = .plain then
          match g.takeValue u.option value with
          | .ok g => readArguments u g rest
          | .error fault => .error fault
        else .error (.valueMissing u.option.long)

/-- Reads the arguments of a command that has an operand. -/
def withOperand (topic : Topic) (u : Usage) (make : String → Option String → Command)
    (arguments : List String) : Except UsageFault Request :=
  match readArguments u {} arguments with
  | .error fault => .error fault
  | .ok none => .ok (.help (some topic))
  | .ok (some g) =>
    match g.operand with
    | some operand => .ok (.command (make operand g.value))
    | none => .error (.operandMissing (u.operand.elim "" Operand.name))

/-- Reads what follows the command `help`: the name of a command, if anything. -/
def readTopic : List String → Except UsageFault Request
  | [] => .ok (.help none)
  | name :: rest =>
    match Topic.ofName? name, rest with
    | none, _ => .error (.unknownCommand name)
    | some topic, [] => .ok (.help (some topic))
    | some _, other :: _ => .error (.unknownCommand other)

/-- What a list of arguments asks for. -/
def read : List String → Except UsageFault Request
  | [] => .error .noCommand
  | name :: rest =>
    match Topic.ofName? name with
    | some .run => withOperand .run .run .run rest
    | some .cat => withOperand .cat .cat .cat rest
    | some .imports =>
      match readArguments .imports {} rest with
      | .error fault => .error fault
      | .ok none => .ok (.help (some .imports))
      | .ok (some g) => .ok (.command (.imports g.value))
    | some .help => readTopic rest
    | none =>
      match Argument.ofText name with
      | .mark => .error (rest.head?.elim .noCommand UsageFault.unexpected)
      | .long "help" none => .ok (.help none)
      | .long "version" none => .ok .version
      | .short 'h' _ => .ok (.help none)
      | .short 'V' _ => .ok .version
      | .plain => .error (.unknownCommand name)
      | _ => .error (.unexpected name)

/-- Answers what a command line asks for. What is wrongly used is told on standard error, with exit
code 2. -/
def answer (w : Workplace) : Except UsageFault Request → Outcome
  | .ok (.command c) => c.execute w
  | .ok (.help topic) => .success (Utf8.ofString (Help.text topic))
  | .ok .version => .success (Utf8.ofString Help.version)
  | .error .noCommand => ⟨2, [], Help.text none⟩
  | .error fault => ⟨2, [], s!"error: {fault.message}\n\n{Help.usageLine none}"⟩

/-- Answers a list of arguments. -/
def execute (w : Workplace) (arguments : List String) : Outcome := answer w (read arguments)

end CommandLine

end GuestHost
