import GuestHost.Commands

/-!
# Help on the commands

A command is described by the operands and options that it takes, and its help is printed from that
description: what the command is for, how it is used, and a table for each kind of argument whose
second columns start at one place.
-/

namespace GuestHost

/-- The commands that help can be asked on. -/
inductive Topic
  | run
  | imports
  | cat
  | help
deriving Repr, DecidableEq

/-- An option that takes a value. -/
structure ValueOption where
  short : Char
  long : String
  /-- What its value stands for. -/
  value : String
  about : String
  /-- Whether its value may be empty. -/
  admitsEmpty : Bool
deriving Repr, DecidableEq

/-- An operand, which must be given. -/
structure Operand where
  name : String
  about : String
  /-- Whether it may be empty. -/
  admitsEmpty : Bool
deriving Repr, DecidableEq

/-- What a command takes: at most one operand, and one option. -/
structure Usage where
  operand : Option Operand
  option : ValueOption
deriving Repr, DecidableEq

namespace Topic

/-- The name of a command. -/
def name : Topic → String
  | .run => "run"
  | .imports => "imports"
  | .cat => "cat"
  | .help => "help"

/-- What a command is for. -/
def about : Topic → String
  | .run => "Bootstrap a compiled module (shared library)"
  | .imports => "List the native import table"
  | .cat => "Read a path through the virtual file table and write it to stdout"
  | .help => "Print this message or the help of the given subcommand(s)"

/-- All commands, in the order in which they are listed. -/
def all : List Topic := [.run, .imports, .cat, .help]

/-- The command with a name. -/
def ofName? (name : String) : Option Topic := all.find? fun t => t.name == name

end Topic

namespace Usage

/-- The option that names a configuration. -/
def config : ValueOption := ⟨'c', "config", "CONFIG", "Bridge configuration (TOML)", false⟩

def run : Usage := ⟨some ⟨"MODULE", "Path to the module", false⟩, config⟩

def imports : Usage := ⟨none, ⟨'o', "owner", "OWNER", "Only show keys for this owner", true⟩⟩

def cat : Usage :=
  ⟨some ⟨"PATH", "Path, resolved by the configured byte source", true⟩, config⟩

/-- How an operand is written in a line of usage. -/
def operandText (u : Usage) : String := u.operand.elim "" fun o => s!" <{o.name}>"

end Usage

namespace Help

/-- The name of the program. -/
def program : String := "bytelink"

/-- What the program is for. -/
def about : String := "Host runtime bridge for translated guest bytecode"

/-- Name and version of the program. -/
def version : String := program ++ " 0.2.0\n"

/-- A section with a title and rows in two columns. -/
def table (title : String) (rows : List (String × String)) : String :=
  let width := (rows.map fun r => r.1.length).foldl max 0
  let row (r : String × String) : String :=
    "  " ++ r.1 ++ "".pushn ' ' (width - r.1.length) ++ "  " ++ r.2 ++ "\n"
  "\n" ++ title ++ ":\n" ++ String.join (rows.map row)

/-- The line that shows how a command is used. -/
def usageLine : Option Topic → String
  | none => s!"Usage: {program} <COMMAND>\n"
  | some .run => s!"Usage: {program} run [OPTIONS]{Usage.run.operandText}\n"
  | some .imports => s!"Usage: {program} imports [OPTIONS]{Usage.imports.operandText}\n"
  | some .cat => s!"Usage: {program} cat [OPTIONS]{Usage.cat.operandText}\n"
  | some .help => s!"Usage: {program} help [COMMAND]...\n"

/-- The row of the option that asks for help. -/
def helpRow : String × String := ("-h, --help", "Print help")

/-- The sections on what a command takes. -/
def usageSections (u : Usage) : String :=
  let o := u.option
  let operand := u.operand.elim "" fun p => table "Arguments" [(s!"<{p.name}>", p.about)]
  operand ++ table "Options" [(s!"-{o.short}, --{o.long} <{o.value}>", o.about), helpRow]

/-- The sections of the help on a command, or of the help on the program. -/
def sections : Option Topic → String
  | none =>
    table "Commands" (Topic.all.map fun t => (t.name, t.about)) ++
      table "Options" [helpRow, ("-V, --version", "Print version")]
  | some .run => usageSections .run
  | some .imports => usageSections .imports
  | some .cat => usageSections .cat
  | some .help => table "Arguments" [("[COMMAND]...", "Print help for the subcommand(s)")]

/-- The help on a command, or on the program. -/
def text (topic : Option Topic) : String :=
  topic.elim about Topic.about ++ "\n\n" ++ usageLine topic ++ sections topic

end Help

end GuestHost
