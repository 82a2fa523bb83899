/-!
# TOML documents

The values of a TOML document, and building up its tables. A table remembers how it came to be, since
that decides what may still be added to it: a header opens a table once, dotted keys add to tables that
dotted keys made, and an inline table is closed.
-/

namespace GuestHost

/-- How a table came to be. -/
inductive TableForm
  /-- A header further down needed it. -/
  | implied
  /-- A dotted key needed it. -/
  | dotted
  /-- It has a header of its own, or is the document. -/
  | opened
  /-- It is written between braces. -/
  | inline
deriving Repr, DecidableEq

/-- A TOML value. -/
inductive Toml
  | text (s : String)
  | integer (n : Int)
  | float (written : String)
  | truth (b : Bool)
  /-- A date, a time, or both. -/
  | moment (written : String)
  | array (items : List Toml)
  /-- Tables with one repeated header. -/
  | tables (items : List Toml)
  | table (form : TableForm) (entries : List (String × Toml))

instance : Inhabited Toml := ⟨.truth false⟩

namespace Toml

/-- The entries of a table. -/
abbrev Entries := List (String × Toml)

/-- Replaces the value of a key that is present. -/
def replace (key : String) (v : Toml) (entries : Entries) : Entries :=
  entries.map fun e => if e.1 = key then (key, v) else e

/-- Changes the last of the tables with a repeated header. -/
def onLast (f : Entries → Option Entries) (items : List Toml) : Option (List Toml) :=
  match items.getLast? with
  | some (.table form entries) => do return items.dropLast ++ [.table form (← f entries)]
  | _ => none

/-- Changes the table that a path of headers leads to. Missing tables are implied; of tables with one
repeated header the last is meant. -/
def within (f : Entries → Option Entries) : List String → Entries → Option Entries
  | [], entries => f entries
  | key :: path, entries =>
    match entries.lookup key with
    | none => do return entries ++ [(key, .table .implied (← within f path []))]
    | some (.table .inline _) => none
    | some (.table form inner) => do
      return replace key (.table form (← within f path inner)) entries
    | some (.tables items) => do
      return replace key (.tables (← onLast (within f path) items)) entries
    | some _ => none

/-- Opens the table of a header. -/
def openTable (key : String) (entries : Entries) : Option Entries :=
  match entries.lookup key with
  | none => some (entries ++ [(key, .table .opened [])])
  | some (.table .implied inner) => some (replace key (.table .opened inner) entries)
  | some _ => none

/-- Opens one more table of a repeated header. -/
def openNext (key : String) (entries : Entries) : Option Entries :=
  match entries.lookup key with
  | none => some (entries ++ [(key, .tables [.table .opened []])])
  | some (.tables items) => some (replace key (.tables (items ++ [.table .opened []])) entries)
  | some _ => none

/-- Sets a dotted key, whose last part is `key`, to a value. The table that it is set in must be new or
made by dotted keys. -/
def assign (key : String) (v : Toml) : List String → Entries → Option Entries
  | [], entries =>
    match entries.lookup key with
    | none => some (entries ++ [(key, v)])
    | some _ => none
  | part :: path, entries =>
    match entries.lookup part with
    | none => do return entries ++ [(part, .table .dotted (← assign key v path []))]
    | some (.table .dotted inner) => do
      return replace part (.table .dotted (← assign key v path inner)) entries
    | some (.table .implied inner) =>
      if path = [] then none
      else do return replace part (.table .implied (← assign key v path inner)) entries
    | some (.tables items) =>
      if path = [] then none
      else do return replace part (.tables (← onLast (assign key v path) items)) entries
    | some _ => none

end Toml

end GuestHost
