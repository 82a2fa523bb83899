import GuestHost.Toml.Scalar

/-!
# Reading TOML documents

A document is a sequence of lines: settings, headers, comments and blank lines. Arrays and inline
tables may nest 79 deep, and a dotted key may have as many parts.
-/

namespace GuestHost.Toml

/-! ## Keys and values -/

/-- How deep values may nest, and how many parts a key may have. -/
def nesting : Nat := 79

/-- Whether a character may stand in a key without quotes. -/
def inKey (c : Char) : Bool := c.isAlphanum || c = '_' || c = '-'

/-- Reads one part of a key. -/
def keyPart (s : List Char) : Option (String × List Char) :=
  match s with
  | '"' :: _ => (shortText s).map fun p => (String.ofList p.1, p.2)
  | '\'' :: _ => (shortText s).map fun p => (String.ofList p.1, p.2)
  | s =>
    let name := s.takeWhile inKey
    if name.isEmpty then none else some (String.ofList name, s.drop name.length)

/-- Reads a key of at most `parts` parts, with the blanks around it. -/
def key : (parts : Nat) → List Char → Option (List String × List Char)
  | 0, _ => none
  | n + 1, s => do
    let (part, rest) ← keyPart (dropBlanks s)
    match dropBlanks rest with
    | '.' :: rest => do
      let (more, rest) ← key n rest
      return (part :: more, rest)
    | rest => return ([part], rest)

/-- Drops blanks, line breaks and comments at the front. -/
def dropFiller (inComment : Bool) : List Char → List Char
  | '\r' :: '\n' :: rest => dropFiller false rest
  | c :: rest =>
    if c = '\n' then dropFiller false rest
    else if inComment then if isPlain c then dropFiller true rest else c :: rest
    else if isBlank c then dropFiller false rest
    else if c = '#' then dropFiller true rest
    else c :: rest
  | [] => []

/-- Sets a key to a value in the entries of a table. -/
def set (path : List String) (v : Toml) (entries : Entries) : Option Entries :=
  match path.getLast? with
  | some last => assign last v path.dropLast entries
  | none => none

mutual

/-- Reads a value. -/
def value : (fuel depth : Nat) → List Char → Option (Toml × List Char)
  | 0, _, _ => none
  | fuel + 1, depth, s =>
    match s with
    | '[' :: rest =>
      match depth with
      | 0 => none
      | depth + 1 => (items fuel depth rest).map fun p => (.array p.1, p.2)
    | '\x7b' :: rest =>
      match depth with
      | 0 => none
      | depth + 1 =>
        match dropBlanks rest with
        | '\x7d' :: rest => some (.table .inline [], rest)
        | rest => (settings fuel depth [] rest).map fun p => (.table .inline p.1, p.2)
    | '"' :: _ => (anyText s).map fun p => (.text (String.ofList p.1), p.2)
    | '\'' :: _ => (anyText s).map fun p => (.text (String.ofList p.1), p.2)
    | s => word s

/-- Reads the elements of an array up to its closing bracket. -/
def items : (fuel depth : Nat) → List Char → Option (List Toml × List Char)
  | 0, _, _ => none
  | fuel + 1, depth, s =>
    match dropFiller false s with
    | ']' :: rest => some ([], rest)
    | s => do
      let (v, rest) ← value fuel depth s
      match dropFiller false rest with
      | ',' :: rest => do
        let (more, rest) ← items fuel depth rest
        return (v :: more, rest)
      | ']' :: rest => return ([v], rest)
      | _ => none

/-- Reads the settings of an inline table up to its closing brace. -/
def settings : (fuel depth : Nat) → Entries → List Char → Option (Entries × List Char)
  | 0, _, _, _ => none
  | fuel + 1, depth, entries, s => do
    let (path, rest) ← key nesting s
    match rest with
    | '=' :: rest => do
      let (v, rest) ← value fuel depth (dropBlanks rest)
      let entries ← set path v entries
      match dropBlanks rest with
      | ',' :: rest => settings fuel depth entries rest
      | '\x7d' :: rest => return (entries, rest)
      | _ => none
    | _ => none

end

/-! ## Lines -/

/-- A document that is partly read: its tables, and the path of the table that settings go to. -/
structure Draft where
  entries : Entries
  path : List String

/-- The text after the end of a line, which may have a comment. -/
def endLine (s : List Char) : Option (List Char) :=
  let rest := match dropBlanks s with
    | '#' :: rest => rest.dropWhile isPlain
    | rest => rest
  match rest with
  | [] => some []
  | rest => lineBreak? rest

/-- Opens a table under a header. -/
def Draft.open (d : Draft) (path : List String) (act : String → Entries → Option Entries) :
    Option Draft := do
  let last ← path.getLast?
  let entries ← within (act last) path.dropLast d.entries
  return { entries, path }

/-- Reads a line that is not blank. -/
def line (d : Draft) (s : List Char) : Option (Draft × List Char) :=
  match s with
  | '#' :: _ => (endLine s).map fun rest => (d, rest)
  | '[' :: '[' :: rest => do
    let (path, rest) ← key nesting rest
    match rest with
    | ']' :: ']' :: rest => return (← d.open path openNext, ← endLine rest)
    | _ => none
  | '[' :: rest => do
    let (path, rest) ← key nesting rest
    match rest with
    | ']' :: rest => return (← d.open path openTable, ← endLine rest)
    | _ => none
  | s => do
    let (path, rest) ← key nesting s
    match rest with
    | '=' :: rest => do
      let (v, rest) ← value (2 * s.length + 2) nesting (dropBlanks rest)
      let entries ← within (set path v) d.path d.entries
      return ({ d with entries }, ← endLine rest)
    | _ => none

/-- Reads lines up to the end. -/
def lines : (fuel : Nat) → Draft → List Char → Option Entries
  | 0, _, _ => none
  | fuel + 1, d, s =>
    match dropBreaks s with
    | [] => some d.entries
    | s => do
      let (d, rest) ← line d s
      lines fuel d rest

/-- Reads a document: the entries of its outermost table. A byte order mark in front does not
count. -/
def parse? (text : String) : Option Entries :=
  let s := match text.toList with
    | '\uFEFF' :: rest => rest
    | s => s
  lines (s.length + 1) ⟨[], []⟩ s

end GuestHost.Toml
