import GuestHost.Config.Validity
import GuestHost.Toml.Document

/-!
# Configurations in TOML

A configuration has the settings `mode`, `files` and `console`, each of which may be missing; other
settings are ignored. A group of settings may also be written as an array, in the order in which the
settings are declared. What is read is validated.
-/

namespace GuestHost

namespace Toml

/-- A text. -/
def toText? : Toml → Option String
  | .text s => some s
  | _ => none

/-- A natural number. -/
def toNat? : Toml → Option Nat
  | .integer n => if 0 ≤ n then some n.toNat else none
  | _ => none

/-- The settings of a group, in a table or as an array. A date or a time is a table of its own, with
no setting that matters. -/
inductive Group
  | named (entries : Entries)
  | listed (items : List Toml)

/-- A value as a group of settings. -/
def toGroup? : Toml → Option Group
  | .table _ entries => some (.named entries)
  | .array items => some (.listed items)
  | .tables items => some (.listed items)
  | .moment _ => some (.named [])
  | _ => none

/-- The setting of a group with a name and a place, if it is there. -/
def Group.setting? (g : Group) (name : String) (place : Nat) : Option Toml :=
  match g with
  | .named entries => entries.lookup name
  | .listed items => items[place]?

/-- Reads a setting, which is `default` if it is missing. -/
def Group.readOr {α : Type} (g : Group) (name : String) (place : Nat) (read : Toml → Option α)
    (default : α) : Option α :=
  match g.setting? name place with
  | some v => read v
  | none => some default

/-- Reads a setting that must be there. -/
def Group.read? {α : Type} (g : Group) (name : String) (place : Nat) (read : Toml → Option α) :
    Option α :=
  (g.setting? name place).bind read

/-- Whether a group has no more than `n` settings by place. -/
def Group.fits (g : Group) (n : Nat) : Bool :=
  match g with
  | .named _ => true
  | .listed items => items.length ≤ n

/-- Whether a value holds nothing: an empty table or an empty array. -/
def isVoid : Toml → Bool
  | .table _ entries => entries.isEmpty
  | .array items => items.isEmpty
  | .tables items => items.isEmpty
  | _ => false

/-- The name of a choice: a text, or a table whose only key it is and that says no more. -/
def toChoice? : Toml → Option String
  | .text s => some s
  | .table _ [(name, v)] => if v.isVoid then some name else none
  | _ => none

end Toml

namespace Config

open Toml (Group)

/-- Reads a mode. -/
def readMode (v : Toml) : Option Mode :=
  match v.toChoice? with
  | some "direct" => some .direct
  | some "exported" => some .exported
  | _ => none

/-- Reads a source of files. Its kind is the setting `source`, or comes first. -/
def readSource (v : Toml) : Option SourceConfig := do
  let group ← v.toGroup?
  let rest := match group with
    | .named entries => Group.named entries
    | .listed items => .listed (items.drop 1)
  match ← group.read? "source" 0 Toml.toText? with
  | "memory" => if rest.fits 0 then some .memory else none
  | "directory" =>
    if rest.fits 1 then (rest.read? "root" 0 Toml.toText?).map .directory else none
  | "http" =>
    if rest.fits 2 then do
      let baseUrl ← rest.read? "base_url" 0 Toml.toText?
      let timeout ← rest.readOr "timeout_ms" 1 Toml.toNat? SourceConfig.defaultTimeout
      return .http baseUrl timeout
    else none
  | _ => none

/-- Reads the console targets. -/
def readTargets (v : Toml) : Option ConsoleTargets := do
  let group ← v.toGroup?
  let stdout ← group.readOr "stdout_target" 0 Toml.toText? ConsoleTargets.default.stdout
  let stderr ← group.readOr "stderr_target" 1 Toml.toText? ConsoleTargets.default.stderr
  return { stdout, stderr }

/-- Reads a configuration from the entries of a document. -/
def ofEntries (entries : Toml.Entries) : Option Config := do
  let group := Group.named entries
  let mode ← group.readOr "mode" 0 readMode .direct
  let files ← group.readOr "files" 1 readSource .memory
  let console ← group.readOr "console" 2 readTargets .default
  return { mode, files, console }

/-- Reads and validates a configuration. -/
def parse (text : String) : Except ConfigFault Config :=
  match (Toml.parse? text).bind ofEntries with
  | none => .error .malformed
  | some c =>
    match c.validate with
    | .error flaw => .error (.invalid flaw)
    | .ok () => .ok c

/-- What is read is valid. -/
theorem isValid_of_parse {text : String} {c : Config} (h : parse text = .ok c) : c.IsValid := by
  unfold parse at h
  split at h
  · cases h
  · split at h
    · cases h
    · next hvalid =>
      cases h
      exact validate_eq_ok_iff.1 hvalid

/-- Reads a configuration from the bytes of a file, if there is one. -/
def ofFile (bytes : Option Bytes) : Except ConfigFault Config :=
  match bytes.map Utf8.decode with
  | some (.ok cs) => parse (String.ofList cs)
  | _ => .error .unreadable

end Config

end GuestHost
