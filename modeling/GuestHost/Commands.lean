import GuestHost.Config.Reading
import GuestHost.Host.Startup

/-!
# Commands

What can be asked for on a command line: to run a compiled module, to list the import table, or to
read a file through the file table. A command ends with an exit code and with what it writes; one that
fails says in one line why.
-/

namespace GuestHost

/-- What is asked for on a command line. -/
inductive Command
  /-- Starts the module at a path. -/
  | run (modulePath : String) (config : Option String)
  /-- Lists the natives of one owner, or of all. -/
  | imports (owner : Option String)
  /-- Writes out the file at a path. -/
  | cat (path : String) (config : Option String)
deriving Repr, DecidableEq

/-- What stands at the path of a module. -/
inductive ModuleFile
  | absent
  /-- Something that cannot be loaded. -/
  | notLoadable
  | compiled (m : CompiledModule)

/-- What a command finds around it. -/
structure Workplace where
  outside : Outside
  /-- What stands at a path that is given for a module. -/
  modules : String → ModuleFile
  surroundings : Surroundings

/-- What stands at a path of a disk without modules. -/
def Disk.moduleAt (disk : Disk) (path : String) : ModuleFile :=
  if path ≠ "" ∧ (Location.ofPath path).isTaken disk then .notLoadable else .absent

/-- Why a command fails. -/
inductive CommandFault
  | moduleNotFound (path : String)
  /-- There is no such configuration, or it is flawed. -/
  | config (path : String)
  /-- The module at a path does not start. -/
  | start (path : String)
  | noNatives (owner : String)
  | cannotOpen (path : String)
  /-- No host can be built. -/
  | host (fault : Fault)
deriving Repr, DecidableEq

/-- The wording of a failed command. -/
def CommandFault.message : CommandFault → String
  | .moduleNotFound path => s!"Module not found: {path}"
  | .config path => s!"Failed to load config {path}"
  | .start path => s!"Failed to bootstrap {path}"
  | .noNatives owner => s!"No natives registered for {owner}"
  | .cannotOpen path => s!"Cannot open {path}"
  | .host fault => fault.message

/-- How a command ends. -/
structure Outcome where
  code : UInt8
  stdout : Bytes
  stderr : String
deriving Repr, DecidableEq

namespace Outcome

/-- Success, with what is written to standard output. -/
def success (stdout : Bytes) : Outcome := ⟨0, stdout, ""⟩

/-- A failed command. -/
def failure (fault : CommandFault) : Outcome := ⟨1, [], "Error: " ++ fault.message ++ "\n"⟩

end Outcome

namespace FileTable

/-- Number of bytes that are read at once when a file is read to its end. -/
def chunk : Nat := 8192

/-- The bytes that a reading still gives when it is read chunk by chunk, at most `fuel` times. -/
def drain (t : FileTable) (number : Int32) : Nat → Bytes
  | 0 => []
  | fuel + 1 =>
    let (count, bytes, t) := t.readBytes number chunk
    if count ≤ 0 then [] else bytes ++ t.drain number fuel

/-- All bytes that are left in a reading; each chunk but the last empty one takes away at least one. -/
def rest (t : FileTable) (number : Int32) : Bytes :=
  t.drain number (((t.reading? number).map Reading.remaining).getD 0)

end FileTable

namespace Command

/-- The configuration at a path, or the default one if no path is given. -/
def loadConfig (disk : Disk) : Option String → Except CommandFault Config
  | none => .ok {}
  | some path =>
    match Config.ofFile ((Location.ofPath path).bytes? disk) with
    | .ok c => .ok c
    | .error _ => .error (.config path)

/-- The natives of an owner: a line with its name, and an indented one for each native. -/
def listing (table : Imports NativeCode) (owner : String) : String :=
  let line (e : String × MethodKind) : String :=
    match e.2 with
    | .static => s!"  static   {e.1}\n"
    | .onInstance => s!"  instance {e.1}\n"
  owner ++ "\n" ++ String.join ((table.keysOf owner).map line)

/-- Lists the natives of one owner, or of all. -/
def list (table : Imports NativeCode) : Option String → Except CommandFault String
  | none => .ok (String.join (table.owners.map (listing table)))
  | some owner =>
    if owner ∈ table.owners then .ok (listing table owner) else .error (.noNatives owner)

/-- Starts the module at a path. -/
def start (w : Workplace) (path : String) (config : Option String) : Except CommandFault Unit :=
  let found : Option (Except LoadFault (Guest Callback)) :=
    match w.modules path with
    | .absent => none
    | .notLoadable => some (.error (.notFound path))
    | .compiled m => some (.ok m.guest)
  match found with
  | none => .error (.moduleNotFound path)
  | some guest =>
    match loadConfig w.outside.disk config with
    | .error fault => .error fault
    | .ok c =>
      match (Setup.ofConfig c w.outside w.surroundings).start guest .idle with
      | some (.ok _, _) => .ok ()
      | _ => .error (.start path)

/-- The bytes of the file at a path, read through the file table of a host in direct mode. -/
def read (w : Workplace) (path : String) (config : Option String) : Except CommandFault Bytes :=
  match loadConfig w.outside.disk config with
  | .error fault => .error fault
  | .ok c =>
    match (Setup.ofConfig { c with mode := .direct } w.outside w.surroundings).build with
    | .error fault => .error (.host fault)
    | .ok h =>
      let (number, files) := h.files.openForRead h.source path
      if number < 0 then .error (.cannotOpen path) else .ok (files.rest number)

/-- Carries out a command. -/
def execute (w : Workplace) (c : Command) : Outcome :=
  let written := match c with
    | .run path config => (start w path config).map fun _ => []
    | .imports owner => (list .standard owner).map Utf8.ofString
    | .cat path config => read w path config
  match written with
  | .ok bytes => .success bytes
  | .error fault => .failure fault

end Command

end GuestHost
