import GuestHost.Commands.Arguments

/-!
# The command line

Looks up the files that a command needs, carries the command out and writes what it leaves. Compiled
modules cannot be loaded and servers cannot be reached from here: what stands at the path of a module
is never loadable, and no request is answered.
-/

namespace GuestHost.Main

/-- Adds the file at a place to a disk, if there is one. -/
def gather (disk : Disk) (l : Location) : IO Disk := do
  if l.asDirectory then return disk
  match ← (IO.FS.readBinFile l.path).toBaseIO with
  | .ok bytes => return disk.set l.names (.readable bytes.toList)
  | .error (.permissionDenied ..) => return disk.set l.names .unreadable
  | .error _ => return disk

/-- Adds the file of a configuration to a disk. -/
def gatherConfig (disk : Disk) : Option String → IO Disk
  | none => return disk
  | some path => gather disk (Location.ofPath path)

/-- The files that a command needs. -/
def diskFor : Command → IO Disk
  | .run _ config => gatherConfig .empty config
  | .imports _ => return .empty
  | .cat path config => do
    let disk ← gatherConfig .empty config
    match Command.loadConfig disk config with
    | .ok { files := .directory root, .. } =>
      match (Directory.ofPath root disk).resolve path with
      | .ok l => gather disk l
      | .error _ => return disk
    | _ => return disk

/-- What stands at the path of a module. -/
def moduleAt (path : String) : IO ModuleFile := do
  match ← (IO.FS.Handle.mk path .read).toBaseIO with
  | .ok _ => return .notLoadable
  | .error _ => return .absent

/-- What a command line finds around it. -/
def workplaceFor : Except UsageFault Request → IO Workplace
  | .ok (.command c) => do
    let disk ← diskFor c
    let file ← match c with
      | .run path _ => moduleAt path
      | _ => pure .absent
    return workplace disk file
  | _ => return workplace .empty .absent
where
  workplace (disk : Disk) (file : ModuleFile) : Workplace :=
    { outside := ⟨disk, fun _ => none⟩, modules := fun _ => file,
      surroundings := { millis := 0, seed := 0 } }

end GuestHost.Main

/-- Carries out a command line; the result is the exit code. -/
def main (arguments : List String) : IO UInt32 := do
  let request := GuestHost.CommandLine.read arguments
  let outcome := GuestHost.CommandLine.answer (← GuestHost.Main.workplaceFor request) request
  let stdout ← IO.getStdout
  stdout.write ⟨outcome.stdout.toArray⟩
  stdout.flush
  (← IO.getStderr).putStr outcome.stderr
  return outcome.code.toUInt32
