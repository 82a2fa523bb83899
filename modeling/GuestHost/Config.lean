import GuestHost.Files.Console

/-!
# Configuration

How guest code is hosted, where the bytes of files come from, and where console lines are logged.
-/

namespace GuestHost

/-- How guest code is hosted. -/
inductive Mode
  /-- Guest objects live in the host's heap. -/
  | direct
  /-- Guest texts, arrays and file streams live in a module. -/
  | exported
deriving Repr, DecidableEq

/-- The name of a mode. -/
def Mode.name : Mode → String
  | .direct => "Direct"
  | .exported => "Exported"

/-- Where the bytes of files come from. -/
inductive SourceConfig
  | memory
  /-- The files below a directory. -/
  | directory (root : String)
  /-- A server that paths are resolved against, and the patience with it in milliseconds. -/
  | http (baseUrl : String) (timeout : Nat)
deriving Repr, DecidableEq

/-- A configuration. -/
structure Config where
  mode : Mode := .direct
  files : SourceConfig := .memory
  console : ConsoleTargets := .default
deriving Repr, DecidableEq

/-- The patience with a server when none is configured, in milliseconds. -/
def SourceConfig.defaultTimeout : Nat := 5000

end GuestHost
