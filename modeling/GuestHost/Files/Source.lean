import GuestHost.Dict
import GuestHost.Text.Utf8

/-!
# Sources of files

A file is opened by fetching all its bytes from a source. Embedders stage files in memory; any other
source is given by what it answers.
-/

namespace GuestHost

/-- Why a source has no bytes for a path. -/
inductive FetchFault
  | notFound (path : String)
  | status (code : Nat) (path : String)
  | invalidPath (words : String)
  | protocol (words : String)
  /-- A failure of the system underneath. -/
  | io
deriving Repr, DecidableEq

/-- The wording of a fetch fault; failures of the system underneath have none of their own. -/
def FetchFault.message : FetchFault → String
  | .notFound path => s!"Not found: {path}"
  | .status code path => s!"HTTP {code} for {path}"
  | .invalidPath words => s!"Invalid path: {words}"
  | .protocol words => s!"Protocol error: {words}"
  | .io => "I/O error"

/-- Where the bytes of files come from. -/
inductive FileSource
  /-- Files staged in memory by their paths. -/
  | staged (files : Dict String Bytes)
  /-- A source that is known by its answers: the bytes at a path, and whether a path exists. -/
  | answering (fetch : String → Except FetchFault Bytes) (holds : String → Bool)

namespace FileSource

instance : Inhabited FileSource := ⟨.staged .empty⟩

/-- All bytes at a path. -/
def fetch : FileSource → String → Except FetchFault Bytes
  | .staged files, path =>
    match files.get? path with
    | some bytes => .ok bytes
    | none => .error (.notFound path)
  | .answering fetch _, path => fetch path

/-- Whether there is anything at a path. -/
def holds : FileSource → String → Bool
  | .staged files, path => files.contains path
  | .answering _ holds, path => holds path

/-- The files staged in memory. -/
def stagedFiles : FileSource → Dict String Bytes
  | .staged files => files
  | .answering _ _ => .empty

/-- Stages bytes at a path in place of what was there. -/
def stage (s : FileSource) (path : String) (bytes : Bytes) : FileSource :=
  match s with
  | .staged files => .staged (files.set path bytes)
  | .answering fetch holds => .answering fetch holds

/-- Takes away what is staged at a path. -/
def unstage (s : FileSource) (path : String) : FileSource :=
  match s with
  | .staged files => .staged (files.erase path)
  | .answering fetch holds => .answering fetch holds

end FileSource

end GuestHost
