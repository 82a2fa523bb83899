import GuestHost.Files.Source
import GuestHost.Text.Pieces

/-!
# Files below a directory

A path is a way through directories, step by step, as the components between its slashes say. A path is
looked up below a root directory without the slashes in front of it, and only if it goes from name to
name: a path that leads up is refused, and so is one that starts somewhere else.
-/

namespace GuestHost

/-- A regular file: its bytes, unless they cannot be read. -/
inductive DiskFile
  | readable (bytes : Bytes)
  | unreadable
deriving Repr, DecidableEq

/-- The regular files of a file system, by the names on the way to them. -/
abbrev Disk := Dict (List String) DiskFile

/-- The disk with some files, all of which can be read. -/
def Disk.ofList (files : List (List String × Bytes)) : Disk :=
  Dict.ofList (files.map fun (names, bytes) => (names, .readable bytes))

/-- Where a path leads. -/
structure Location where
  /-- The names on the way. -/
  names : List String
  /-- Whether the path is written so that only a directory can be meant. -/
  asDirectory : Bool
deriving Repr, DecidableEq

namespace Location

/-! ## Components -/

/-- The components of a path, between its slashes. -/
def components (path : String) : List String :=
  (Text.split (· == '/') path.toList).map String.ofList

/-- Whether a component is the name of something. -/
def isName (component : String) : Bool := component ≠ "" && component ≠ "." && component ≠ ".."

/-- Whether a path is written so that only a directory can be meant: it ends in no name. -/
def endsInDirectory (path : String) : Bool := !((components path).getLast?.map isName).getD false

/-! ## Steps -/

/-- A step on the way that a path describes. -/
inductive Step
  /-- To the place where all absolute paths start, wherever the way has led. -/
  | start
  /-- To where the way has led already. -/
  | stay
  /-- To the directory around. -/
  | up
  /-- To what has a name there. -/
  | into (name : String)
deriving Repr, DecidableEq

/-- The step that a component stands for, if it stands for one. -/
def Step.ofComponent? (component : String) : Option Step :=
  if component = ".." then some .up
  else if isName component then some (.into component)
  else none

/-- The steps of a path. An absolute path goes to the start first. A single dot is a step only where a
path starts with it. -/
def steps (path : String) : List Step :=
  let named := (components path).filterMap Step.ofComponent?
  if path.toList.head? = some '/' then .start :: named
  else if (components path).head? = some "." then .stay :: named
  else named

/-- Where a step leads. The way along an absolute path starts with the name `/`, and there is nothing
above it; above where a way starts otherwise, it goes on with double dots. -/
def Step.follow (names : List String) : Step → List String
  | .start => ["/"]
  | .stay => names
  | .up =>
    match names.getLast? with
    | none => [".."]
    | some ".." => names ++ [".."]
    | some "/" => names
    | some _ => names.dropLast
  | .into name => names ++ [name]

/-- The place that a path leads to from somewhere; an absolute path leads to the same place from
everywhere. -/
def join (names : List String) (path : String) : Location where
  names := (steps path).foldl Step.follow names
  asDirectory := endsInDirectory path

/-- The place that a path leads to. -/
def ofPath (path : String) : Location := join [] path

/-- A path that leads to a place. -/
def path (l : Location) : String :=
  match l.names with
  | "/" :: rest => "/" ++ "/".intercalate rest
  | names => "/".intercalate names

/-- The file at a place. -/
def file? (disk : Disk) (l : Location) : Option DiskFile :=
  if l.asDirectory then none else disk.get? l.names

/-- The bytes of the file at a place, if there is one that can be read. -/
def bytes? (disk : Disk) (l : Location) : Option Bytes :=
  match l.file? disk with
  | some (.readable bytes) => some bytes
  | _ => none

/-- Whether there is a directory at a place: one that is around the place where every path starts, or
one with a file below it. -/
def isDirectory (disk : Disk) (l : Location) : Bool :=
  l.names.all (· == "..") || l.names == ["/"] ||
    disk.keys.any fun names => l.names.isPrefixOf names && l.names ≠ names

/-- Whether there is a file or a directory at a place. -/
def isTaken (disk : Disk) (l : Location) : Bool := (l.file? disk).isSome || l.isDirectory disk

end Location

/-- A directory whose files are a source. -/
structure Directory where
  /-- The names on the way to the root. -/
  root : List String
  disk : Disk
deriving Repr, DecidableEq

namespace Directory

/-- A path without the slashes in front of it. -/
def relative (path : String) : String := .ofList (path.toList.dropWhile (· == '/'))

/-- Whether a step is one that a path below a directory may take. -/
def admits : Location.Step → Bool
  | .stay | .into _ => true
  | .start | .up => false

/-- The place that a path leads to from the root; a path that takes other steps leads nowhere. -/
def resolve (d : Directory) (path : String) : Except FetchFault Location :=
  if (Location.steps (relative path)).all admits then .ok (Location.join d.root (relative path))
  else .error (.invalidPath path)

/-- All bytes of the file at a path. -/
def fetch (d : Directory) (path : String) : Except FetchFault Bytes :=
  match d.resolve path with
  | .error fault => .error fault
  | .ok l =>
    match l.file? d.disk with
    | some (.readable bytes) => .ok bytes
    | some .unreadable => .error .io
    | none => .error (.notFound path)

/-- Whether there is a file at a path. -/
def holds (d : Directory) (path : String) : Bool :=
  match d.resolve path with
  | .error _ => false
  | .ok l => (l.file? d.disk).isSome

/-- The directory that a path leads to. -/
def ofPath (root : String) (disk : Disk) : Directory := ⟨(Location.ofPath root).names, disk⟩

/-- A directory as a source of files. -/
def source (d : Directory) : FileSource := .answering d.fetch d.holds

end Directory

end GuestHost
