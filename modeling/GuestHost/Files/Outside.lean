import GuestHost.Config
import GuestHost.Files.Directory
import GuestHost.Files.Server

/-!
# The source that a configuration names

What lies outside the host, a file system and a network, and the sources of files that are set up over
it.
-/

namespace GuestHost

/-- What lies outside the host. -/
structure Outside where
  disk : Disk
  network : Network

/-- Nothing lies outside. -/
def Outside.nothing : Outside := ⟨.empty, fun _ => none⟩

/-- The source of files that a configuration names. -/
def SourceConfig.source (outside : Outside) : SourceConfig → Except FetchFault FileSource
  | .memory => .ok (.staged .empty)
  | .directory root => .ok (Directory.ofPath root outside.disk).source
  | .http baseUrl _ => (Server.ofAddress outside.network baseUrl).map Server.source

end GuestHost
