import GuestHost.Files.Http
import GuestHost.Url

/-!
# Files of a server

Paths are references, which are resolved against the address of a server. Every fetch is one request
over a connection of its own; only status 200 counts as success.
-/

namespace GuestHost

/-- A request, and the host and port that it is sent to. -/
structure HttpRequest where
  host : String
  port : Nat
  text : String
deriving Repr, DecidableEq

/-- A network, as all that comes back over a connection that carries a request; nothing if there is no
connection. -/
abbrev Network := HttpRequest → Option Bytes

/-- The address of a server on a network. -/
structure Server where
  base : Url
  network : Network

namespace Server

open Http (Method)

/-- The server with a given address. -/
def ofAddress (network : Network) (address : String) : Except FetchFault Server :=
  match Url.parse address with
  | .error flaw => .error (.invalidPath (s!"{address}: " ++ flaw.message))
  | .ok base =>
    if base.scheme = "http" then .ok ⟨base, network⟩
    else .error (.invalidPath s!"{address}: only http is supported")

/-- The address of a path. -/
def resolve (s : Server) (path : String) : Except FetchFault Url :=
  match s.base.join path with
  | .ok url => .ok url
  | .error flaw => .error (.invalidPath (s!"{path}: " ++ flaw.message))

/-- What a request asks for: a path and its query. -/
def target (url : Url) : String :=
  url.pathText ++
    match url.query with
    | some query => "?" ++ query
    | none => ""

/-- The request for an address. -/
def request (method : Method) (url : Url) : Except FetchFault HttpRequest :=
  match url.hostText? with
  | none => .error (.invalidPath url.text)
  | some host =>
    .ok { host, port := url.port?.getD 80,
          text := method.name ++ " " ++ target url ++ " HTTP/1.1\r\nHost: " ++ host
            ++ "\r\nConnection: close\r\n\r\n" }

/-- The response to a request for an address. -/
def exchange (s : Server) (method : Method) (url : Url) : Except FetchFault Http.Response := do
  let r ← request method url
  match s.network r with
  | none => .error .io
  | some bytes => Http.readResponse method bytes

/-- All bytes at a path. -/
def fetch (s : Server) (path : String) : Except FetchFault Bytes := do
  let response ← s.exchange .get (← s.resolve path)
  if response.status = 200 then return response.body else .error (.status response.status path)

/-- Whether there is anything at a path. -/
def holds (s : Server) (path : String) : Bool :=
  match (do s.exchange .head (← s.resolve path) : Except FetchFault Http.Response) with
  | .ok response => response.status = 200
  | .error _ => false

/-- A server as a source of files. -/
def source (s : Server) : FileSource := .answering s.fetch s.holds

end Server

end GuestHost
