import GuestHost.Url.Host

/-!
# Addresses

Uniform resource locators: reading one, resolving a reference against one, and writing one. Reading is
lenient in the way of the web: controls and blanks around an address do not count, nor do tabs and line
breaks within, and what cannot stand in a part of an address is escaped.
-/

namespace GuestHost

/-- The path of an address. -/
inductive UrlPath
  /-- A hierarchy: each segment follows a slash. -/
  | segments (names : List String)
  /-- A text without hierarchy. -/
  | flat (text : String)
deriving Repr, DecidableEq

/-- An address, each part in its written form. -/
structure Url where
  scheme : String
  username : String
  password : String
  /-- The host; it is empty after a double slash that no host follows. -/
  host : Option String
  port : Option Nat
  path : UrlPath
  query : Option String
  fragment : Option String
deriving Repr, DecidableEq

namespace Url

/-! ## Schemes -/

/-- What a scheme says about the form of an address. -/
inductive Form
  /-- A scheme of the web: there is always a host, and a backslash is a slash. -/
  | web
  /-- Files: like the web, but the host may be missing. -/
  | file
  | general
deriving Repr, DecidableEq

/-- The form of the addresses of a scheme. -/
def form (scheme : String) : Form :=
  if scheme = "file" then .file
  else if scheme ∈ ["http", "https", "ws", "wss", "ftp"] then .web
  else .general

/-- The port that a scheme implies. -/
def defaultPort? (scheme : String) : Option Nat :=
  if scheme = "http" ∨ scheme = "ws" then some 80
  else if scheme = "https" ∨ scheme = "wss" then some 443
  else if scheme = "ftp" then some 21
  else none

/-- Whether addresses of a form use backslashes as slashes. -/
def Form.isSpecial (f : Form) : Bool := f ≠ .general

/-- Whether a character is a slash in addresses of a form. -/
def Form.isSlash (f : Form) (c : Char) : Bool := c = '/' || (f.isSpecial && c = '\\')

/-- Whether a character ends the authority of an address. -/
def Form.endsAuthority (f : Form) (c : Char) : Bool := f.isSlash c || c = '?' || c = '#'

/-- Splits off a scheme: a letter, then letters, digits and a few marks, up to a colon. -/
def splitScheme? (s : List Char) : Option (String × List Char) :=
  let isMark : Char → Bool := fun c => c.isAlphanum || c ∈ "+-.".toList
  match s with
  | [] => none
  | c :: _ =>
    match s.dropWhile isMark with
    | ':' :: rest =>
      if c.isAlpha then some (String.ofList ((s.takeWhile isMark).map Char.toLower), rest) else none
    | _ => none

/-- An address as it is given, without what does not count. -/
def significant (s : String) : List Char :=
  let blank : Char → Bool := fun c => c ≤ ' '
  let inner := ((s.toList.dropWhile blank).reverse.dropWhile blank).reverse
  inner.filter fun c => c ≠ '\t' && c ≠ '\n' && c ≠ '\r'

/-! ## Authority -/

/-- Splits a text at its last `c`. -/
def splitLast? (c : Char) (s : List Char) : Option (List Char × List Char) :=
  let after := (s.reverse.takeWhile (· ≠ c)).reverse
  if after.length = s.length then none
  else some ((s.take (s.length - after.length)).dropLast, after)

/-- Splits host and port of an authority at the first colon outside brackets. -/
def splitPort (inside : Bool) : List Char → List Char × Option (List Char)
  | [] => ([], none)
  | c :: rest =>
    if c = ':' ∧ ¬inside then ([], some rest)
    else
      let inside := if c = '[' then true else if c = ']' then false else inside
      let (host, port) := splitPort inside rest
      (c :: host, port)

/-- The port of an authority; one that the scheme implies is left out. -/
def readPort (scheme : String) (digits : List Char) : Except Flaw (Option Nat) :=
  if digits.isEmpty then .ok none
  else if digits.all Char.isDigit then
    let n := Radix.ofDigits 10 (Radix.digitRun 10 digits)
    if n < 65536 then .ok (if defaultPort? scheme = some n then none else some n)
    else .error .port
  else .error .port

/-- The user name and the password that a text in front of a host gives. -/
def userParts (user : List Char) : String × String :=
  let name := user.takeWhile (· ≠ ':')
  (escape userinfoSet name, escape userinfoSet (user.drop (name.length + 1)))

/-- Reads the host of an address that is not a file's. -/
def readHost (scheme : String) (text : List Char) : Except Flaw (List Char) :=
  match form scheme with
  | .general => plainHost text
  | _ => if text.isEmpty then .error .emptyHost else webHost text

/-- Reads what stands between a double slash and the path: an address without path, and the text behind
the port that belongs to the path already, since a backslash ends a port in any case. `more` tells that
something follows. Where a host is missing there must be neither a port nor a user. -/
def readAuthority (scheme : String) (authority : List Char) (more : Bool) :
    Except Flaw (Url × List Char) := do
  let user? := (splitLast? '@' authority).map Prod.fst
  let rest := ((splitLast? '@' authority).map Prod.snd).getD authority
  let (username, password) := userParts (user?.getD [])
  if more && rest.isEmpty && user? = some [] then .error .emptyHost
  else
    let (hostText, port?) := splitPort false rest
    let host ← readHost scheme hostText
    let digits := (port?.getD []).takeWhile (· ≠ '\\')
    if host.isEmpty && (port?.isSome || username ≠ "" || password ≠ "") then .error .emptyHost
    else
      let port ← readPort scheme digits
      return ({ scheme, username, password, host := some (String.ofList host), port,
                path := .segments [], query := none, fragment := none },
              (port?.getD []).drop digits.length)

/-- Reads the host of a file's address. A drive letter is no host, and neither is `localhost`. -/
def readFileHost (text : List Char) : Except Flaw String := do
  if text.isEmpty then return ""
  let host ← webHost text
  return if host = "localhost".toList then "" else String.ofList host

/-! ## Path -/

/-- Whether a segment stands for the one above, written with or without escapes. -/
def isParent (s : List Char) : Bool :=
  String.ofList (s.map Char.toLower) ∈ ["..", "%2e%2e", "%2e.", ".%2e"]

/-- Whether a segment stands for the one it is in. -/
def isHere (s : List Char) : Bool := String.ofList (s.map Char.toLower) ∈ [".", "%2e"]

/-- Whether a text is a drive letter. -/
def isDrive : List Char → Bool
  | [c, d] => c.isAlpha && (d = ':' || d = '|')
  | _ => false

/-- Whether a segment is a drive letter, or starts with one and a backslash. -/
def startsWithDrive (segment : String) : Bool :=
  isDrive (segment.toList.take 2) && (segment.toList.drop 2).head?.all (· = '\\')

/-- Removes the last segment of a path; one that starts with a drive letter stays. -/
def shorten (names : List String) : List String :=
  if names.getLast?.any startsWithDrive then names else names.dropLast

/-- Adds a segment to a path; `last` tells that no slash follows it. At the start of a file's path a
drive letter gets a colon. -/
def addSegment (f : Form) (names : List String) (segment : List Char) (last : Bool) :
    List String :=
  if isParent segment then shorten names ++ (if last then [""] else [])
  else if isHere segment then names ++ (if last then [""] else [])
  else if f = .file ∧ names = [] ∧ isDrive segment then
    [String.ofList (segment.take 1 ++ [':'])]
  else names ++ [escape pathSet segment]

/-- Adds the segments of a text to a path, one after the other. -/
def addSegments (f : Form) (names : List String) : List (List Char) → List String
  | [] => names
  | [segment] => addSegment f names segment true
  | segment :: rest => addSegments f (addSegment f names segment false) rest

/-- The path that a text continues. -/
def readPath (f : Form) (names : List String) (text : List Char) : List String :=
  addSegments f names (Text.split f.isSlash text)

/-- The path that follows an authority. -/
def pathAfterAuthority (f : Form) (text : List Char) : List String :=
  match text with
  | [] => if f.isSpecial then [""] else []
  | c :: rest => readPath f [] (if f.isSlash c then rest else text)

/-- The path of a file, which does not begin with empty segments. -/
def filePath (names : List String) : UrlPath :=
  let kept := names.dropWhile (· = "")
  .segments (if kept.isEmpty then [""] else kept)

/-! ## Reading -/

/-- Splits a text into path, query and fragment. -/
def splitParts (s : List Char) : List Char × Option (List Char) × Option (List Char) :=
  let path := s.takeWhile fun c => c ≠ '?' && c ≠ '#'
  match s.drop path.length with
  | '?' :: rest =>
    let query := rest.takeWhile (· ≠ '#')
    let fragment := match rest.drop query.length with
      | '#' :: rest => some rest
      | _ => none
    (path, some query, fragment)
  | '#' :: rest => (path, none, some rest)
  | _ => (path, none, none)

/-- Gives an address the query and the fragment of a text. -/
def withParts (u : Url) (query fragment : Option (List Char)) : Url :=
  { u with
    query := query.map (escape (querySet (form u.scheme).isSpecial))
    fragment := fragment.map (escape fragmentSet) }

/-- Reads the part of an address after a double slash. -/
def readAfterSlashes (scheme : String) (s : List Char) : Except Flaw Url := do
  let f := form scheme
  let authority := s.takeWhile fun c => !f.endsAuthority c
  let behind := s.drop authority.length
  let (path, query, fragment) := splitParts behind
  let (u, start) ← readAuthority scheme authority !behind.isEmpty
  return withParts { u with path := .segments (pathAfterAuthority f (start ++ path)) } query fragment

/-- An address without authority. -/
def hostless (scheme : String) (path : UrlPath) : Url :=
  { scheme, username := "", password := "", host := none, port := none, path,
    query := none, fragment := none }

/-- Reads the part of a file's address after its scheme. A path that starts with a drive letter leaves
no room for a host; without a host the slash before the path counts as an empty segment. -/
def readFile (s : List Char) : Except Flaw Url := do
  let f := Form.file
  let (head, query, fragment) := splitParts s
  let slashes := head.takeWhile f.isSlash
  let base := { hostless "file" (.segments []) with host := some "" }
  if 2 ≤ slashes.length then
    let text := head.drop 2
    let hostText := text.takeWhile fun c => !f.isSlash c
    if isDrive hostText then
      return withParts { base with path := filePath (readPath f [] text) } query fragment
    else
      let host ← readFileHost hostText
      let behind := text.drop hostText.length
      let names := if host.isEmpty then readPath f [] behind else pathAfterAuthority f behind
      let host := if names.head?.any fun name => isDrive name.toList then "" else host
      return withParts { base with host := some host, path := filePath names } query fragment
  else
    return withParts { base with path := filePath (readPath f [] (head.drop slashes.length)) }
      query fragment

/-- Reads the part of an address after a scheme outside the web. -/
def readGeneral (scheme : String) (s : List Char) : Except Flaw Url :=
  match s with
  | '/' :: '/' :: rest => readAfterSlashes scheme rest
  | '/' :: rest =>
    let (path, query, fragment) := splitParts rest
    .ok (withParts (hostless scheme (.segments (readPath .general [] path))) query fragment)
  | s =>
    let (path, query, fragment) := splitParts s
    .ok (withParts (hostless scheme (.flat (escape controls path))) query fragment)

/-- Reads the part of an address after its scheme. -/
def readAfterScheme (scheme : String) (s : List Char) : Except Flaw Url :=
  match form scheme with
  | .file => readFile s
  | .web => readAfterSlashes scheme (s.dropWhile Form.web.isSlash)
  | .general => readGeneral scheme s

/-- Reads an address. -/
def parse (s : String) : Except Flaw Url :=
  match splitScheme? (significant s) with
  | some (scheme, rest) => readAfterScheme scheme rest
  | none => .error .relative

/-! ## References -/

/-- Resolves a reference without scheme against an address that has a hierarchy. -/
def resolve (base : Url) (names : List String) (s : List Char) : Except Flaw Url :=
  let f := form base.scheme
  let slashes := s.takeWhile f.isSlash
  let bare := { base with fragment := none }
  if 2 ≤ slashes.length then
    readAfterSlashes base.scheme
      (if "//".toList.isPrefixOf s then s.drop 2 else s.drop slashes.length)
  else
    let (path, query, fragment) := splitParts s
    if slashes.length = 1 then
      .ok (withParts { bare with path := .segments (readPath f [] (path.drop 1)) } query fragment)
    else if path.isEmpty then
      if query.isSome then .ok (withParts bare query fragment)
      else .ok { bare with fragment := fragment.map (escape fragmentSet) }
    else
      .ok (withParts { bare with path := .segments (readPath f names.dropLast path) } query fragment)

/-- Resolves a reference against an address. A reference with a scheme stands for itself, unless the
scheme is that of a web address and no double slash follows. -/
def join (base : Url) (reference : String) : Except Flaw Url :=
  let s := significant reference
  match splitScheme? s, base.path with
  | some (scheme, rest), .segments names =>
    let relative := form scheme = .web ∧ scheme = base.scheme ∧
      (rest.takeWhile Form.web.isSlash).length < 2
    if relative then resolve base names rest else readAfterScheme scheme rest
  | some (scheme, rest), .flat _ => readAfterScheme scheme rest
  | none, .segments names => resolve base names s
  | none, .flat _ =>
    match s with
    | '#' :: fragment => .ok { base with fragment := some (escape fragmentSet fragment) }
    | _ => .error .relativeToFlat

/-! ## Writing -/

/-- The written form of a path. -/
def pathText (u : Url) : String :=
  match u.path with
  | .flat text => text
  | .segments names => String.join (names.map fun name => "/" ++ name)

/-- The written form of the part between double slash and path. -/
def authorityText (u : Url) (host : String) : String :=
  let password := if u.password.isEmpty then "" else ":" ++ u.password
  let user := u.username ++ password
  let port := match u.port with
    | some n => ":" ++ toString n
    | none => ""
  (if user.isEmpty then "" else user ++ "@") ++ host ++ port

/-- The written form of an address. -/
def text (u : Url) : String :=
  let before := match u.host with
    | some host => "//" ++ u.authorityText host
    | none => ""
  let query := match u.query with
    | some q => "?" ++ q
    | none => ""
  let fragment := match u.fragment with
    | some f => "#" ++ f
    | none => ""
  u.scheme ++ ":" ++ before ++ u.pathText ++ query ++ fragment

/-- The host of an address that has one. -/
def hostText? (u : Url) : Option String := u.host.filter (!·.isEmpty)

/-- The port of an address, which its scheme may imply. -/
def port? (u : Url) : Option Nat := u.port <|> defaultPort? u.scheme

end Url

end GuestHost
