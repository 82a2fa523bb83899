import GuestHost.Url.Domain
import GuestHost.Url.Escape

/-!
# Hosts in addresses

A host is a domain name, an IPv4 address, which may be written in several ways, or an IPv6 address
between brackets. Each is brought to one written form. Schemes outside the web take almost any text as
a host.
-/

namespace GuestHost.Url

/-- Why a text is no address. -/
inductive Flaw
  | emptyHost
  | domainName
  | port
  | ipv4
  | ipv6
  | hostCharacter
  /-- A relative address, and nothing that it is relative to. -/
  | relative
  /-- An address relative to one that has no hierarchy. -/
  | relativeToFlat
deriving Repr, DecidableEq

/-- The wording of a flaw. -/
def Flaw.message : Flaw → String
  | .emptyHost => "empty host"
  | .domainName => "invalid international domain name"
  | .port => "invalid port number"
  | .ipv4 => "invalid IPv4 address"
  | .ipv6 => "invalid IPv6 address"
  | .hostCharacter => "invalid domain character"
  | .relative => "relative URL without a base"
  | .relativeToFlat => "relative URL with a cannot-be-a-base base"

/-! ## IPv4 -/

/-- The number in one part of an IPv4 address: hexadecimal after `0x`, octal after `0`. -/
def ipv4Number? (s : List Char) : Option Nat :=
  let read : Nat → List Char → Option Nat := fun radix digits =>
    let run := Radix.digitRun radix digits
    if run.length = digits.length then some (Radix.ofDigits radix run) else none
  match s with
  | [] => none
  | '0' :: 'x' :: rest => read 16 rest
  | '0' :: 'X' :: rest => read 16 rest
  | '0' :: c :: rest => read 8 (c :: rest)
  | digits => read 10 digits

/-- The parts of a domain name, without the empty one after a dot at its end. -/
def domainParts (s : List Char) : List (List Char) :=
  let parts := Text.split (· == '.') s
  if 1 < parts.length && parts.getLast? == some [] then parts.dropLast else parts

/-- Whether a domain name ends in a number, so that it has to be an IPv4 address. -/
def endsInNumber (s : List Char) : Bool :=
  match (domainParts s).getLast? with
  | none => false
  | some last => (!last.isEmpty && last.all Char.isDigit) || (ipv4Number? last).isSome

/-- The address that the numbers of an IPv4 address denote: the last one fills what the others
leave. -/
def ipv4OfNumbers? (numbers : List Nat) : Option Nat :=
  match numbers.reverse with
  | [] => none
  | last :: others =>
    if 3 < others.length || others.any (255 < ·) || Nat.pow 256 (4 - others.length) ≤ last then none
    else some (others.reverse.foldl (fun n byte => n * 256 + byte) 0
      * Nat.pow 256 (4 - others.length) + last)

/-- The written form of an IPv4 address. -/
def ipv4Text (n : Nat) : List Char :=
  ".".toList.intercalate
    ([n / 0x1000000, n / 0x10000 % 256, n / 0x100 % 256, n % 256].map (Radix.natDigits 10))

/-- Reads an IPv4 address. -/
def ipv4 (s : List Char) : Except Flaw (List Char) :=
  match ((domainParts s).mapM ipv4Number?).bind ipv4OfNumbers? with
  | some n => .ok (ipv4Text n)
  | none => .error .ipv4

/-! ## IPv6 -/

/-- The words in a part of an IPv6 address without a gap. The last piece may be an IPv4 address with
four decimal numbers. -/
def ipv6Words? (s : List Char) : Option (List Nat) :=
  if s.isEmpty then some []
  else
    let parts := Text.split (· == ':') s
    let word : List Char → Option Nat := fun p =>
      if p.isEmpty || 4 < p.length then none
      else (fun run => Radix.ofDigits 16 run) <$>
        some (Radix.digitRun 16 p) |>.filter fun _ => (Radix.digitRun 16 p).length = p.length
    let byte : List Char → Option Nat := fun p =>
      if p.isEmpty || !p.all Char.isDigit || (1 < p.length && p.head? == some '0') then none
      else (some (Radix.ofDigits 10 (Radix.digitRun 10 p))).filter (· < 256)
    match parts.getLast? with
    | none => none
    | some last =>
      if last.contains '.' then do
        let words ← parts.dropLast.mapM word
        match ← (Text.split (· == '.') last).mapM byte with
        | [a, b, c, d] => some (words ++ [a * 256 + b, c * 256 + d])
        | _ => none
      else parts.mapM word

/-- Splits a text at the first double colon. -/
def splitGap : List Char → List Char × Option (List Char)
  | ':' :: ':' :: rest => ([], some rest)
  | [] => ([], none)
  | c :: rest =>
    let (before, after) := splitGap rest
    (c :: before, after)

/-- The eight words of an IPv6 address; a double colon stands for at least one word of zero. -/
def ipv6? (s : List Char) : Option (List Nat) :=
  match splitGap s with
  | (text, none) => (ipv6Words? text).filter (·.length = 8)
  | (before, some after) => do
    let high ← if before.contains '.' then none else ipv6Words? before
    let low ← ipv6Words? after
    if high.length + low.length < 8 then
      some (high ++ List.replicate (8 - high.length - low.length) 0 ++ low)
    else none

/-- Length of the run of zeros at the front of a list. -/
def zeroRun (words : List Nat) : Nat := (words.takeWhile (· = 0)).length

/-- Start and length of the first longest run of zeros, if one has at least two. -/
def longestZeros (words : List Nat) : Option (Nat × Nat) :=
  let runs := (List.range words.length).map fun i => (i, zeroRun (words.drop i))
  runs.foldl (fun best run =>
    if run.2 < 2 then best
    else match best with
      | some b => if b.2 < run.2 then some run else best
      | none => some run) none

/-- The written form of an IPv6 address. -/
def ipv6Text (words : List Nat) : List Char :=
  let write : List Nat → List Char := fun ws => ":".toList.intercalate (ws.map (Radix.natDigits 16))
  match longestZeros words with
  | none => write words
  | some (start, length) =>
    write (words.take start) ++ "::".toList ++ write (words.drop (start + length))

/-- Reads an IPv6 address that starts with a bracket. -/
def ipv6 (s : List Char) : Except Flaw (List Char) :=
  match s.getLast? with
  | some ']' =>
    match ipv6? (s.drop 1).dropLast with
    | some words => .ok ('[' :: ipv6Text words ++ [']'])
    | none => .error .ipv6
  | _ => .error .ipv6

/-! ## Hosts -/

/-- The written form of a domain name that is given as UTF-8. -/
def domainName (bytes : Bytes) : Except Flaw (List Char) :=
  match Utf8.decode bytes with
  | .error _ => .error .domainName
  | .ok name => (Domain.ascii? name).elim (.error .domainName) .ok

/-- The written form of a host of a scheme of the web. -/
def webHost (s : List Char) : Except Flaw (List Char) := do
  if s.head? = some '[' then ipv6 s
  else
    let domain ← domainName (unescape s)
    if domain.isEmpty then .error .emptyHost
    else if endsInNumber domain then ipv4 domain
    else return domain

/-- The written form of a host of any other scheme. -/
def plainHost (s : List Char) : Except Flaw (List Char) :=
  if s.head? = some '[' then ipv6 s
  else if s.any fun c => c = '\x00' || c ∈ "\t\n\r #/:<>?@[\\]^|".toList then .error .hostCharacter
  else .ok (escape controls s).toList

end GuestHost.Url
