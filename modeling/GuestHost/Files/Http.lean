import GuestHost.Files.Source
import GuestHost.Text.Letters
import GuestHost.Text.Quoted
import GuestHost.Text.Scalars

/-!
# Responses of a server

A response is a status line, header lines up to an empty one, and a body. The body is framed by chunks,
by an announced length, or by the end of the connection; chunks count before a length. A response is
read from all the bytes that the server sent before it closed the connection.
-/

namespace GuestHost.Http

/-- A result, or a fault of the fetch. -/
abbrev Result := Except FetchFault

/-! ## Lines -/

/-- Splits off the first line, with its line feed. -/
def splitLine : Bytes → Bytes × Bytes
  | [] => ([], [])
  | b :: rest =>
    if b = 10 then ([b], rest)
    else
      let (line, rest') := splitLine rest
      (b :: line, rest')

/-- What is left after the first line is shorter, unless there was nothing. -/
theorem length_splitLine_snd_lt {bs : Bytes} (h : bs ≠ []) :
    (splitLine bs).2.length < bs.length := by
  induction bs with
  | nil => exact absurd rfl h
  | cons b rest ih =>
    rw [splitLine]
    split
    · simp
    · by_cases hr : rest = []
      · subst hr
        simp [splitLine]
      · exact Nat.lt_succ_of_lt (ih hr)

theorem length_splitLine_snd_le (bs : Bytes) : (splitLine bs).2.length ≤ bs.length := by
  by_cases h : bs = []
  · subst h
    simp [splitLine]
  · exact Nat.le_of_lt (length_splitLine_snd_lt h)

/-- The text of a line without the white space at its ends; a line must be UTF-8. -/
def lineText (line : Bytes) : Result (List Char) :=
  match Utf8.decode line with
  | .ok cs => .ok (Text.trim cs)
  | .error _ => .error .io

/-! ## The head -/

/-- The first word of a text and what follows the space after it. -/
def splitSpace (s : List Char) : List Char × Option (List Char) :=
  let word := s.takeWhile (· ≠ ' ')
  match s.drop word.length with
  | [] => (word, none)
  | _ :: rest => (word, some rest)

/-- The status in a status line: the version, a space, and a code of at most 16 bits. -/
def readStatus (line : List Char) : Result Nat :=
  match splitSpace line with
  | (version, some rest) =>
    if "HTTP/".toList.isPrefixOf version then
      let code := (splitSpace rest).1
      match Radix.wordOf? 16 10 code with
      | some n => .ok n
      | none => .error (.protocol ("invalid status code " ++ Text.quoted code))
    else .error (.protocol ("invalid status line " ++ Text.quoted line))
  | (_, none) => .error (.protocol ("invalid status line " ++ Text.quoted line))

/-- How the body of a response is framed, as far as its headers say. -/
structure Framing where
  length : Option Nat
  chunked : Bool
deriving Repr, DecidableEq

/-- Nothing is said. -/
def Framing.unknown : Framing := ⟨none, false⟩

/-- Takes a header line into account. The last announced length counts, and one that cannot be read
takes back those before it. -/
def Framing.header (f : Framing) (line : List Char) : Framing :=
  let key := line.takeWhile (· ≠ ':')
  match line.drop key.length with
  | [] => f
  | _ :: rest =>
    let name := Text.toLower (Text.trim key)
    let value := Text.trim rest
    if name = "content-length".toList then { f with length := Radix.wordOf? 64 10 value }
    else if name = "transfer-encoding".toList then
      { f with chunked := f.chunked || (Text.find? "chunked".toList (Text.toLower value)).isSome }
    else f

/-- Reads header lines up to an empty one, or to the end: the framing and the bytes after it. -/
def readHeaders (f : Framing) (bs : Bytes) : Result (Framing × Bytes) :=
  if _h : bs = [] then .ok (f, [])
  else
    match lineText (splitLine bs).1 with
    | .error fault => .error fault
    | .ok line =>
      if line.isEmpty then .ok (f, (splitLine bs).2)
      else readHeaders (f.header line) (splitLine bs).2
termination_by bs.length
decreasing_by exact length_splitLine_snd_lt _h

/-! ## The body -/

/-- Splits off exactly `n` bytes. -/
def splitExact (n : Nat) (bs : Bytes) : Result (Bytes × Bytes) :=
  if n ≤ bs.length then .ok (bs.take n, bs.drop n) else .error .io

/-- The size in the line that starts a chunk: hexadecimal digits up to a semicolon. -/
def chunkSize (line : List Char) : Result Nat :=
  let digits := line.takeWhile (· ≠ ';')
  match Radix.wordOf? 64 16 digits with
  | some n => .ok n
  | none => .error (.protocol ("invalid chunk size " ++ Text.quoted digits))

/-- Reads the line that starts a chunk: its size and the bytes after it. -/
def readSize (bs : Bytes) : Result (Nat × Bytes) :=
  match (lineText (splitLine bs).1).bind chunkSize with
  | .error fault => .error fault
  | .ok size => .ok (size, (splitLine bs).2)

/-- Reads the bytes of a chunk and the line that ends it: the bytes, and those after the line. -/
def readPayload (size : Nat) (bs : Bytes) : Result (Bytes × Bytes) :=
  match splitExact size bs with
  | .error fault => .error fault
  | .ok (payload, rest) =>
    match lineText (splitLine rest).1 with
    | .error fault => .error fault
    | .ok _ => .ok (payload, (splitLine rest).2)

theorem readSize_nil : readSize [] = .error (.protocol "invalid chunk size \"\"") := by
  simp [readSize, splitLine, lineText, Utf8.decode, Utf8.decodeFrom, Utf8.front, Text.trim,
    Text.trimStart, Text.trimEnd, Except.bind, chunkSize, Radix.wordOf?, Radix.natOf?, Text.quoted]

theorem length_lt_of_readSize {bs rest : Bytes} {n : Nat} (h : readSize bs = .ok (n, rest)) :
    rest.length < bs.length := by
  by_cases hbs : bs = []
  · subst hbs
    rw [readSize_nil] at h
    cases h
  · unfold readSize at h
    split at h
    · cases h
    · cases h
      exact length_splitLine_snd_lt hbs

theorem length_le_of_splitExact {bs taken rest : Bytes} {n : Nat}
    (h : splitExact n bs = .ok (taken, rest)) : rest.length ≤ bs.length := by
  unfold splitExact at h
  split at h
  · cases h
    simp
  · cases h

theorem length_le_of_readPayload {bs payload rest : Bytes} {n : Nat}
    (h : readPayload n bs = .ok (payload, rest)) : rest.length ≤ bs.length := by
  unfold readPayload at h
  split at h
  · cases h
  · rename_i hs
    split at h
    · cases h
    · cases h
      exact Nat.le_trans (length_splitLine_snd_le _) (length_le_of_splitExact hs)

/-- Reads chunks up to one of no bytes: all their bytes. -/
def readChunks (bs : Bytes) : Result Bytes :=
  match _hs : readSize bs with
  | .error fault => .error fault
  | .ok (size, rest) =>
    if size = 0 then .ok []
    else
      match _hp : readPayload size rest with
      | .error fault => .error fault
      | .ok (payload, rest') =>
        match readChunks rest' with
        | .error fault => .error fault
        | .ok more => .ok (payload ++ more)
termination_by bs.length
decreasing_by
  exact Nat.lt_of_le_of_lt (length_le_of_readPayload _hp) (length_lt_of_readSize _hs)

/-- Reads a body by its framing; one that nothing is said about goes on to the end. -/
def readBody (f : Framing) (bs : Bytes) : Result Bytes :=
  if f.chunked then readChunks bs
  else
    match f.length with
    | some n => (splitExact n bs).map (·.1)
    | none => .ok bs

/-! ## Responses -/

/-- What is asked for. -/
inductive Method
  /-- The bytes at a path. -/
  | get
  /-- Whether there is anything at a path. -/
  | head
deriving Repr, DecidableEq

/-- The name of a method. -/
def Method.name : Method → String
  | .get => "GET"
  | .head => "HEAD"

/-- A response. -/
structure Response where
  status : Nat
  body : Bytes
deriving Repr, DecidableEq

/-- Reads a response to a request; one that asks whether there is anything has no body. -/
def readResponse (method : Method) (bs : Bytes) : Result Response := do
  let status ← readStatus (← lineText (splitLine bs).1)
  let (framing, rest) ← readHeaders .unknown (splitLine bs).2
  match method with
  | .head => return ⟨status, []⟩
  | .get => return ⟨status, ← readBody framing rest⟩

end GuestHost.Http
