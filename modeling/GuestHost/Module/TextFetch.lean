import GuestHost.Fault
import GuestHost.Text.Utf8

/-!
# Fetching a text from a module

A module hands out a text by filling a buffer that the host offers and reporting the text's size; a
negative size stands for a handle that is no text. The host starts with an empty buffer and offers one
of the reported size until a report fits. Nothing is assumed about the module: each of its answers is
an arbitrary function of the number of the call and of the buffer offered.
-/

namespace GuestHost.TextFetch

/-- A module as it answers the calls of one fetch: the size it reports for the buffer offered, and
what it leaves in that buffer. -/
abbrev Responder := Nat → Bytes → Int × Bytes

/-- What one call leads to. -/
inductive Step
  /-- The handle is no text. -/
  | dead
  /-- The bytes of the text. -/
  | fits (bytes : Bytes)
  /-- A larger buffer to offer next. -/
  | grow (buffer : Bytes)

/-- One call, with the buffer it offers. -/
def step (respond : Responder) (call : Nat) (buffer : Bytes) : Step :=
  let (size, filled) := respond call buffer
  if size < 0 then .dead
  else
    let n := size.toNat
    if n ≤ buffer.length then .fits (filled.take n)
    else .grow (filled ++ List.replicate (n - buffer.length) 0)

/-- Calls until a report fits, at most `calls` times: `none` if none did. -/
def run (respond : Responder) (calls : Nat) (call : Nat) (buffer : Bytes) :
    Option (Option Bytes) :=
  match calls with
  | 0 => none
  | n + 1 =>
    match step respond call buffer with
    | .dead => some none
    | .fits bytes => some (some bytes)
    | .grow larger => run respond n (call + 1) larger

/-- The text that fetched bytes are. -/
def textOf (handle : UInt32) : Option Bytes → Except Fault String
  | none => .error (.reference (.handle handle "text"))
  | some bytes =>
    match Utf8.decode bytes with
    | .ok cs => .ok (String.ofList cs)
    | .error flaw => .error (.inModule (.text flaw))

/-- Fetches a text in at most `calls` calls. -/
def fetch? (respond : Responder) (calls : Nat) (handle : UInt32) : Option (Except Fault String) :=
  (run respond calls 0 []).map (textOf handle)

/-- A module that holds a text, or nothing, and fills as much of the buffer as the text needs. -/
def holding (contents : Option Bytes) : Responder := fun _ buffer =>
  match contents with
  | none => (-1, buffer)
  | some bytes =>
    (bytes.length, bytes.take buffer.length ++ buffer.drop bytes.length)

end GuestHost.TextFetch
