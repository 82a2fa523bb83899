import GuestHost.Text.Utf8

/-!
# The console

Bytes written to a console stream are collected up to the next line feed; a completed line is decoded,
freed of one carriage return at its end, and emitted.
-/

namespace GuestHost

/-- The two streams of the console. -/
inductive ConsoleStream
  | stdout
  | stderr
deriving Repr, DecidableEq

/-- A line that the console received. -/
structure ConsoleLine where
  stream : ConsoleStream
  text : String
deriving Repr, DecidableEq

namespace Console

/-- A text without one carriage return at its end. -/
def dropReturn (s : List Char) : List Char :=
  match s.reverse with
  | '\r' :: rest => rest.reverse
  | _ => s

/-- The text of a line's bytes. -/
def lineText (line : Bytes) : String := String.ofList (dropReturn (Utf8.decodeLossy line))

/-- The pieces into which line feeds cut a byte sequence: the first, and those after it. -/
def segments : Bytes → Bytes × List Bytes
  | [] => ([], [])
  | b :: rest =>
    let (first, others) := segments rest
    if b = 10 then ([], first :: others) else (b :: first, others)

/-- Feeds bytes to a line that is `pending`: the lines completed, and what is pending then. -/
def feed (pending bytes : Bytes) : List Bytes × Bytes :=
  let (first, others) := segments bytes
  let pieces := (pending ++ first) :: others
  (pieces.dropLast, pieces.getLast (by simp [pieces]))

/-- Takes what is pending as a line, if it is anything. -/
def flush (pending : Bytes) : List Bytes := if pending.isEmpty then [] else [pending]

end Console

/-- A line of the log: its level, its target and its text. -/
structure LogRecord where
  level : String
  target : String
  text : String
deriving Repr, DecidableEq

/-- The log targets of the two console streams. -/
structure ConsoleTargets where
  stdout : String
  stderr : String
deriving Repr, DecidableEq

/-- The targets used when none are configured. -/
def ConsoleTargets.default : ConsoleTargets := ⟨"guest::stdout", "guest::stderr"⟩

/-- A console line as a line of the log: output is information, errors are warnings. -/
def ConsoleTargets.record (targets : ConsoleTargets) (line : ConsoleLine) : LogRecord :=
  match line.stream with
  | .stdout => ⟨"INFO", targets.stdout, line.text⟩
  | .stderr => ⟨"WARN", targets.stderr, line.text⟩

end GuestHost
