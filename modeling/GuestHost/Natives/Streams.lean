import GuestHost.Natives.Arguments

/-!
# Natives of file streams

A stream holds a file number in its descriptor. Failures of a file are the answer -1; a fault means
that an argument is not of the kind that the native needs.
-/

namespace GuestHost.StreamNative

open GuestHost.Action (ofResult onFiles)

/-- The file number of the stream that is the first argument. -/
def number (args : List Value) : Action Int32 := do
  Action.descriptor (← ofResult (Args.get args 0))

/-- Opens a path and gives its number to the stream. -/
def runOpen (args : List Value) : Action Value := do
  let stream ← ofResult (Args.get args 0)
  let path ← Action.text (← ofResult (Args.get args 1))
  let n ← Action.openFile path
  if 0 ≤ n then Action.setDescriptor stream n
  return .int n

/-- An amount to skip: a long, or an int. -/
def amount (args : List Value) : Except Fault Int64 :=
  match Args.long args 1 with
  | .ok n => .ok n
  | .error _ => (Args.int args 1).map Int32.toInt64

/-- The window of the array that is the second argument, given by the two ints that follow it. -/
def window (args : List Value) : Action (Value × Nat × Nat) := do
  let array ← ofResult (Args.get args 1)
  let offset ← ofResult (Args.int args 2)
  let count ← ofResult (Args.int args 3)
  let length ← Action.arrayLength array
  let (start, n) ← ofResult (Args.range offset count length)
  return (array, start, n)

/-- Reads bytes into a window of an array. -/
def runReadBytes (args : List Value) : Action Value := do
  let n ← number args
  let (array, start, length) ← window args
  if length = 0 then return .int 0
  let (count, bytes) ← onFiles fun t =>
    let (count, bytes, t') := t.readBytes n length
    ((count, bytes), t')
  Action.arrayFill array start (bytes.map Value.ofByte)
  return .int count

/-- Closes the reading of a stream and takes its number from it. -/
def runClose (args : List Value) : Action Value := do
  let stream ← ofResult (Args.get args 0)
  let n ← Action.descriptor stream
  if 0 ≤ n then
    let _ ← onFiles fun t => t.release n
    Action.setDescriptor stream (-1)
  return .null

/-- Writes the low bytes of a window of an array. -/
def runWriteBytes (args : List Value) : Action Value := do
  let n ← number args
  let (array, start, length) ← window args
  let values ← Action.arrayValues array
  let ints ← ofResult (Args.ints ((values.drop start).take length))
  let _ ← onFiles fun t => t.write n (ints.map fun i => i.toUInt32.toUInt8)
  return .null

/-- Writes the low byte of an int. -/
def runWriteByte (args : List Value) : Action Value := do
  let n ← number args
  let i ← ofResult (Args.int args 1)
  let _ ← onFiles fun t => t.write n [i.toUInt32.toUInt8]
  return .null

/-- What a native of file streams does. -/
def run (native : StreamNative) (args : List Value) : Action Value :=
  match native with
  | .openFile => runOpen args
  | .skip => do
    let n ← number args
    let amount ← ofResult (amount args)
    return .long (← onFiles fun t => t.skip n amount)
  | .available => do
    let n ← number args
    return .int ((← get).files.available n)
  | .read => do
    let n ← number args
    return .int (← onFiles fun t => t.readByte n)
  | .readBytes => runReadBytes args
  | .close => runClose args
  | .writeBytes => runWriteBytes args
  | .writeByte => runWriteByte args
  | .attributes => do
    let path ← Action.text (← ofResult (Args.get args 1))
    return .ofBool (← Action.fileExists path)

end GuestHost.StreamNative
