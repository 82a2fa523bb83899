import GuestHost.Decimal.CubeRoot
import GuestHost.Decimal.Reading
import GuestHost.Decimal.Shortest
import GuestHost.Natives.Text

/-!
# Natives on numbers

Numbers as text and back, and mathematics. A text without digits reads as zero, a text that denotes no
floating-point number as one that is no number.
-/

namespace GuestHost.NumberNative

open GuestHost.Action (ofResult)
open Decimal (Format)

/-- The integer that the first argument denotes in a radix. -/
def parse (args : List Value) (radix : Int32) : Action Int64 := do
  let s ← Args.text args 0
  return (Radix.parsePrefix? s (Radix.effective radix)).getD 0

/-- An integer in a radix, as a string. -/
def format (value : Int) (radix : Int32) : Action Value :=
  TextNative.newText (Radix.format value (Radix.effective radix))

/-- What a native on numbers does. -/
def run (native : NumberNative) (args : List Value) : Action Value :=
  match native with
  | .floatBits => do return .int (← ofResult (Args.float args 0)).toInt32
  | .isNaNFloat => do
    return .ofBool (Format.binary32.isNaN (← ofResult (Args.float args 0)).toNat)
  | .isNaNDouble => do
    return .ofBool (Format.binary64.isNaN (← ofResult (Args.double args 0)).toNat)
  | .isInfiniteFloat => do
    return .ofBool (Format.binary32.isInfinite (← ofResult (Args.float args 0)).toNat)
  | .floatToString => do
    TextNative.newText (Format.binary32.text (← ofResult (Args.float args 0)).toNat)
  | .doubleToString => do
    TextNative.newText (Format.binary64.text (← ofResult (Args.double args 0)).toNat)
  | .intToString => do
    let value ← ofResult (Args.int args 0)
    let radix ← ofResult (Args.int args 1)
    format value.toInt radix
  | .intToHexString => do
    let value ← ofResult (Args.int args 0)
    TextNative.newText (Radix.natDigits 16 value.toUInt32.toNat)
  | .longToString => do
    let value ← ofResult (Args.long args 0)
    let radix ← ofResult (Args.int args 1)
    format value.toInt radix
  | .parseFloat => do
    return .float (Decimal.narrow (Decimal.parsePrefix (← Args.text args 0)))
  | .parseDouble => do return .double (Decimal.parsePrefix (← Args.text args 0))
  | .parseByte => do return .int (← parse args 10).toInt8.toInt32
  | .parseShort => do
    let radix ← ofResult (Args.int args 1)
    return .int (← parse args radix).toInt16.toInt32
  | .parseInt => do
    let radix ← ofResult (Args.int args 1)
    return .int (← parse args radix).toInt32
  | .parseLong => do
    let radix ← ofResult (Args.int args 1)
    return .long (← parse args radix)

end GuestHost.NumberNative

namespace GuestHost.MathNative

open GuestHost.Action (ofResult)
open Decimal (Format)

/-- A function of doubles, on their bits. -/
def onDouble (f : Float → Float) (bits : UInt64) : UInt64 := (f (Float.ofBits bits)).toBits

/-- The number of radians in a degree. -/
def radiansPerDegree : Float := Float.ofBits 0x400921FB54442D18 / 180.0

/-- The lesser of two floats; none is lesser than what is no number. -/
def lesserFloat (a b : UInt32) : UInt32 :=
  let f := Format.binary32
  if f.isNaN a.toNat || f.isNaN b.toNat then UInt32.ofNat f.notANumber
  else UInt32.ofNat (f.min a.toNat b.toNat)

/-- The next random number: the first 53 of the random bits behind the point, so it is at least zero and
less than one. -/
def nextRandom : Action Value :=
  modifyGet fun (h : Host) =>
    let (bits, seed) := h.surroundings.random h.surroundings.seed
    let f := Format.binary64
    (.double (UInt64.ofNat (f.round false (bits >>> 11).toNat (Nat.pow 2 53))),
      { h with surroundings := { h.surroundings with seed } })

/-- A whole number next to a double. -/
def wholeDouble (up : Bool) (args : List Value) : Action Value := do
  let bits ← ofResult (Args.double args 0)
  return .double (UInt64.ofNat (Format.binary64.toWhole up bits.toNat))

/-- A whole number next to a float. -/
def wholeFloat (up : Bool) (args : List Value) : Action Value := do
  let bits ← ofResult (Args.float args 0)
  return .float (UInt32.ofNat (Format.binary32.toWhole up bits.toNat))

/-- A function of the double that is the first argument. -/
def double (f : Float → Float) (args : List Value) : Action Value := do
  return .double (onDouble f (← ofResult (Args.double args 0)))

/-- What a native that computes does. -/
def run (native : MathNative) (args : List Value) : Action Value :=
  match native with
  | .minInt => do
    let a ← ofResult (Args.int args 0)
    let b ← ofResult (Args.int args 1)
    return .int (if b < a then b else a)
  | .maxInt => do
    let a ← ofResult (Args.int args 0)
    let b ← ofResult (Args.int args 1)
    return .int (if a < b then b else a)
  | .minFloat => do
    let a ← ofResult (Args.float args 0)
    let b ← ofResult (Args.float args 1)
    return .float (lesserFloat a b)
  | .floorDouble => wholeDouble false args
  | .floorFloat => wholeFloat false args
  | .ceilDouble => wholeDouble true args
  | .ceilFloat => wholeFloat true args
  | .toRadians => double (· * radiansPerDegree) args
  | .cosine => double Float.cos args
  | .sine => double Float.sin args
  | .squareRoot => double Float.sqrt args
  | .cubeRoot => do
    let bits ← ofResult (Args.double args 0)
    return .double (UInt64.ofNat (Format.binary64.cubeRoot bits.toNat))
  | .logarithm => double Float.log args
  | .random => nextRandom

end GuestHost.MathNative
