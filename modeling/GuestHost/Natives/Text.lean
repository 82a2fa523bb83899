import GuestHost.Natives.Arguments
import GuestHost.Text.Letters
import GuestHost.Text.Radix

/-!
# Natives on texts

Strings and string builders are texts of scalar values; every index and length counts scalar values.
-/

namespace GuestHost.TextNative

open GuestHost.Action (ofResult fail newString setText)

/-- The text of characters `offset` to `offset + count` of a character array. -/
def charsOfArray (array : Value) (offset count : Int32) : Action (List Char) := do
  let values ← Action.arrayValues array
  let (start, n) ← ofResult (Args.range offset count values.length)
  return Text.ofScalars (((values.drop start).take n).map fun v => v.toInt?.getD 0)

/-- A string of scalar values. -/
def newText (cs : List Char) : Action Value := newString (String.ofList cs)

/-- Replaces a text by scalar values. -/
def replace (v : Value) (cs : List Char) : Action Unit := setText v (String.ofList cs)

/-- The character at an index. -/
def runCharAt (args : List Value) : Action Value := do
  let s ← Args.text args 0
  let i ← ofResult (Args.index args 1)
  match s[i]? with
  | some c => return .ofChar c
  | none => fail (.argument (.index i s.length))

/-- Copies the characters from one index to another into an array. -/
def runGetChars (args : List Value) : Action Value := do
  let s ← Args.text args 0
  let first ← ofResult (Args.int args 1)
  let last ← ofResult (Args.int args 2)
  let dst ← ofResult (Args.get args 3)
  let place ← ofResult (Args.index args 4)
  let (start, n) ← ofResult (Args.range first (last - first) s.length)
  Action.arrayFill dst place (((s.drop start).take n).map Value.ofChar)
  return .null

/-- A count of scalar values, or -1. -/
def indexValue (s : List Char) (offset : Option Nat) : Value :=
  .int ((offset.map fun n => Int32.ofNat (Text.scalarIndex s n)).getD (-1))

/-- The index of the first occurrence of a character. -/
def runIndexOf (args : List Value) : Action Value := do
  let s ← Args.text args 0
  let needle ← ofResult (Args.int args 1)
  return indexValue s ((Text.scalar? needle).bind fun c => Text.find? [c] s)

/-- The index of the last occurrence of a text. -/
def runLastIndexOf (args : List Value) : Action Value := do
  let s ← Args.text args 0
  let needle ← Args.text args 1
  return indexValue s (Text.findLast? needle s)

/-- Several copies of a text. -/
def runReplicate (args : List Value) : Action Value := do
  let s ← Args.text args 0
  let n ← ofResult (Args.int args 1)
  let n ← ofResult (Args.natOf n .negativeRepeat)
  newText (Text.repeated n s)

/-- Whether two texts are equal; nothing equals null. -/
def runEquals (args : List Value) : Action Value := do
  let other ← ofResult (Args.get args 1)
  if other.isNull then return .ofBool false
  let s ← Args.text args 0
  return .ofBool (s == (← Action.text other).toList)

/-- Whether two texts have the same uppercase form; null equals nothing. -/
def runEqualsIgnoringCase (args : List Value) : Action Value := do
  let a ← ofResult (Args.get args 0)
  let b ← ofResult (Args.get args 1)
  if a.isNull || b.isNull then return .ofBool false
  let s := (← Action.text a).toList
  let t := (← Action.text b).toList
  return .ofBool (Text.toUpper s == Text.toUpper t)

/-- The characters of an array argument between the two ints that follow it. -/
def charsArgument (args : List Value) : Action (List Char) := do
  let array ← ofResult (Args.get args 1)
  let offset ← ofResult (Args.int args 2)
  let count ← ofResult (Args.int args 3)
  charsOfArray array offset count

/-- Sets a text to characters of an array. -/
def runInitializeFromChars (args : List Value) : Action Value := do
  let cs ← charsArgument args
  replace (← ofResult (Args.get args 0)) cs
  return .null

/-- Sets a text to another one. -/
def runInitializeFromString (args : List Value) : Action Value := do
  let s ← Args.text args 1
  replace (← ofResult (Args.get args 0)) s
  return .null

/-- Adds a text to the end of another; null is added as a word. -/
def runAppend (args : List Value) : Action Value := do
  let target ← ofResult (Args.get args 0)
  let added ← ofResult (Args.get args 1)
  let s := (← Action.text target).toList
  let t ← if added.isNull then pure "null".toList else do pure (← Action.text added).toList
  replace target (s ++ t)
  return target

/-- Adds characters of an array to the end of a text. -/
def runAppendChars (args : List Value) : Action Value := do
  let target ← ofResult (Args.get args 0)
  let added ← charsArgument args
  let s := (← Action.text target).toList
  replace target (s ++ added)
  return target

/-- Cuts or pads a text to a length. -/
def runSetLength (args : List Value) : Action Value := do
  let target ← ofResult (Args.get args 0)
  let n ← ofResult (Args.int args 1)
  let n ← ofResult (Args.natOf n .negativeLength)
  let s := (← Action.text target).toList
  replace target (Text.setLength n s)
  return .null

/-- What a native on texts does. -/
def run (native : TextNative) (args : List Value) : Action Value :=
  match native with
  | .charAt => runCharAt args
  | .length => do return .int (Int32.ofNat (← Args.text args 0).length)
  | .getChars => runGetChars args
  | .indexOf => runIndexOf args
  | .lastIndexOf => runLastIndexOf args
  | .trim => do newText (Text.trimControls (← Args.text args 0))
  | .replicate => runReplicate args
  | .equals => runEquals args
  | .equalsIgnoringCase => runEqualsIgnoringCase args
  | .initializeFromChars => runInitializeFromChars args
  | .initializeFromString => runInitializeFromString args
  | .toCharArray => do Action.newArray ((← Args.text args 0).map Value.ofChar)
  | .clear => do
    replace (← ofResult (Args.get args 0)) []
    return .null
  | .append => runAppend args
  | .appendChars => runAppendChars args
  | .setLength => runSetLength args
  | .toString => do newText (← Args.text args 0)

end GuestHost.TextNative

namespace GuestHost.CharacterNative

open GuestHost.Action (ofResult)

/-- What a native on characters does. -/
def run (native : CharacterNative) (args : List Value) : Action Value := do
  let c ← ofResult (Args.char args 0)
  match native with
  | .isDigit => return .ofBool c.isDigit
  | .isLowercase => return .ofBool (Text.isLowercase c)
  | .isUppercase => return .ofBool (Text.isUppercase c)
  | .toLowercase => return .ofChar ((Text.lower c).headD c)
  | .toUppercase => return .ofChar ((Text.upper c).headD c)
  | .digit =>
    let radix ← ofResult (Args.int args 1)
    let known := 2 ≤ radix.toInt ∧ radix.toInt ≤ 36
    let digit := if known then Radix.digitValue? radix.toInt.toNat c else none
    return .int ((digit.map Int32.ofNat).getD (-1))
  | .toString => TextNative.newText [c]

end GuestHost.CharacterNative
