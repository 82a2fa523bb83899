import GuestHost.Natives.Arguments

/-!
# Natives that transcode

Characters become bytes and bytes become characters by UTF-8, the only character set there is.
-/

namespace GuestHost.CharsetNative

open GuestHost.Action (ofResult)

/-- The field of a character set that holds its name. -/
def nameField : String := "canonicalName"

/-- The name of a character set: what its name field holds, or the set itself if it is a text. -/
def charsetName (charset : Value) : Action String := do
  let named : Host → Option Value := fun h =>
    match charset with
    | .ref r =>
      match h.heap.field r nameField with
      | .ok name => if name.isNull then none else some name
      | .error _ => none
    | _ => none
  match named (← get) with
  | some name => Action.text name
  | none => Action.text charset

/-- Whether a name is one of UTF-8, in either letter case. -/
def isUtf8 (name : String) : Bool :=
  let upper := name.toList.map Char.toUpper
  upper == "UTF-8".toList || upper == "UTF8".toList

/-- Meets a fault unless a character set is UTF-8. -/
def requireUtf8 (charset : Value) : Action Unit := do
  let name ← charsetName charset
  if isUtf8 name then pure () else Action.fail (.unsupported (.charset name))

/-- The ints in the array that is the third argument. -/
def elements (args : List Value) : Action (List Int32) := do
  requireUtf8 (← ofResult (Args.get args 1))
  let values ← Action.arrayValues (← ofResult (Args.get args 2))
  ofResult (Args.ints values)

/-- What a native that transcodes does. -/
def run (native : CharsetNative) (args : List Value) : Action Value := do
  let ints ← elements args
  match native with
  | .decode =>
    let bytes := ints.map fun i => i.toUInt32.toUInt8
    Action.newArray ((Utf8.decodeLossy bytes).map Value.ofChar)
  | .encode => Action.newArray ((Utf8.encode (Text.ofScalars ints)).map Value.ofByte)

end GuestHost.CharsetNative
