import GuestHost.Text.Quoted
import GuestHost.Text.Utf8

/-!
# Faults

What ends a guest call. File operations and number parsing answer with a sentinel instead; a fault is
fatal for the call that meets it. Each kind of fault lists its causes, and `Fault.message` is the one
place where they are put into words.
-/

namespace GuestHost

/-- What the host refuses to do for a guest. -/
inductive Unsupported
  /-- Loading a class by its name. -/
  | classLoading (name : String)
  /-- Transcoding in a character set other than UTF-8. -/
  | charset (name : String)
  /-- A refusal in the guest's own words. -/
  | refused (words : String)
deriving Repr, DecidableEq

/-- Why an argument is not accepted. -/
inductive BadArgument
  | unknownTextKind (code : UInt8)
  | arrayIndex (index length : Nat)
  | index (index length : Nat)
  | range (offset count : Int32) (length : Nat)
  | missing (index given : Nat)
  | negativeIndex (value : Int32)
  | negativeRepeat (value : Int32)
  | negativeLength (value : Int32)
  | negativeArrayLength (value : Int32)
  | character (value : Int32)
  | alreadyRegistered (name : String)
  | notInterface (name : String)
  /-- A call of the given kind, to the given method, to which no receiver was bound. -/
  | noReceiver (kind method : String)
  /-- A setting that is not valid, or a source of files that cannot be set up, in its own words. -/
  | setting (words : String)
deriving Repr, DecidableEq

/-- Why a reference leads nowhere. -/
inductive DeadReference
  | heap (index : UInt32)
  | null
  /-- Null, where an object of the given kind is needed. -/
  | nullFor (kind : String)
  | classNumber (id : Nat)
  | className (name : String)
  /-- A handle at which the module has no object of the given kind. -/
  | handle (handle : UInt32) (kind : String)
deriving Repr, DecidableEq

/-- What goes wrong between the host and a module. -/
inductive ModuleFault
  | unknownTag (tag : UInt8)
  | required
  | notAttached
  | outsideCall
  | ownerName (flaw : Utf8.Flaw)
  | signatureKey (flaw : Utf8.Flaw)
  | text (flaw : Utf8.Flaw)
  /-- An entry point that reported failure of its own. -/
  | entry (name : String) (code : Int32)
  /-- An accessor of the named module that reported failure. -/
  | accessor (module entry : String) (code : Int32)
deriving Repr, DecidableEq

/-- Why a class has no new instance. -/
inductive NoInstance
  | abstract
  | noInitializer
deriving Repr, DecidableEq

/-- What ends a guest call. -/
inductive Fault
  /-- No native is registered for an owner and a key. -/
  | unresolved (owner key : String)
  | unsupported (what : Unsupported)
  /-- A method handle names a kind of invocation outside the known ones. -/
  | unsupportedKind (code : UInt8)
  /-- A value of one kind where another is needed. -/
  | mismatch (expected got : String)
  | argument (why : BadArgument)
  /-- No method for a key was found, starting from a class. -/
  | missingMethod (owner key : String)
  | instantiation (className : String) (why : NoInstance)
  | reference (which : DeadReference)
  | inModule (what : ModuleFault)
deriving Repr, DecidableEq

/-- The wording of a refusal. -/
def Unsupported.message : Unsupported → String
  | .classLoading name => s!"reflective class loading of {name}"
  | .charset name =>
    let quoted := Text.quoted name.toList
    s!"charset {quoted} (only UTF-8 is supported)"
  | .refused words => words

/-- The wording of a bad argument. -/
def BadArgument.message : BadArgument → String
  | .unknownTextKind code => s!"unknown text kind {code}"
  | .arrayIndex i length => s!"array index {i} out of bounds for length {length}"
  | .index i length => s!"index {i} out of bounds for length {length}"
  | .range offset count length => s!"range {offset}+{count} out of bounds for length {length}"
  | .missing i given => s!"missing argument {i} (got {given})"
  | .negativeIndex value => s!"negative index {value}"
  | .negativeRepeat value => s!"negative repeat count {value}"
  | .negativeLength value => s!"negative length {value}"
  | .negativeArrayLength value => s!"negative array length {value}"
  | .character value => s!"invalid char value {value}"
  | .alreadyRegistered name => s!"class {name} is already registered"
  | .notInterface name => s!"{name} is not an interface"
  | .noReceiver kind method => s!"{kind} call to {method} without a receiver"
  | .setting words => words

/-- The wording of a dead reference. -/
def DeadReference.message : DeadReference → String
  | .heap index => s!"@{index}"
  | .null => "null"
  | .nullFor kind => s!"null {kind}"
  | .classNumber id => s!"class #{id}"
  | .className name => s!"unknown class {name}"
  | .handle number kind => s!"extern #{number} is not a live {kind}"

/-- The wording of a fault between host and module. -/
def ModuleFault.message : ModuleFault → String
  | .unknownTag tag => s!"unknown value tag {tag}"
  | .required => "exported mode requires a module"
  | .notAttached => "no module attached"
  | .outsideCall => "dispatch outside of a module call"
  | .ownerName flaw => "owner name: " ++ flaw.message
  | .signatureKey flaw => "signature key: " ++ flaw.message
  | .text flaw => "text is not UTF-8: " ++ flaw.message
  | .entry name code => s!"{name} returned {code}"
  | .accessor owner name code => s!"{owner}: {name} returned {code}"

/-- The wording of a missing instance. -/
def NoInstance.message : NoInstance → String
  | .abstract => "type is abstract"
  | .noInitializer => "no zero-argument constructor"

/-- The wording of a fault. -/
def Fault.message : Fault → String
  | .unresolved owner key => s!"Unresolved native method: {owner}.{key}"
  | .unsupported what => "Unsupported operation: " ++ what.message
  | .unsupportedKind code => s!"Unsupported invocation kind: {code}"
  | .mismatch expected got => s!"Type mismatch: expected {expected}, got {got}"
  | .argument why => "Argument error: " ++ why.message
  | .missingMethod owner key => s!"No method {key} on {owner}"
  | .instantiation className why => s!"Cannot instantiate {className}: " ++ why.message
  | .reference which => "Invalid reference: " ++ which.message
  | .inModule what => "Module error: " ++ what.message

end GuestHost
