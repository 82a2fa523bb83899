import GuestHost.Imports
import GuestHost.Value

/-!
# The natives that the host provides

Each native is named by what it does; `standard` is the table that binds them to owners and keys.
-/

namespace GuestHost

/-- Natives on strings and string builders. -/
inductive TextNative
  | charAt
  | length
  | getChars
  | indexOf
  | lastIndexOf
  | trim
  | replicate
  | equals
  | equalsIgnoringCase
  | initializeFromChars
  | initializeFromString
  | toCharArray
  | clear
  | append
  | appendChars
  | setLength
  | toString

/-- Natives on single characters. -/
inductive CharacterNative
  | isDigit
  | isLowercase
  | isUppercase
  | toLowercase
  | toUppercase
  | digit
  | toString

/-- Natives that take numbers apart, write them and read them. -/
inductive NumberNative
  | floatBits
  | isNaNFloat
  | isNaNDouble
  | isInfiniteFloat
  | floatToString
  | doubleToString
  | intToString
  | intToHexString
  | longToString
  | parseFloat
  | parseDouble
  | parseByte
  | parseShort
  | parseInt
  | parseLong

/-- Natives that compute with numbers. -/
inductive MathNative
  | minInt
  | maxInt
  | minFloat
  | floorDouble
  | floorFloat
  | ceilDouble
  | ceilFloat
  | toRadians
  | cosine
  | sine
  | squareRoot
  | cubeRoot
  | logarithm
  | random

/-- Natives on class objects and on classes by name. -/
inductive ReflectionNative
  | getClass
  | enumConstants
  | className
  | forName
  | newArray

/-- Natives of file streams. -/
inductive StreamNative
  | openFile
  | skip
  | available
  | read
  | readBytes
  | close
  | writeBytes
  | writeByte
  | attributes

/-- Natives that link lambda expressions and method references. -/
inductive LinkageNative
  | metafactory
  | siteTarget

/-- Natives that transcode between characters and bytes. -/
inductive CharsetNative
  | decode
  | encode

/-- Natives that hand out host values in wrappers. -/
inductive WrapperNative
  | console
  | window
  | document
  | floats
  | ints
  | shorts
  | bytes
  | references

/-- A native that the host provides. -/
inductive Builtin
  /-- Answers the same value to everything. -/
  | constant (v : Value)
  /-- The time in milliseconds. -/
  | clock
  | text (n : TextNative)
  | character (n : CharacterNative)
  | number (n : NumberNative)
  | math (n : MathNative)
  | reflection (n : ReflectionNative)
  | stream (n : StreamNative)
  | linkage (n : LinkageNative)
  | charset (n : CharsetNative)
  | wrapper (n : WrapperNative)
  /-- A new instance of the class that a class object stands for; its initializer is guest code. -/
  | newInstance
  /-- Calls what a method handle leads to. -/
  | invokeHandle

namespace Builtin

/-- A native as the table lists it: owner, key, kind and code. -/
abbrev Listing := String × String × MethodKind × Builtin

/-- The natives of one owner and one kind. -/
def of (owner : String) (kind : MethodKind) (natives : List (String × Builtin)) : List Listing :=
  natives.map fun n => (owner, n.1, kind, n.2)

/-- The key of the native that bootstraps lambda expressions. -/
def metafactoryKey : String :=
  "Ljava$lang$invoke$CallSite$$metafactory$" ++ "Ljava$lang$invoke$MethodHandles$Lookup$$"
    ++ "Ljava$lang$String$$" ++ "Ljava$lang$invoke$MethodType$$" ++ "Ljava$lang$invoke$MethodType$$"
    ++ "Ljava$lang$invoke$MethodHandle$$" ++ "Ljava$lang$invoke$MethodType$"

/-- The system natives. -/
def systemListings : List Listing :=
  of "java.lang.System" .static [("J$currentTimeMillis$$", .clock)]
  ++ of "jdk.internal.misc.ScopedMemoryAccess" .static [("V$registerNatives$$", .constant .null)]
  ++ of "jdk.internal.misc.CDS" .static [
    ("Z$isDumpingClassList0$$", .constant (.int 0)),
    ("Z$isDumpingArchive0$$", .constant (.int 0)),
    ("Z$isSharingEnabled0$$", .constant (.int 0)),
    ("V$initializeFromArchive$Ljava$lang$Class$", .constant .null),
    ("J$getRandomSeedForDumping$$", .constant (.long 0))]

/-- The natives of strings, string builders and characters. -/
def textListings : List Listing :=
  of "java.lang.String" .onInstance [
    ("C$charAt$I", .text .charAt),
    ("I$length$$", .text .length),
    ("V$getChars$I$I$$C$I", .text .getChars),
    ("I$indexOf$I", .text .indexOf),
    ("I$lastIndexOf$Ljava$lang$String$", .text .lastIndexOf),
    ("Ljava$lang$String$$trim$$", .text .trim),
    ("Ljava$lang$String$$repeat$I", .text .replicate),
    ("Z$equals0$Ljava$lang$String$", .text .equals),
    ("Z$equalsIgnoreCase$Ljava$lang$String$", .text .equalsIgnoringCase),
    ("V$initializeWith$$C$I$I", .text .initializeFromChars),
    ("$C$toCharArray$$", .text .toCharArray),
    ("V$initializeWith$Ljava$lang$String$", .text .initializeFromString)]
  ++ of "java.lang.StringBuilder" .onInstance [
    ("V$initializeWith$I", .text .clear),
    ("Ljava$lang$StringBuilder$$append$Ljava$lang$String$", .text .append),
    ("Ljava$lang$String$$toString$$", .text .toString),
    ("I$length$$", .text .length),
    ("V$setLength$I", .text .setLength),
    ("Ljava$lang$StringBuilder$$append$$C$I$I", .text .appendChars)]
  ++ of "java.lang.StringBuffer" .onInstance [
    ("V$initializeWith$I", .text .clear),
    ("Ljava$lang$StringBuffer$$append$Ljava$lang$String$", .text .append),
    ("Ljava$lang$String$$toString$$", .text .toString)]
  ++ of "java.lang.Character" .static [
    ("Z$isDigit$C", .character .isDigit),
    ("Z$isLowerCase$C", .character .isLowercase),
    ("Z$isUpperCase$C", .character .isUppercase),
    ("C$toLowerCase$C", .character .toLowercase),
    ("C$toUpperCase$C", .character .toUppercase),
    ("I$digit$C$I", .character .digit),
    ("Ljava$lang$String$$toString$C", .character .toString)]

/-- The natives of the number classes. -/
def numberListings : List Listing :=
  of "java.lang.Float" .static [
    ("I$floatToRawIntBits$F", .number .floatBits),
    ("Z$isNaN$D", .number .isNaNDouble),
    ("Z$isNaN$F", .number .isNaNFloat),
    ("Z$isInfinite$F", .number .isInfiniteFloat),
    ("Ljava$lang$String$$toString$F", .number .floatToString),
    ("F$parseFloat$Ljava$lang$String$", .number .parseFloat)]
  ++ of "java.lang.Double" .static [
    ("Ljava$lang$String$$toString$D", .number .doubleToString),
    ("D$parseDouble$Ljava$lang$String$", .number .parseDouble),
    ("Z$isNaN$D", .number .isNaNDouble)]
  ++ of "java.lang.Byte" .static [
    ("Ljava$lang$String$$toString$B$I", .number .intToString),
    ("B$parseByte$Ljava$lang$String$", .number .parseByte)]
  ++ of "java.lang.Short" .static [
    ("Ljava$lang$String$$toString$S$I", .number .intToString),
    ("S$parseShort$Ljava$lang$String$$I", .number .parseShort)]
  ++ of "java.lang.Integer" .static [
    ("Ljava$lang$String$$toString$I$I", .number .intToString),
    ("Ljava$lang$String$$toHexString$I", .number .intToHexString),
    ("I$parseInt$Ljava$lang$String$$I", .number .parseInt)]
  ++ of "java.lang.Long" .static [
    ("Ljava$lang$String$$toString$J$I", .number .longToString),
    ("J$parseLong$Ljava$lang$String$$I", .number .parseLong)]

/-- The natives that compute. -/
def mathListings : List Listing :=
  of "java.lang.Math" .static [
    ("I$min$I$I", .math .minInt),
    ("I$max$I$I", .math .maxInt),
    ("F$min$F$F", .math .minFloat),
    ("D$floor$D", .math .floorDouble),
    ("F$floor$F", .math .floorFloat),
    ("D$ceil$D", .math .ceilDouble),
    ("F$ceil$F", .math .ceilFloat),
    ("D$toRadians$D", .math .toRadians),
    ("D$cos$D", .math .cosine),
    ("D$sin$D", .math .sine),
    ("D$sqrt$D", .math .squareRoot),
    ("D$cbrt$D", .math .cubeRoot),
    ("D$log$D", .math .logarithm),
    ("D$random$$", .math .random)]
  ++ of "java.lang.StrictMath" .static [("D$sqrt$D", .math .squareRoot)]

/-- The natives of class objects. -/
def reflectionListings : List Listing :=
  of "java.lang.Object" .onInstance [("Ljava$lang$Class$$getClass$$", .reflection .getClass)]
  ++ of "java.lang.Class" .onInstance [
    ("Ljava$lang$ClassLoader$$getClassLoader$$", .constant .null),
    ("Ljava$lang$ClassLoader$$getClassLoader0$$", .constant .null),
    ("Z$desiredAssertionStatus$$", .constant (.int 0)),
    ("Ljava$lang$Object$$newInstance$$", .newInstance),
    ("$Ljava$lang$Object$$getEnumConstants$$", .reflection .enumConstants),
    ("Ljava$lang$String$$getName$$", .reflection .className)]
  ++ of "java.lang.Class" .static [
    ("Ljava$lang$Class$$forName$Ljava$lang$String$$Z$Ljava$lang$ClassLoader$",
      .reflection .forName)]
  ++ of "java.lang.reflect.Array" .static [
    ("Ljava$lang$Object$$newArray$Ljava$lang$Class$$I", .reflection .newArray)]

/-- The natives of file streams. -/
def streamListings : List Listing :=
  of "java.io.FileInputStream" .onInstance [
    ("I$open0$Ljava$lang$String$", .stream .openFile),
    ("J$skip0$I", .stream .skip),
    ("I$available0$$", .stream .available),
    ("I$read0$$", .stream .read),
    ("I$readBytes$$B$I$I", .stream .readBytes),
    ("V$close0$$", .stream .close)]
  ++ of "java.io.FileOutputStream" .onInstance [
    ("V$writeBytes$$B$I$I", .stream .writeBytes),
    ("V$writeInt$I", .stream .writeByte)]
  ++ of "java.io.UnixFileSystem" .onInstance [
    ("I$getBooleanAttributes0$Ljava$lang$String$", .stream .attributes)]

/-- The natives that link. -/
def linkageListings : List Listing :=
  of "java.lang.invoke.LambdaMetafactory" .static [(metafactoryKey, .linkage .metafactory)]
  ++ of "java.lang.invoke.CallSite" .onInstance [
    ("Ljava$lang$invoke$MethodHandle$$getTarget$$", .linkage .siteTarget)]
  ++ of "java.lang.invoke.MethodHandle" .onInstance [
    ("Ljava$lang$Object$$invokeExact$$Ljava$lang$Object$", .invokeHandle)]

/-- The natives that transcode. -/
def charsetListings : List Listing :=
  of "bytelink.classlib.CharsetDecoder" .onInstance [
    ("$C$decodeFromBytes$Ljava$nio$charset$Charset$$$B", .charset .decode)]
  ++ of "bytelink.classlib.CharsetEncoder" .onInstance [
    ("$B$encodeToBytes$Ljava$nio$charset$Charset$$$C", .charset .encode)]

/-- The natives that hand out host values. -/
def wrapperListings : List Listing :=
  of "runtime" .static [
    ("nativeconsole", .wrapper .console),
    ("nativewindow", .wrapper .window),
    ("nativedocument", .wrapper .document)]
  ++ of "bytelink.api.web.OpaqueArrays" .static [
    ("Lbytelink$api$web$FloatArray$$createFloatArray$I", .wrapper .floats),
    ("Lbytelink$api$web$IntArray$$createIntArray$I", .wrapper .ints),
    ("Lbytelink$api$web$Int16Array$$createInt16Array$I", .wrapper .shorts),
    ("Lbytelink$api$web$Int8Array$$createInt8Array$I", .wrapper .bytes),
    ("Lbytelink$api$web$OpaqueReferenceArray$$createObjectArray$$", .wrapper .references)]

/-- Every native with its owner and key. -/
def listings : List Listing :=
  systemListings ++ textListings ++ numberListings ++ mathListings ++ reflectionListings
    ++ streamListings ++ linkageListings ++ charsetListings ++ wrapperListings

/-- A table with every native that the host provides, its code given by `code`. -/
def standard {ν : Type} (code : Builtin → ν) : Imports ν :=
  listings.foldl (fun t l => t.add l.1 l.2.1 l.2.2.1 (code l.2.2.2)) .empty

end Builtin

end GuestHost
