/-!
# Binary floating point, by its bits

A format has a sign bit, an exponent field and a fraction. `Format.decode` takes a bit pattern apart
into an exact number, `Format.round` finds the bit pattern nearest to a quotient of natural numbers,
where a tie goes to the even pattern. Conversions, comparison and rounding to a whole number are said
in these terms, so they are exact.
-/

namespace GuestHost.Decimal

/-- A binary format: widths of the stored fraction and of the exponent field. -/
structure Format where
  fractionBits : Nat
  exponentBits : Nat
deriving Repr, DecidableEq

namespace Format

/-- Single precision. -/
def binary32 : Format := ⟨23, 8⟩

/-- Double precision. -/
def binary64 : Format := ⟨52, 11⟩

/-- The exponent of the last place of the smallest numbers: a number with exponent field 0 or 1 is a
multiple of `2 ^ minExponent`. -/
def minExponent (f : Format) : Int := 2 - (Nat.pow 2 (f.exponentBits - 1) : Nat) - f.fractionBits

/-- The exponent field of infinities and of values that are no number. -/
def topField (f : Format) : Nat := Nat.pow 2 f.exponentBits - 1

/-- The bit of the sign. -/
def signBit (f : Format) : Nat := Nat.pow 2 (f.fractionBits + f.exponentBits)

/-- The pattern of infinity. -/
def infinity (f : Format) : Nat := f.topField * Nat.pow 2 f.fractionBits

/-- The pattern that stands for no number. -/
def notANumber (f : Format) : Nat := f.infinity + Nat.pow 2 (f.fractionBits - 1)

end Format

/-- What a bit pattern stands for. -/
inductive Number
  /-- No number. -/
  | nan
  /-- An infinity; true stands for a minus. -/
  | infinite (negative : Bool)
  /-- `mantissa * 2 ^ exponent`, negated if `negative`. -/
  | finite (negative : Bool) (mantissa : Nat) (exponent : Int)
deriving Repr, DecidableEq

namespace Format

/-- What a bit pattern stands for. -/
def decode (f : Format) (bits : Nat) : Number :=
  let negative := bits / f.signBit % 2 = 1
  let field := bits / Nat.pow 2 f.fractionBits % Nat.pow 2 f.exponentBits
  let fraction := bits % Nat.pow 2 f.fractionBits
  if field = f.topField then if fraction = 0 then .infinite negative else .nan
  else if field = 0 then .finite negative fraction f.minExponent
  else .finite negative (Nat.pow 2 f.fractionBits + fraction) (f.minExponent + (field - 1 : Nat))

/-- Adds the sign to a pattern without one. -/
def withSign (f : Format) (negative : Bool) (bits : Nat) : Nat :=
  if negative then f.signBit + bits else bits

/-- `n / d` rounded to a natural number, a tie to the even one. -/
def roundQuotient (n d : Nat) : Nat :=
  let q := n / d
  let r := n % d
  if 2 * r < d then q
  else if d < 2 * r then q + 1
  else q + q % 2

/-- The pattern, without its sign, nearest to `num / den`, which is not negative; `den` is not zero. -/
def roundMagnitude (f : Format) (num den : Nat) : Nat :=
  if num = 0 then 0
  else
    let scale (e : Int) : Nat × Nat :=
      if 0 ≤ e then (num, den * Nat.pow 2 e.toNat) else (num * Nat.pow 2 (-e).toNat, den)
    let guess : Int := (num.log2 : Int) - den.log2 - f.fractionBits
    let exact := scale guess
    let normal := if exact.1 / exact.2 < Nat.pow 2 f.fractionBits then guess - 1 else guess
    let e := if normal < f.minExponent then f.minExponent else normal
    let scaled := scale e
    let bits :=
      (e - f.minExponent).toNat * Nat.pow 2 f.fractionBits + roundQuotient scaled.1 scaled.2
    if f.infinity < bits then f.infinity else bits

/-- The pattern nearest to `num / den`, negated if `negative`. -/
def round (f : Format) (negative : Bool) (num den : Nat) : Nat :=
  f.withSign negative (f.roundMagnitude num den)

/-- The pattern nearest to `mantissa * 2 ^ exponent`. -/
def ofScaled (f : Format) (negative : Bool) (mantissa : Nat) (exponent : Int) : Nat :=
  if 0 ≤ exponent then f.round negative (mantissa * Nat.pow 2 exponent.toNat) 1
  else f.round negative mantissa (Nat.pow 2 (-exponent).toNat)

/-- The pattern nearest to an integer. -/
def ofInt (f : Format) (n : Int) : Nat := f.round (n < 0) n.natAbs 1

/-- The pattern of the number nearest to a decoded one. -/
def encode (f : Format) : Number → Nat
  | .nan => f.notANumber
  | .infinite negative => f.withSign negative f.infinity
  | .finite negative mantissa exponent => f.ofScaled negative mantissa exponent

/-- Whether a pattern stands for no number. -/
def isNaN (f : Format) (bits : Nat) : Bool := f.decode bits = .nan

/-- Whether a pattern stands for an infinity. -/
def isInfinite (f : Format) (bits : Nat) : Bool :=
  match f.decode bits with
  | .infinite _ => true
  | _ => false

/-- A pattern that is a number, as an integer in the order of the numbers; both zeros give zero. -/
def orderKey (f : Format) (bits : Nat) : Int :=
  if bits < f.signBit then bits else -((bits - f.signBit : Nat) : Int)

/-- The order of two patterns; what is no number has no order with anything. -/
def compare? (f : Format) (a b : Nat) : Option Ordering :=
  if f.isNaN a || f.isNaN b then none else some (compare (f.orderKey a) (f.orderKey b))

/-- The lesser of two patterns that are numbers. -/
def min (f : Format) (a b : Nat) : Nat := if f.orderKey b < f.orderKey a then b else a

/-- The number nearest to `n * 2 ^ e` among whole ones, toward minus infinity or plus infinity. -/
def toWhole (f : Format) (up : Bool) (bits : Nat) : Nat :=
  match f.decode bits with
  | .finite negative mantissa exponent =>
    if 0 ≤ exponent then bits
    else
      let unit := Nat.pow 2 (-exponent).toNat
      let awayFromZero := up != negative
      let magnitude := mantissa / unit + (if awayFromZero && mantissa % unit ≠ 0 then 1 else 0)
      f.round negative magnitude 1
  | _ => bits

end Format

/-! ## The two formats of guest values -/

/-- The double with the value of a float. -/
def widen (bits : UInt32) : UInt64 :=
  UInt64.ofNat (Format.binary64.encode (Format.binary32.decode bits.toNat))

/-- The float nearest to a double. -/
def narrow (bits : UInt64) : UInt32 :=
  UInt32.ofNat (Format.binary32.encode (Format.binary64.decode bits.toNat))

/-- The float nearest to an integer. -/
def floatOfInt (n : Int) : UInt32 := UInt32.ofNat (Format.binary32.ofInt n)

/-- The double nearest to an integer. -/
def doubleOfInt (n : Int) : UInt64 := UInt64.ofNat (Format.binary64.ofInt n)

end GuestHost.Decimal
