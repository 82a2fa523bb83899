import GuestHost.Decimal.Binary
import GuestHost.Text.Radix

/-!
# Shortest decimal text of a floating-point number

Of the decimals that lie in the interval of reals rounding to a number, the one with the fewest digits
is chosen, and of those with equally many the nearest. It is written positionally, always with a
fraction part.
-/

namespace GuestHost.Decimal

/-- A decimal: `digits * 10 ^ exponent`. -/
structure Scaled where
  digits : Nat
  exponent : Int
deriving Repr, DecidableEq

/-- An interval of non-negative reals around a number, as numerators over one denominator. -/
structure Interval where
  low : Nat
  value : Nat
  high : Nat
  den : Nat
  /-- Whether the ends belong to the interval. -/
  closed : Bool

/-- The reals that round to `mantissa * 2 ^ exponent`. The gap below a power of two is half as wide,
unless it lies at the smallest exponent. -/
def Format.interval (f : Format) (mantissa : Nat) (exponent : Int) : Interval :=
  let narrow := mantissa = Nat.pow 2 f.fractionBits ∧ f.minExponent < exponent
  let up := Nat.pow 2 (exponent - 2).toNat
  { low := (4 * mantissa - if narrow then 1 else 2) * up
    value := 4 * mantissa * up
    high := (4 * mantissa + 2) * up
    den := Nat.pow 2 (2 - exponent).toNat
    closed := mantissa % 2 = 0 }

/-- Compares `digits * 10 ^ exponent` with `num / den`. -/
def Scaled.compareTo (d : Scaled) (num den : Nat) : Ordering :=
  if 0 ≤ d.exponent then compare (d.digits * Nat.pow 10 d.exponent.toNat * den) num
  else compare (d.digits * den) (num * Nat.pow 10 (-d.exponent).toNat)

/-- Whether a decimal lies in an interval. -/
def Interval.contains (i : Interval) (d : Scaled) : Bool :=
  match d.compareTo i.low i.den, d.compareTo i.high i.den with
  | .gt, .lt => true
  | .lt, _ => false
  | _, .gt => false
  | _, _ => i.closed

/-- The decimal with a given exponent next below an interval's value. -/
def Interval.floor (i : Interval) (exponent : Int) : Scaled :=
  if 0 ≤ exponent then ⟨i.value / (i.den * Nat.pow 10 exponent.toNat), exponent⟩
  else ⟨i.value * Nat.pow 10 (-exponent).toNat / i.den, exponent⟩

/-- Whether the decimal next above the value is nearer to it than `d`, the one next below. -/
def Interval.upperIsNearer (i : Interval) (d : Scaled) : Bool :=
  Scaled.compareTo ⟨2 * d.digits + 1, d.exponent⟩ (2 * i.value) i.den == .lt

/-- The better of the two decimals with a given exponent that enclose the value, if one lies in the
interval. -/
def Interval.onGrid? (i : Interval) (exponent : Int) : Option Scaled :=
  let below := i.floor exponent
  let above : Scaled := ⟨below.digits + 1, exponent⟩
  match i.contains below, i.contains above with
  | true, true => some (if i.upperIsNearer below then above else below)
  | true, false => some below
  | false, true => some above
  | false, false => none

/-- Number of digits before the point of a positive value, at most zero for a value below one. -/
def Interval.magnitude (i : Interval) : Int :=
  let estimate := ((i.value.log2 : Int) - i.den.log2 - 1) * 30103 / 100000
  let fits (p : Int) : Bool := Scaled.compareTo ⟨1, p⟩ i.value i.den == .gt
  (([0, 1, 2].map fun k : Int => estimate + k).find? fits).getD (estimate + 3)

/-- The decimal with the fewest digits, at most `n` more than `used`, that lies in an interval. -/
def Interval.search (i : Interval) (magnitude : Int) : Nat → Nat → Scaled
  | 0, used => i.floor (magnitude - used)
  | n + 1, used =>
    match i.onGrid? (magnitude - (used + 1 : Nat)) with
    | some d => d
    | none => i.search magnitude n (used + 1)

/-- The same decimal without zeros at the end of its digits. -/
def Scaled.reduced (d : Scaled) : Scaled :=
  if _h : d.digits = 0 ∨ d.digits % 10 ≠ 0 then d
  else Scaled.reduced ⟨d.digits / 10, d.exponent + 1⟩
termination_by d.digits
decreasing_by omega

/-- The shortest decimal in an interval. -/
def Interval.shortest (i : Interval) : Scaled := (i.search i.magnitude 17 0).reduced

/-- A decimal written positionally, with a fraction part of at least one digit. -/
def Scaled.positional (d : Scaled) : List Char :=
  let ds := Radix.natDigits 10 d.digits
  if 0 ≤ d.exponent then ds ++ List.replicate d.exponent.toNat '0' ++ ['.', '0']
  else
    let places := (-d.exponent).toNat
    let padded := List.replicate (places + 1 - ds.length) '0' ++ ds
    padded.take (padded.length - places) ++ '.' :: padded.drop (padded.length - places)

/-- A floating-point number as text. -/
def Format.text (f : Format) (bits : Nat) : List Char :=
  match f.decode bits with
  | .nan => "NaN".toList
  | .infinite negative => if negative then "-Infinity".toList else "Infinity".toList
  | .finite negative mantissa exponent =>
    let magnitude :=
      if mantissa = 0 then "0.0".toList else (f.interval mantissa exponent).shortest.positional
    if negative then '-' :: magnitude else magnitude

end GuestHost.Decimal
