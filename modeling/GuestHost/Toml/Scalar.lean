import GuestHost.Decimal.Reading
import GuestHost.Toml
import GuestHost.Toml.Text

/-!
# Numbers, dates and times in TOML

A number may have single underscores between its digits, and no superfluous zero in front. Dates must
exist in the calendar.
-/

namespace GuestHost.Toml

/-! ## Numbers -/

/-- The digits of a text that consists of digits with single underscores between them. -/
def grouped? (isDigit : Char → Bool) : List Char → Option (List Char)
  | [] => none
  | [c] => if isDigit c then some [c] else none
  | c :: '_' :: rest => if isDigit c then (grouped? isDigit rest).map (c :: ·) else none
  | c :: rest => if isDigit c then (grouped? isDigit rest).map (c :: ·) else none

/-- Splits an optional sign off; true stands for a minus. -/
def signed : List Char → Bool × List Char := Radix.sign

/-- The decimal digits of a whole number without superfluous zeros. -/
def wholeDigits? (s : List Char) : Option (List Char) :=
  match grouped? Char.isDigit s with
  | some ['0'] => some ['0']
  | some ('0' :: _) => none
  | digits => digits

/-- The number that digits denote in a radix, if it fits a signed word of 64 bits. -/
def wordOf? (negative : Bool) (radix : Nat) (digits : List Char) : Option Int :=
  let n := Radix.ofDigits radix (Radix.digitRun radix digits)
  let limit := if negative then 0x8000000000000000 else 0x7FFFFFFFFFFFFFFF
  if n ≤ limit then some (if negative then -n else n) else none

/-- An integer: decimal with an optional sign, or hexadecimal, octal or binary without. -/
def integer? (s : List Char) : Option Int :=
  let inRadix : Nat → List Char → Option Int := fun radix rest =>
    (grouped? (fun c => (Radix.digitValue? radix c).isSome) rest).bind (wordOf? false radix)
  match s with
  | '0' :: 'x' :: rest => inRadix 16 rest
  | '0' :: 'o' :: rest => inRadix 8 rest
  | '0' :: 'b' :: rest => inRadix 2 rest
  | s =>
    let (negative, rest) := signed s
    (wholeDigits? rest).bind (wordOf? negative 10)

/-- Splits a text at the first character for which `sep` holds; the character is dropped. -/
def cutAt (sep : Char → Bool) (s : List Char) : List Char × Option (List Char) :=
  let before := s.takeWhile fun c => !sep c
  match s.drop before.length with
  | [] => (before, none)
  | _ :: after => (before, some after)

/-- Whether a text is a floating-point number: a whole part, and a fraction or an exponent or both. -/
def isFloatText (s : List Char) : Bool :=
  let (mantissa, exponent) := cutAt (fun c => c = 'e' || c = 'E') s
  let (whole, fraction) := cutAt (· = '.') mantissa
  let digitsOk : Option (List Char) → Bool := fun
    | none => true
    | some digits => (grouped? Char.isDigit digits).isSome
  (wholeDigits? (signed whole).2).isSome && digitsOk fraction
    && digitsOk (exponent.map fun e => (signed e).2) && (fraction.isSome || exponent.isSome)

/-- Whether a text is a floating-point number. A positive one that is too large for a double is
refused, unless it is written as infinity. -/
def isFloat (s : List Char) : Bool :=
  let special := (signed s).2
  if special = "inf".toList ∨ special = "nan".toList then true
  else
    let bits := Decimal.parsePrefix (s.filter (· ≠ '_'))
    isFloatText s && bits.toNat ≠ Decimal.Format.binary64.infinity

/-! ## Dates and times -/

/-- The number that exactly `n` digits denote. -/
def fixed? (n : Nat) (s : List Char) : Option Nat :=
  if s.length = n ∧ s.all Char.isDigit then some (Radix.ofDigits 10 (Radix.digitRun 10 s)) else none

/-- Number of days of a month. -/
def daysIn (year month : Nat) : Nat :=
  if month = 2 then
    if (year % 4 = 0 ∧ year % 100 ≠ 0) ∨ year % 400 = 0 then 29 else 28
  else if month = 4 ∨ month = 6 ∨ month = 9 ∨ month = 11 then 30
  else 31

/-- Whether a text is a date that exists. -/
def isDate (s : List Char) : Bool :=
  match fixed? 4 (s.take 4), (s.drop 4).take 1, fixed? 2 ((s.drop 5).take 2), (s.drop 7).take 1,
    fixed? 2 (s.drop 8) with
  | some year, ['-'], some month, ['-'], some day =>
    1 ≤ month && month ≤ 12 && 1 ≤ day && day ≤ daysIn year month
  | _, _, _, _, _ => false

/-- Whether a text is hours and minutes. -/
def isHourMinute (s : List Char) : Bool :=
  match fixed? 2 (s.take 2), (s.drop 2).take 1, fixed? 2 (s.drop 3) with
  | some hour, [':'], some minute => hour ≤ 23 && minute ≤ 59
  | _, _, _ => false

/-- Whether a text is a time of day with seconds, which may have a fraction. -/
def isTime (s : List Char) : Bool :=
  let second := (fixed? 2 ((s.drop 6).take 2)).any (· ≤ 60)
  let fraction := match s.drop 8 with
    | [] => true
    | '.' :: digits => !digits.isEmpty && digits.all Char.isDigit
    | _ => false
  isHourMinute (s.take 5) && (s.drop 5).take 1 = [':'] && second && fraction

/-- Whether a text is a time of day with an optional offset. -/
def isOffsetTime (s : List Char) : Bool :=
  let (time, offset) := cutAt (fun c => c = 'Z' || c = 'z' || c = '+' || c = '-') s
  let mark := (s.drop time.length).take 1
  isTime time &&
    match offset with
    | none => true
    | some rest => if mark = ['Z'] ∨ mark = ['z'] then rest.isEmpty else isHourMinute rest

/-- Whether a text is a date, a time, or both with a mark between them. -/
def isMoment (s : List Char) : Bool :=
  isTime s || isDate s ||
    (isDate (s.take 10) && (s.drop 10).take 1 ∈ [['T'], ['t'], [' ']] && isOffsetTime (s.drop 11))

/-! ## Scalars -/

/-- Whether a character may stand in a number, a date or a word. -/
def inWord (c : Char) : Bool := c.isAlphanum || c ∈ "+-_.:".toList

/-- A word that is a truth value, a number, a date or a time. -/
def word? (s : List Char) : Option Toml :=
  if s = "true".toList then some (.truth true)
  else if s = "false".toList then some (.truth false)
  else if isMoment s then some (.moment (String.ofList s))
  else if isFloat s then some (.float (String.ofList s))
  else (integer? s).map .integer

/-- Reads a word. A date and a time may have a single blank between them. -/
def word (s : List Char) : Read Toml :=
  let first := s.takeWhile inWord
  let rest := s.drop first.length
  let joined : Read Toml :=
    match rest with
    | ' ' :: rest =>
      let both := first ++ ' ' :: rest.takeWhile inWord
      if isMoment both then
        some (.moment (String.ofList both), rest.drop (rest.takeWhile inWord).length)
      else none
    | _ => none
  joined <|> (word? first).map fun v => (v, rest)

end GuestHost.Toml
