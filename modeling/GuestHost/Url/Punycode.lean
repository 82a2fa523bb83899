/-!
# Punycode

A label of a domain name with characters beyond ASCII is written in ASCII: first its ASCII characters,
then, after a hyphen, where to insert the others. The insertions go by growing code point; each is a
difference in a mixed radix whose digits adapt to the differences before.
-/

namespace GuestHost.Url.Punycode

/-- The digit of value `d`: a letter below 26, else a numeral. -/
def digitChar (d : Nat) : Char := if d < 26 then Char.ofNat (97 + d) else Char.ofNat (22 + d)

/-- The value of a digit. -/
def digitValue? (c : Char) : Option Nat :=
  let n := c.toNat
  if 97 ≤ n ∧ n ≤ 122 then some (n - 97)
  else if 65 ≤ n ∧ n ≤ 90 then some (n - 65)
  else if 48 ≤ n ∧ n ≤ 57 then some (n - 22)
  else none

/-- The threshold of the digit at weight position `k`. -/
def threshold (k bias : Nat) : Nat :=
  if k ≤ bias then 1 else if bias + 26 ≤ k then 26 else k - bias

theorem threshold_pos (k bias : Nat) : 0 < threshold k bias := by
  unfold threshold
  split
  · omega
  · split <;> omega

/-- Scales a difference down; the second component counts the steps. -/
def scale (delta : Nat) : Nat × Nat :=
  if _h : 455 < delta then
    let (d, k) := scale (delta / 35)
    (d, k + 36)
  else (delta, 0)
termination_by delta
decreasing_by omega

/-- The bias after a difference that brought the length to `count`. -/
def adapt (delta count : Nat) (first : Bool) : Nat :=
  let d := if first then delta / 700 else delta / 2
  let (d, k) := scale (d + d / count)
  k + 36 * d / (d + 38)

/-- The digits of a difference. -/
def digits (bias k q : Nat) : List Char :=
  let t := threshold k bias
  if _h : q < t then [digitChar q]
  else digitChar (t + (q - t) % (36 - t)) :: digits bias (k + 36) ((q - t) / (36 - t))
termination_by q
decreasing_by
  have := threshold_pos k bias
  have hle : (q - threshold k bias) / (36 - threshold k bias) ≤ q - threshold k bias :=
    Nat.div_le_self _ _
  omega

/-- What is written so far: the digits, the running difference, the bias, and the length covered. -/
structure Writer where
  out : List Char
  delta : Nat
  bias : Nat
  covered : Nat

/-- Takes one character of the label, while the characters of code point `n` are written. -/
def Writer.step (basic n : Nat) (w : Writer) (c : Char) : Writer :=
  if c.toNat < n then { w with delta := w.delta + 1 }
  else if c.toNat = n then
    { out := w.out ++ digits w.bias 36 w.delta, delta := 0,
      bias := adapt w.delta (w.covered + 1) (w.covered == basic), covered := w.covered + 1 }
  else w

/-- Writes the characters of growing code points; `n` is the least one still possible. -/
def Writer.run (label : List Char) (basic : Nat) : List Nat → Nat → Writer → Writer
  | [], _, w => w
  | m :: rest, n, w =>
    let w := { w with delta := w.delta + (m - n) * (w.covered + 1) }
    let w := label.foldl (Writer.step basic m) w
    Writer.run label basic rest (m + 1) { w with delta := w.delta + 1 }

/-- A label in ASCII. -/
def encode (label : List Char) : List Char :=
  let basic := label.filter fun c => c.toNat < 0x80
  let others := ((label.filter fun c => 0x80 ≤ c.toNat).map Char.toNat).eraseDups.mergeSort
  let w := Writer.run label basic.length others 0x80 ⟨[], 0, 72, basic.length⟩
  (if basic.isEmpty then [] else basic ++ ['-']) ++ w.out

/-- What is read counts in words of 32 bits: a number from here on is refused. -/
def bound : Nat := 0x100000000

/-- Reads one difference and adds it to `value`: the sum, and the text after it. -/
def readDelta (bias : Nat) : (k weight value : Nat) → List Char → Option (Nat × List Char)
  | _, _, _, [] => none
  | k, weight, value, c :: rest =>
    match digitValue? c with
    | none => none
    | some d =>
      let t := threshold k bias
      let value := value + d * weight
      if bound ≤ value then none
      else if d < t then some (value, rest)
      else if bound ≤ weight * (36 - t) then none
      else readDelta bias (k + 36) (weight * (36 - t)) value rest

theorem length_lt_of_readDelta {bias k weight value v : Nat} {s rest : List Char}
    (h : readDelta bias k weight value s = some (v, rest)) : rest.length < s.length := by
  induction s generalizing k weight value with
  | nil => simp [readDelta] at h
  | cons c s ih =>
    rw [readDelta] at h
    split at h
    · simp at h
    · simp only at h
      split at h
      · simp at h
      · split at h
        · simp only [Option.some.injEq, Prod.mk.injEq] at h
          simp [← h.2]
        · split at h
          · simp at h
          · exact Nat.lt_succ_of_lt (ih h)

/-- Inserts the characters that differences stand for into a label. -/
def insertions (n i bias : Nat) (label s : List Char) : Option (List Char) :=
  match s with
  | [] => some label
  | c :: tail =>
    match _h : readDelta bias 36 1 i (c :: tail) with
    | none => none
    | some (sum, rest) =>
      let count := label.length + 1
      let code := n + sum / count
      let place := sum % count
      if code.isValidChar then
        insertions code (place + 1) (adapt (sum - i) count (i == 0))
          (label.take place ++ Char.ofNat code :: label.drop place) rest
      else none
termination_by s.length
decreasing_by exact length_lt_of_readDelta _h

/-- The label that a text in ASCII stands for, if it stands for one. A hyphen at the start parts
nothing. -/
def decode (s : List Char) : Option (List Char) :=
  let tail := (s.reverse.takeWhile (· ≠ '-')).reverse
  let basic := (s.take (s.length - tail.length)).dropLast
  insertions 0x80 0 72 basic (if basic.isEmpty then s else tail)

end GuestHost.Url.Punycode
