/-!
# UTF-8, written and read

`encode` writes scalar values as bytes. `front` looks at the first character of a byte sequence and
tells apart a well-formed scalar, an ill-formed sequence with its length (the longest start of a
well-formed one, or a single byte) and a sequence that the end of the input cuts short. Strict reading
stops at the first flaw and reports it; lossy reading replaces each flaw by U+FFFD.
-/

namespace GuestHost

/-- Uninterpreted bytes. -/
abbrev Bytes := List UInt8

namespace Utf8

/-- A flaw in a byte sequence read as UTF-8, with the index of its first byte. -/
inductive Flaw
  /-- `length` bytes that start no character. -/
  | invalid (length index : Nat)
  /-- The input ends inside a character. -/
  | incomplete (index : Nat)
deriving Repr, DecidableEq

/-- The wording of a flaw. -/
def Flaw.message : Flaw → String
  | .invalid length index => s!"invalid utf-8 sequence of {length} bytes from index {index}"
  | .incomplete index => s!"incomplete utf-8 byte sequence from index {index}"

/-- The byte whose value is `n`. -/
def byte (n : Nat) : UInt8 := UInt8.ofNat n

/-- The bytes of one scalar value. -/
def encodeChar (c : Char) : Bytes :=
  let n := c.toNat
  if n < 0x80 then [byte n]
  else if n < 0x800 then [byte (0xC0 + n / 64), byte (0x80 + n % 64)]
  else if n < 0x10000 then
    [byte (0xE0 + n / 4096), byte (0x80 + n / 64 % 64), byte (0x80 + n % 64)]
  else
    [byte (0xF0 + n / 262144), byte (0x80 + n / 4096 % 64), byte (0x80 + n / 64 % 64),
      byte (0x80 + n % 64)]

/-- The bytes of a sequence of scalar values. -/
def encode (cs : List Char) : Bytes := cs.flatMap encodeChar

/-- What stands at the front of a byte sequence. -/
inductive Front
  /-- Nothing: the sequence is empty. -/
  | done
  /-- A scalar value, and the bytes after it. -/
  | scalar (c : Char) (rest : Bytes)
  /-- `length` bytes that start no character, and the bytes after them. -/
  | broken (length : Nat) (rest : Bytes)
  /-- The start of a character that the end of the sequence cuts short. -/
  | cutShort

/-- Whether `b` can follow the first byte of a character. -/
def isTail (b : UInt8) : Bool := 0x80 ≤ b && b ≤ 0xBF

/-- The range of the second byte after the first byte `b` of a character of three or four bytes: it
excludes overlong forms, surrogates and values above U+10FFFF. -/
def secondRange (b : UInt8) : UInt8 × UInt8 :=
  if b = 0xE0 then (0xA0, 0xBF)
  else if b = 0xED then (0x80, 0x9F)
  else if b = 0xF0 then (0x90, 0xBF)
  else if b = 0xF4 then (0x80, 0x8F)
  else (0x80, 0xBF)

/-- Whether `second` may follow `first`. -/
def isSecond (first second : UInt8) : Bool :=
  (secondRange first).1 ≤ second && second ≤ (secondRange first).2

/-- The payload of a byte after the first. -/
def tailBits (b : UInt8) : Nat := b.toNat % 64

/-- Looks at the first character of a byte sequence. -/
def front : Bytes → Front
  | [] => .done
  | b :: rest =>
    if b < 0x80 then .scalar (Char.ofNat b.toNat) rest
    else if b < 0xC2 then .broken 1 rest
    else if b < 0xE0 then
      match rest with
      | [] => .cutShort
      | c :: rest' =>
        if isTail c then .scalar (Char.ofNat (b.toNat % 32 * 64 + tailBits c)) rest'
        else .broken 1 rest
    else if b < 0xF0 then
      match rest with
      | [] => .cutShort
      | c :: rest' =>
        if isSecond b c then
          match rest' with
          | [] => .cutShort
          | d :: rest'' =>
            if isTail d then
              .scalar (Char.ofNat (b.toNat % 16 * 4096 + tailBits c * 64 + tailBits d)) rest''
            else .broken 2 rest'
        else .broken 1 rest
    else if b < 0xF5 then
      match rest with
      | [] => .cutShort
      | c :: rest' =>
        if isSecond b c then
          match rest' with
          | [] => .cutShort
          | d :: rest'' =>
            if isTail d then
              match rest'' with
              | [] => .cutShort
              | e :: rest''' =>
                if isTail e then
                  .scalar (Char.ofNat
                    (b.toNat % 8 * 262144 + tailBits c * 4096 + tailBits d * 64 + tailBits e)) rest'''
                else .broken 3 rest''
            else .broken 2 rest'
        else .broken 1 rest
    else .broken 1 rest

theorem length_lt_of_front_scalar {bs rest : Bytes} {c : Char} (h : front bs = .scalar c rest) :
    rest.length < bs.length := by
  unfold front at h
  repeat' split at h
  all_goals (simp at h; try (obtain ⟨-, rfl⟩ := h; simp; try omega))

theorem length_lt_of_front_broken {bs rest : Bytes} {n : Nat} (h : front bs = .broken n rest) :
    rest.length < bs.length := by
  unfold front at h
  repeat' split at h
  all_goals (simp at h; try (obtain ⟨-, rfl⟩ := h; simp; try omega))

/-- Reads `bs`, whose first byte has index `index`, up to its first flaw. -/
def decodeFrom (index : Nat) (bs : Bytes) : Except Flaw (List Char) :=
  match _h : front bs with
  | .done => .ok []
  | .scalar c rest =>
    match decodeFrom (index + c.utf8Size) rest with
    | .ok cs => .ok (c :: cs)
    | .error flaw => .error flaw
  | .broken length _ => .error (.invalid length index)
  | .cutShort => .error (.incomplete index)
termination_by bs.length
decreasing_by exact length_lt_of_front_scalar _h

/-- Reads well-formed UTF-8, or reports the first flaw. -/
def decode (bs : Bytes) : Except Flaw (List Char) := decodeFrom 0 bs

/-- The character that stands for a flaw. -/
def replacement : Char := '\uFFFD'

/-- Reads any bytes, with `replacement` in the place of each flaw. -/
def decodeLossy (bs : Bytes) : List Char :=
  match _h : front bs with
  | .done => []
  | .scalar c rest => c :: decodeLossy rest
  | .broken _ rest => replacement :: decodeLossy rest
  | .cutShort => [replacement]
termination_by bs.length
decreasing_by
  · exact length_lt_of_front_scalar _h
  · exact length_lt_of_front_broken _h

/-- The bytes of a text. -/
def ofString (s : String) : Bytes := encode s.toList

end Utf8

end GuestHost
