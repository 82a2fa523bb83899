import Mathlib.Data.List.Basic
import GuestHost.Text.Utf8

/-!
# Texts in the midst of bytes

Bytes are read as UTF-8 from the front, so what they are as a text can be said piece by piece:

* `text?_append` — after bytes that are a text, the rest is read as if it stood alone;
* `text?_append_eq_none` — bytes that are no text do not become one when an ASCII byte follows them;
* `front_encodeChar`, `text?_encode` — the bytes of a text are that text;
* `zero_not_mem_encode` — only a zero character has a zero byte.
-/

namespace GuestHost.Utf8

/-- The text that bytes are, if they are one. -/
def text? (bs : Bytes) : Option (List Char) := (decode bs).toOption

/-! ## Reading by the first character -/

/-- Where reading starts to count changes nothing but the report of a flaw. -/
theorem toOption_decodeFrom (i j : Nat) (bs : Bytes) :
    (decodeFrom i bs).toOption = (decodeFrom j bs).toOption := by
  induction hn : bs.length using Nat.strongRecOn generalizing i j bs with
  | ind n ih =>
    subst hn
    rw [decodeFrom, decodeFrom.eq_def j]
    split
    · rfl
    · next c rest hfront =>
      have hrest := ih _ (length_lt_of_front_scalar hfront) (i + c.utf8Size) (j + c.utf8Size) rest rfl
      cases hi : decodeFrom (i + c.utf8Size) rest <;>
        cases hj : decodeFrom (j + c.utf8Size) rest <;>
        simp_all [Except.toOption]
    · rfl
    · rfl

theorem text?_of_done {bs : Bytes} (h : front bs = .done) : text? bs = some [] := by
  rw [text?, decode, decodeFrom]
  split <;> simp_all [Except.toOption]

theorem text?_of_scalar {bs rest : Bytes} {c : Char} (h : front bs = .scalar c rest) :
    text? bs = (text? rest).map (c :: ·) := by
  have hindex := toOption_decodeFrom (0 + c.utf8Size) 0 rest
  rw [text?, text?, decode, decode, ← hindex, decodeFrom]
  split
  · simp_all
  · next c' rest' hfront =>
    obtain ⟨rfl, rfl⟩ : c = c' ∧ rest = rest' := by simpa [h] using hfront
    cases decodeFrom (0 + c.utf8Size) rest <;> rfl
  · simp_all
  · simp_all

/-- Bytes that neither are over nor start with a character are no text. -/
theorem text?_of_flaw {bs : Bytes} (hdone : front bs ≠ .done)
    (hscalar : ∀ c rest, front bs ≠ .scalar c rest) : text? bs = none := by
  rw [text?, decode, decodeFrom]
  split
  · next h => exact absurd h hdone
  · next h => exact absurd h (hscalar _ _)
  · rfl
  · rfl

theorem text?_of_broken {bs rest : Bytes} {n : Nat} (h : front bs = .broken n rest) :
    text? bs = none := text?_of_flaw (by simp [h]) (by simp [h])

theorem text?_of_cutShort {bs : Bytes} (h : front bs = .cutShort) : text? bs = none :=
  text?_of_flaw (by simp [h]) (by simp [h])

@[simp] theorem text?_nil : text? [] = some [] := text?_of_done rfl

/-! ## Bytes that follow -/

theorem eq_nil_of_front_done {bs : Bytes} (h : front bs = .done) : bs = [] := by
  cases bs with
  | nil => rfl
  | cons b rest =>
    unfold front at h
    repeat' split at h
    all_goals simp_all

theorem front_append_of_scalar {bs rest : Bytes} {c : Char} (h : front bs = .scalar c rest)
    (more : Bytes) : front (bs ++ more) = .scalar c (rest ++ more) := by
  -- A character has at most four bytes, so this many are looked at.
  rcases bs with _ | ⟨a, _ | ⟨b, _ | ⟨c, _ | ⟨d, rest'⟩⟩⟩⟩
  all_goals
    dsimp only [front, List.cons_append, List.nil_append] at h ⊢
    grind

theorem front_append_of_broken {bs rest : Bytes} {n : Nat} (h : front bs = .broken n rest)
    (more : Bytes) : front (bs ++ more) = .broken n (rest ++ more) := by
  -- A character has at most four bytes, so this many are looked at.
  rcases bs with _ | ⟨a, _ | ⟨b, _ | ⟨c, _ | ⟨d, rest'⟩⟩⟩⟩
  all_goals
    dsimp only [front, List.cons_append, List.nil_append] at h ⊢
    grind

/-- A byte of the ASCII range follows no other byte of a character. -/
theorem front_append_of_cutShort {bs : Bytes} (h : front bs = .cutShort) {b : UInt8}
    (hb : b < 0x80) (more : Bytes) (c : Char) (rest : Bytes) :
    front (bs ++ b :: more) ≠ .scalar c rest := by
  have htail : isTail b = false := by
    simp [isTail, UInt8.le_iff_toNat_le, UInt8.lt_iff_toNat_lt] at hb ⊢
    omega
  have hsecond : ∀ a, isSecond a b = false := by
    intro a
    have hlow : (0x80 : UInt8) ≤ (secondRange a).1 := by
      unfold secondRange
      repeat' split
      all_goals decide
    have hnot : ¬ (secondRange a).1 ≤ b := UInt8.not_le.2 (UInt8.lt_of_lt_of_le hb hlow)
    simp [isSecond, hnot]
  intro hscalar
  rcases bs with _ | ⟨a, _ | ⟨b', _ | ⟨c, _ | ⟨d, rest'⟩⟩⟩⟩
  all_goals
    dsimp only [front, List.cons_append, List.nil_append] at h hscalar
    grind

/-- After bytes that are a text, the rest is read as if it stood alone. -/
theorem text?_append {bs : Bytes} {cs : List Char} (h : text? bs = some cs) (more : Bytes) :
    text? (bs ++ more) = (text? more).map (cs ++ ·) := by
  induction hn : bs.length using Nat.strongRecOn generalizing bs cs with
  | ind n ih =>
    subst hn
    cases hfront : front bs with
    | done =>
      obtain rfl := eq_nil_of_front_done hfront
      obtain rfl : [] = cs := by simpa using h
      simp
    | scalar c rest =>
      rw [text?_of_scalar hfront] at h
      obtain ⟨cs', hrest, rfl⟩ := Option.map_eq_some_iff.1 h
      have hmore := ih _ (length_lt_of_front_scalar hfront) hrest rfl
      rw [text?_of_scalar (front_append_of_scalar hfront more), hmore, Option.map_map]
      rfl
    | broken k rest => simp [text?_of_broken hfront] at h
    | cutShort => simp [text?_of_cutShort hfront] at h

/-- Bytes that are no text do not become one when a byte of the ASCII range follows them. -/
theorem text?_append_eq_none {bs : Bytes} (h : text? bs = none) {b : UInt8} (hb : b < 0x80)
    (more : Bytes) : text? (bs ++ b :: more) = none := by
  induction hn : bs.length using Nat.strongRecOn generalizing bs with
  | ind n ih =>
    subst hn
    cases hfront : front bs with
    | done => simp [text?_of_done hfront] at h
    | scalar c rest =>
      rw [text?_of_scalar hfront] at h
      have hrest := ih _ (length_lt_of_front_scalar hfront) (Option.map_eq_none_iff.1 h) rfl
      rw [text?_of_scalar (front_append_of_scalar hfront _), hrest]
      rfl
    | broken k rest => exact text?_of_broken (front_append_of_broken hfront _)
    | cutShort =>
      refine text?_of_flaw (fun hdone => ?_) (front_append_of_cutShort hfront hb more)
      simpa using eq_nil_of_front_done hdone

/-! ## Characters as bytes -/

theorem toNat_ofNat {n : Nat} (hn : n < 0xD800 ∨ 0xDFFF < n ∧ n < 0x110000) :
    (Char.ofNat n).toNat = n := by
  have hvalid : n.isValidChar := hn
  rw [Char.ofNat, dif_pos hvalid]
  rfl

theorem toNat_byte {n : Nat} (hn : n < 256) : (byte n).toNat = n := by
  simp [byte, UInt8.toNat_ofNat']
  omega

theorem front_ascii {c : Char} (hc : c.toNat < 128) (rest : Bytes) :
    front (byte c.toNat :: rest) = .scalar c rest := by
  have hlt : byte c.toNat < 0x80 := by
    rw [UInt8.lt_iff_toNat_lt, toNat_byte (by omega)]
    exact hc
  simp [front, hlt, toNat_byte (show c.toNat < 256 by omega), Char.ofNat_toNat]

theorem toNat_tail {n : Nat} (hn : n < 64) : (byte (0x80 + n)).toNat = 0x80 + n :=
  toNat_byte (by omega)

theorem isTail_tail {n : Nat} (hn : n < 64) : isTail (byte (0x80 + n)) = true := by
  simp only [isTail, UInt8.le_iff_toNat_le, toNat_tail hn, UInt8.reduceToNat, Bool.and_eq_true,
    decide_eq_true_eq]
  omega

theorem tailBits_tail {n : Nat} (hn : n < 64) : tailBits (byte (0x80 + n)) = n := by
  rw [tailBits, toNat_tail hn]
  omega

/-- What may follow the first byte of a character of three or four bytes. -/
theorem isSecond_tail {m n : Nat} (hm : m < 256) (hn : n < 64) (hE0 : m = 0xE0 → 32 ≤ n)
    (hED : m = 0xED → n < 32) (hF0 : m = 0xF0 → 16 ≤ n) (hF4 : m = 0xF4 → n < 16) :
    isSecond (byte m) (byte (0x80 + n)) = true := by
  simp only [isSecond, secondRange, ← UInt8.toNat_inj, UInt8.le_iff_toNat_le, toNat_byte hm,
    toNat_tail hn, UInt8.reduceToNat, Bool.and_eq_true, decide_eq_true_eq]
  repeat' split
  all_goals simp only [UInt8.reduceToNat]; omega

theorem front_two {a b : Nat} (ha : 2 ≤ a ∧ a < 32) (hb : b < 64) (rest : Bytes) :
    front (byte (0xC0 + a) :: byte (0x80 + b) :: rest) = .scalar (Char.ofNat (a * 64 + b)) rest := by
  have hfirst : (byte (0xC0 + a)).toNat = 0xC0 + a := toNat_byte (by omega)
  simp only [front, UInt8.lt_iff_toNat_lt, hfirst, isTail_tail hb, tailBits_tail hb,
    UInt8.reduceToNat, if_true]
  rw [if_neg (by omega), if_neg (by omega), if_pos (by omega),
    show (0xC0 + a) % 32 = a by omega]

theorem front_three {a b c : Nat} (ha : a < 16) (hb : b < 64) (hc : c < 64)
    (hlong : a = 0 → 32 ≤ b) (hsurrogate : a = 13 → b < 32) (rest : Bytes) :
    front (byte (0xE0 + a) :: byte (0x80 + b) :: byte (0x80 + c) :: rest)
      = .scalar (Char.ofNat (a * 4096 + b * 64 + c)) rest := by
  have hfirst : (byte (0xE0 + a)).toNat = 0xE0 + a := toNat_byte (by omega)
  have hsecond : isSecond (byte (0xE0 + a)) (byte (0x80 + b)) = true :=
    isSecond_tail (by omega) hb (by omega) (by omega) (by omega) (by omega)
  simp only [front, UInt8.lt_iff_toNat_lt, hfirst, hsecond, isTail_tail hc, tailBits_tail hb,
    tailBits_tail hc, UInt8.reduceToNat, if_true]
  rw [if_neg (by omega), if_neg (by omega), if_neg (by omega), if_pos (by omega),
    show (0xE0 + a) % 16 = a by omega]

theorem front_four {a b c d : Nat} (ha : a < 5) (hb : b < 64) (hc : c < 64) (hd : d < 64)
    (hlong : a = 0 → 16 ≤ b) (hlast : a = 4 → b < 16) (rest : Bytes) :
    front (byte (0xF0 + a) :: byte (0x80 + b) :: byte (0x80 + c) :: byte (0x80 + d) :: rest)
      = .scalar (Char.ofNat (a * 262144 + b * 4096 + c * 64 + d)) rest := by
  have hfirst : (byte (0xF0 + a)).toNat = 0xF0 + a := toNat_byte (by omega)
  have hsecond : isSecond (byte (0xF0 + a)) (byte (0x80 + b)) = true :=
    isSecond_tail (by omega) hb (by omega) (by omega) (by omega) (by omega)
  simp only [front, UInt8.lt_iff_toNat_lt, hfirst, hsecond, isTail_tail hc, isTail_tail hd,
    tailBits_tail hb, tailBits_tail hc, tailBits_tail hd, UInt8.reduceToNat, if_true]
  rw [if_neg (by omega), if_neg (by omega), if_neg (by omega), if_neg (by omega),
    if_pos (by omega), show (0xF0 + a) % 8 = a by omega]

/-- The bytes of a character are read as that character. -/
theorem front_encodeChar (c : Char) (rest : Bytes) :
    front (encodeChar c ++ rest) = .scalar c rest := by
  have hvalid : c.toNat < 0xD800 ∨ 0xDFFF < c.toNat ∧ c.toNat < 0x110000 := c.valid
  have hc : Char.ofNat c.toNat = c := Char.ofNat_toNat c
  unfold encodeChar
  dsimp only
  split
  · exact front_ascii ‹_› rest
  split
  · simp only [List.cons_append, List.nil_append]
    rw [front_two (by omega) (by omega),
      show c.toNat / 64 * 64 + c.toNat % 64 = c.toNat by omega, hc]
  split
  · simp only [List.cons_append, List.nil_append]
    rw [front_three (by omega) (by omega) (by omega) (by omega) (by omega),
      show c.toNat / 4096 * 4096 + c.toNat / 64 % 64 * 64 + c.toNat % 64 = c.toNat by omega, hc]
  · simp only [List.cons_append, List.nil_append]
    rw [front_four (by omega) (by omega) (by omega) (by omega) (by omega) (by omega),
      show c.toNat / 262144 * 262144 + c.toNat / 4096 % 64 * 4096 + c.toNat / 64 % 64 * 64
        + c.toNat % 64 = c.toNat by omega, hc]

/-! ## Texts as bytes -/

@[simp] theorem encode_nil : encode [] = [] := rfl

theorem encode_cons (c : Char) (cs : List Char) : encode (c :: cs) = encodeChar c ++ encode cs := rfl

theorem encode_append (cs ds : List Char) : encode (cs ++ ds) = encode cs ++ encode ds :=
  List.flatMap_append

/-- The bytes of a text are that text. -/
theorem text?_encode (cs : List Char) : text? (encode cs) = some cs := by
  induction cs with
  | nil => simp
  | cons c rest ih => rw [encode_cons, text?_of_scalar (front_encodeChar c _), ih, Option.map_some]

/-- The bytes of a text are read as that text. -/
theorem decode_encode (cs : List Char) : decode (encode cs) = .ok cs := by
  have htext := text?_encode cs
  unfold text? at htext
  cases hdecode : decode (encode cs) with
  | ok cs' => simpa [hdecode, Except.toOption] using htext
  | error flaw => simp [hdecode, Except.toOption] at htext

theorem text?_encode_append (cs : List Char) (more : Bytes) :
    text? (encode cs ++ more) = (text? more).map (cs ++ ·) :=
  text?_append (text?_encode cs) more

/-! ## Zero bytes -/

theorem zero_ne_byte {n : Nat} (hn : 0 < n) (hlt : n < 256) : 0 ≠ byte n := by
  intro heq
  have hbyte := toNat_byte hlt
  rw [← heq] at hbyte
  exact absurd hbyte (Nat.ne_of_lt hn)

/-- No character but the zero character has a zero byte. -/
theorem zero_not_mem_encodeChar {c : Char} (hc : c ≠ '\x00') : 0 ∉ encodeChar c := by
  have hpos : 0 < c.toNat := by
    refine Nat.pos_of_ne_zero fun hzero => hc ?_
    rw [← Char.ofNat_toNat c, hzero]
  have hvalid : c.toNat < 0xD800 ∨ 0xDFFF < c.toNat ∧ c.toNat < 0x110000 := c.valid
  unfold encodeChar
  dsimp only
  split
  · simpa using zero_ne_byte hpos (by omega)
  split
  · simpa using ⟨zero_ne_byte (by omega) (by omega), zero_ne_byte (by omega) (by omega)⟩
  split
  · simpa using ⟨zero_ne_byte (by omega) (by omega), zero_ne_byte (by omega) (by omega),
      zero_ne_byte (by omega) (by omega)⟩
  · simpa using ⟨zero_ne_byte (by omega) (by omega), zero_ne_byte (by omega) (by omega),
      zero_ne_byte (by omega) (by omega), zero_ne_byte (by omega) (by omega)⟩

theorem zero_not_mem_encode {cs : List Char} (hcs : '\x00' ∉ cs) : 0 ∉ encode cs := by
  intro hmem
  obtain ⟨c, hc, hzero⟩ := List.mem_flatMap.1 hmem
  exact zero_not_mem_encodeChar (fun heq => hcs (heq ▸ hc)) hzero

/-! ## ASCII texts -/

/-- Every character of a text is one of the 128 of ASCII. -/
def IsAscii (cs : List Char) : Prop := ∀ c ∈ cs, c.toNat < 128

theorem encodeChar_of_ascii {c : Char} (hc : c.toNat < 128) : encodeChar c = [byte c.toNat] := by
  simp [encodeChar, hc]

/-- The bytes of an ASCII text are the numbers of its characters. -/
theorem encode_eq_map {cs : List Char} (h : IsAscii cs) :
    encode cs = cs.map fun c => byte c.toNat := by
  induction cs with
  | nil => rfl
  | cons c rest ih =>
    rw [encode_cons, encodeChar_of_ascii (h c List.mem_cons_self),
      ih fun d hd => h d (List.mem_cons_of_mem c hd)]
    rfl

/-- The bytes of an ASCII text are on one line if the text is. -/
theorem feed_not_mem_encode {cs : List Char} (h : IsAscii cs) (hfeed : '\n' ∉ cs) :
    (10 : UInt8) ∉ encode cs := by
  rw [encode_eq_map h]
  intro hmem
  obtain ⟨c, hc, hbyte⟩ := List.mem_map.1 hmem
  have hten : c.toNat = 10 := by
    have := congrArg UInt8.toNat hbyte
    rwa [toNat_byte (by have := h c hc; omega)] at this
  have heq : c = '\n' := by
    rw [← Char.ofNat_toNat c, hten]
  exact hfeed (heq ▸ hc)

/-- The start of the bytes of an ASCII text is the bytes of a start of it. -/
theorem exists_of_start_encode {cs : List Char} (h : IsAscii cs) {bs : Bytes} (hbs : bs <+: encode cs) :
    ∃ part, part <+: cs ∧ bs = encode part := by
  rw [encode_eq_map h] at hbs
  obtain ⟨part, hpart, hmap⟩ := List.prefix_map_iff.1 hbs
  refine ⟨part, hpart, ?_⟩
  rw [hmap, encode_eq_map fun c hc => h c (hpart.subset hc)]

end GuestHost.Utf8
