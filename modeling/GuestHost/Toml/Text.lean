import GuestHost.Text.Radix

/-!
# Texts in TOML

Basic texts know escapes, literal texts do not; both stand in single or in triple quotes. A reader is
given the text after the opening quotes, and gives the contents and the text after the closing ones.
-/

namespace GuestHost.Toml

/-- What a reader gives: a result and the text after it. -/
abbrev Read (α : Type) := Option (α × List Char)

/-- Puts a character in front of a text that was read. -/
def push (c : Char) (r : Read (List Char)) : Read (List Char) := r.map fun p => (c :: p.1, p.2)

/-- Whether a character may stand in a comment or a literal text. -/
def isPlain (c : Char) : Bool := c = '\t' || (0x20 ≤ c.toNat && c.toNat ≠ 0x7F)

/-- A blank inside a line. -/
def isBlank (c : Char) : Bool := c = ' ' || c = '\t'

/-- Drops the blanks at the front. -/
def dropBlanks (s : List Char) : List Char := s.dropWhile isBlank

/-- Splits off a line break. -/
def lineBreak? : List Char → Option (List Char)
  | '\n' :: rest => some rest
  | '\r' :: '\n' :: rest => some rest
  | _ => none

/-- Drops a line break at the front, if there is one. -/
def dropBreak (s : List Char) : List Char := (lineBreak? s).getD s

/-- Drops blanks and line breaks at the front. -/
def dropBreaks : List Char → List Char
  | '\r' :: '\n' :: rest => dropBreaks rest
  | c :: rest => if isBlank c ∨ c = '\n' then dropBreaks rest else c :: rest
  | [] => []

/-- The text after a backslash that ends a line: blanks up to the first other character are skipped. -/
def continuation? (s : List Char) : Option (List Char) :=
  (lineBreak? (dropBlanks s)).map dropBreaks

theorem length_dropBreaks_le (s : List Char) : (dropBreaks s).length ≤ s.length := by
  fun_induction dropBreaks s with
  | case1 rest ih => simp only [List.length_cons]; omega
  | case2 c rest _ _ ih => simp only [List.length_cons]; omega
  | case3 c rest _ _ => exact Nat.le_refl _
  | case4 => exact Nat.le_refl _

theorem length_lineBreak_lt {s rest : List Char} (h : lineBreak? s = some rest) :
    rest.length < s.length := by
  unfold lineBreak? at h
  split at h
  · cases h; simp
  · cases h; simp only [List.length_cons]; omega
  · cases h

theorem length_continuation_lt {s rest : List Char} (h : continuation? s = some rest) :
    rest.length < s.length := by
  obtain ⟨r, hr, rfl⟩ := Option.map_eq_some_iff.1 h
  have h1 := length_lineBreak_lt hr
  have h2 := length_dropBreaks_le r
  have h3 : (dropBlanks s).length ≤ s.length := (List.dropWhile_sublist _).length_le
  omega

/-- The character that hexadecimal digits name. -/
def named? (digits : List Char) : Option Char :=
  let run := Radix.digitRun 16 digits
  let code := Radix.ofDigits 16 run
  if run.length = digits.length ∧ code.isValidChar then some (Char.ofNat code) else none

/-- The character that a letter after a backslash stands for. -/
def escaped? (c : Char) : Option Char :=
  if c = 'b' then some '\x08'
  else if c = 't' then some '\t'
  else if c = 'n' then some '\n'
  else if c = 'f' then some '\x0C'
  else if c = 'r' then some '\r'
  else if c = '"' then some '"'
  else if c = '\\' then some '\\'
  else none

/-- Reads an escape, after its backslash. -/
def escape : List Char → Read Char
  | 'u' :: a :: b :: c :: d :: rest => (named? [a, b, c, d]).map fun x => (x, rest)
  | 'U' :: a :: b :: c :: d :: e :: f :: g :: h :: rest =>
    (named? [a, b, c, d, e, f, g, h]).map fun x => (x, rest)
  | c :: rest => (escaped? c).map fun x => (x, rest)
  | [] => none

theorem length_escape_lt {s rest : List Char} {x : Char} (h : escape s = some (x, rest)) :
    rest.length < s.length := by
  unfold escape at h
  split at h
  all_goals first
    | (obtain ⟨y, -, hy⟩ := Option.map_eq_some_iff.1 h
       cases hy
       simp only [List.length_cons]
       omega)
    | cases h

/-- Reads a basic text in single quotes. -/
def basic (s : List Char) : Read (List Char) :=
  match s with
  | [] => none
  | '"' :: rest => some ([], rest)
  | '\\' :: rest =>
    match _h : escape rest with
    | none => none
    | some (x, rest') => push x (basic rest')
  | c :: rest => if isPlain c then push c (basic rest) else none
termination_by s.length
decreasing_by
  · have := length_escape_lt _h
    simp only [List.length_cons]
    omega
  · simp

/-- Reads a basic text in triple quotes. Up to two quotes may stand before the closing ones. -/
def basicLines (s : List Char) : Read (List Char) :=
  match s with
  | [] => none
  | '"' :: '"' :: '"' :: '"' :: '"' :: rest => some (['"', '"'], rest)
  | '"' :: '"' :: '"' :: '"' :: rest => some (['"'], rest)
  | '"' :: '"' :: '"' :: rest => some ([], rest)
  | '\r' :: '\n' :: rest => push '\n' (basicLines rest)
  | '\n' :: rest => push '\n' (basicLines rest)
  | '\\' :: rest =>
    match _h : escape rest, _k : continuation? rest with
    | some (x, rest'), _ => push x (basicLines rest')
    | none, some rest' => basicLines rest'
    | none, none => none
  | c :: rest => if isPlain c then push c (basicLines rest) else none
termination_by s.length
decreasing_by
  · simp only [List.length_cons]; omega
  · simp
  · have := length_escape_lt _h
    simp only [List.length_cons]
    omega
  · have := length_continuation_lt _k
    simp only [List.length_cons]
    omega
  · simp

/-- Reads a literal text in single quotes. -/
def literal : List Char → Read (List Char)
  | [] => none
  | '\'' :: rest => some ([], rest)
  | c :: rest => if isPlain c then push c (literal rest) else none

/-- Reads a literal text in triple quotes. Up to two quotes may stand before the closing ones. -/
def literalLines : List Char → Read (List Char)
  | [] => none
  | '\'' :: '\'' :: '\'' :: '\'' :: '\'' :: rest => some (['\'', '\''], rest)
  | '\'' :: '\'' :: '\'' :: '\'' :: rest => some (['\''], rest)
  | '\'' :: '\'' :: '\'' :: rest => some ([], rest)
  | '\r' :: '\n' :: rest => push '\n' (literalLines rest)
  | '\n' :: rest => push '\n' (literalLines rest)
  | c :: rest => if isPlain c then push c (literalLines rest) else none

/-- Reads a text in single quotes of either kind. -/
def shortText : List Char → Read (List Char)
  | '"' :: rest => basic rest
  | '\'' :: rest => literal rest
  | _ => none

/-- Reads a text of any kind. A line break right after triple quotes does not count. -/
def anyText (s : List Char) : Read (List Char) :=
  match s with
  | '"' :: '"' :: '"' :: rest => basicLines (dropBreak rest)
  | '\'' :: '\'' :: '\'' :: rest => literalLines (dropBreak rest)
  | s => shortText s

end GuestHost.Toml
