import GuestHost.Natives.Charset
import GuestHost.Natives.Numbers
import GuestHost.Natives.Streams
import GuestHost.Proofs.Modes.Access

/-!
# Natives side by side

A native reads its arguments and works on guest objects, so it does the same in both modes as long as an
argument that it uses as a text, an array or a stream is one. `kindAt` says which arguments those are;
the others may be anything.

* `ArgsRelate` — two lists of arguments that stand for the same, and are of the kinds that are expected;
* `TextNative.creates_run`, `CharacterNative.creates_run`, `NumberNative.creates_run`,
  `CharsetNative.creates_run`, `StreamNative.creates_run` — the natives of each sort.
-/

namespace GuestHost

open GuestHost.Action

variable {links : List Link} {args args' : List Value} {expected : Nat → Option ObjectKind}

/-! ## Arguments -/

/-- Two lists of arguments that stand for the same, and are of the kinds that are expected. -/
structure ArgsRelate (links : List Link) (expected : Nat → Option ObjectKind)
    (args args' : List Value) : Prop where
  length_eq : args.length = args'.length
  relates : ∀ i v w, args[i]? = some v → args'[i]? = some w → Relates links (expected i) v w

theorem ArgsRelate.get (h : ArgsRelate links expected args args') (i : Nat) :
    ResultMatch (Relates links (expected i)) (Args.get args i) (Args.get args' i) := by
  unfold Args.get
  by_cases hi : i < args.length
  · have hi' : i < args'.length := h.length_eq ▸ hi
    rw [List.getElem?_eq_getElem hi, List.getElem?_eq_getElem hi']
    exact .ok (h.relates i _ _ (List.getElem?_eq_getElem hi) (List.getElem?_eq_getElem hi'))
  · rw [List.getElem?_eq_none (by omega), List.getElem?_eq_none (by rw [← h.length_eq]; omega),
      h.length_eq]
    exact .error (.same _)

/-- A conversion of primitives gives the same on both sides. -/
theorem ResultMatch.orMismatch {α : Type} {v w : Value} {kind? : Option ObjectKind}
    (h : Relates links kind? v w) (name : String) {f : Value → Option α}
    (href : ∀ r, f (.ref r) = none) (hhandle : ∀ n, f (.handle n) = none) :
    ResultMatch Eq (v.orMismatch name (f v)) (w.orMismatch name (f w)) := by
  cases h with
  | plain _ => exact .rfl'
  | linked hl hk =>
    rw [href, hhandle]
    exact .error (.object name)

theorem ArgsRelate.int (h : ArgsRelate links expected args args') (i : Nat) :
    ResultMatch Eq (Args.int args i) (Args.int args' i) :=
  (h.get i).bind fun _ _ hvw => .orMismatch hvw "int" (fun _ => rfl) fun _ => rfl

theorem ArgsRelate.long (h : ArgsRelate links expected args args') (i : Nat) :
    ResultMatch Eq (Args.long args i) (Args.long args' i) :=
  (h.get i).bind fun _ _ hvw => .orMismatch hvw "long" (fun _ => rfl) fun _ => rfl

theorem ArgsRelate.float (h : ArgsRelate links expected args args') (i : Nat) :
    ResultMatch Eq (Args.float args i) (Args.float args' i) :=
  (h.get i).bind fun _ _ hvw => .orMismatch hvw "float" (fun _ => rfl) fun _ => rfl

theorem ArgsRelate.double (h : ArgsRelate links expected args args') (i : Nat) :
    ResultMatch Eq (Args.double args i) (Args.double args' i) :=
  (h.get i).bind fun _ _ hvw => .orMismatch hvw "double" (fun _ => rfl) fun _ => rfl

theorem ArgsRelate.index (h : ArgsRelate links expected args args') (i : Nat) :
    ResultMatch Eq (Args.index args i) (Args.index args' i) := by
  refine (h.int i).bind ?_
  rintro n _ rfl
  exact .rfl'

theorem ArgsRelate.char (h : ArgsRelate links expected args args') (i : Nat) :
    ResultMatch Eq (Args.char args i) (Args.char args' i) := by
  refine (h.int i).bind ?_
  rintro n _ rfl
  exact .rfl'

theorem ResultMatch.ints {vs ws : List Value} (h : List.Forall₂ (Relates links none) vs ws) :
    ResultMatch Eq (Args.ints vs) (Args.ints ws) := by
  unfold Args.ints
  induction h with
  | nil => exact .ok rfl
  | cons hvw _ ih =>
    rw [List.mapM_cons, List.mapM_cons]
    refine (ResultMatch.orMismatch hvw "int" (fun _ => rfl) fun _ => rfl).bind ?_
    rintro n _ rfl
    refine ih.bind ?_
    rintro ns _ rfl
    exact .ok rfl

theorem Steps.bind_eq {α γ δ : Type} {S : γ → δ → Prop} {a b : Action α} {f : α → Action γ}
    {g : α → Action δ} (h : Steps links Eq a b) (hfg : ∀ x, Steps links S (f x) (g x)) :
    Steps links S (a >>= f) (b >>= g) :=
  h.bind fun x _ hxy => hxy ▸ hfg x

theorem Steps.bind_eq_creates {α γ δ : Type} {S : List Link → γ → δ → Prop} {a b : Action α}
    {f : α → Action γ} {g : α → Action δ} (h : Steps links Eq a b)
    (hfg : ∀ x, Creates links S (f x) (g x)) : Creates links S (a >>= f) (b >>= g) :=
  h.bind_creates fun x _ hxy => hxy ▸ hfg x

theorem steps_get (h : ArgsRelate links expected args args') (i : Nat) :
    Steps links (Relates links (expected i)) (ofResult (Args.get args i))
      (ofResult (Args.get args' i)) := steps_ofResult (h.get i)

/-- An argument of the kind that is expected at its place. -/
theorem steps_getAs (h : ArgsRelate links expected args args') {i : Nat} {k? : Option ObjectKind}
    (hi : expected i = k?) :
    Steps links (Relates links k?) (ofResult (Args.get args i)) (ofResult (Args.get args' i)) :=
  hi ▸ steps_get h i

theorem steps_int (h : ArgsRelate links expected args args') (i : Nat) :
    Steps links Eq (ofResult (Args.int args i)) (ofResult (Args.int args' i)) :=
  steps_ofResult (h.int i)

theorem steps_index (h : ArgsRelate links expected args args') (i : Nat) :
    Steps links Eq (ofResult (Args.index args i)) (ofResult (Args.index args' i)) :=
  steps_ofResult (h.index i)

/-- The text of an argument that is expected to be one. -/
theorem steps_argText (h : ArgsRelate links expected args args') {i : Nat}
    (hi : expected i = some .text) : Steps links Eq (Args.text args i) (Args.text args' i) := by
  refine (steps_getAs h hi).bind fun v w hvw => ?_
  exact (steps_text hvw).bind_eq fun _ => steps_pure rfl

/-! ## Texts -/

/-- The ints in related arrays are the same, where they are read as zero unless they are ints. -/
theorem map_toInt?_eq {vs ws : List Value} (h : List.Forall₂ (Relates links none) vs ws) :
    (vs.map fun v => v.toInt?.getD 0) = ws.map fun v => v.toInt?.getD 0 := by
  induction h with
  | nil => rfl
  | cons hvw _ ih =>
    rw [List.map_cons, List.map_cons, ih]
    refine congrArg (· :: _) ?_
    cases hvw <;> rfl

/-- Arrays of primitives are related to themselves. -/
theorem forall₂_map_plain {α : Type} {f : α → Value} (hf : ∀ x, (f x).isPlain = true) (xs : List α) :
    List.Forall₂ (Relates links none) (xs.map f) (xs.map f) := by
  rw [List.forall₂_map_left_iff, List.forall₂_map_right_iff, List.forall₂_same]
  exact fun x _ => .plain (hf x)

namespace TextNative

/-- The kinds of objects that the natives on texts expect. -/
def kindAt : TextNative → Nat → Option ObjectKind
  | _, 0 => some .text
  | .lastIndexOf, 1 | .equals, 1 | .equalsIgnoringCase, 1 | .initializeFromString, 1
  | .append, 1 => some .text
  | .initializeFromChars, 1 | .appendChars, 1 => some .array
  | .getChars, 3 => some .array
  | _, _ => none

theorem steps_charsOfArray {v w : Value} (h : Relates links (some .array) v w)
    (offset count : Int32) :
    Steps links Eq (charsOfArray v offset count) (charsOfArray w offset count) := by
  refine (steps_arrayValues h).bind fun vs ws hitems => ?_
  rw [hitems.length_eq]
  refine (steps_ofResult .rfl').bind_eq fun (start, n) => steps_pure ?_
  rw [map_toInt?_eq (List.forall₂_take n (List.forall₂_drop start hitems))]

theorem steps_charsArgument (h : ArgsRelate links expected args args')
    (h₁ : expected 1 = some .array) :
    Steps links Eq (charsArgument args) (charsArgument args') := by
  refine (steps_getAs h h₁).bind fun v w hvw => ?_
  refine (steps_int h 2).bind_eq fun offset => ?_
  refine (steps_int h 3).bind_eq fun count => ?_
  exact steps_charsOfArray hvw offset count

/-- Replacing the text of an argument. -/
theorem steps_replaceArgument (h : ArgsRelate links expected args args')
    (h₀ : expected 0 = some .text) (cs : List Char) :
    Steps links (Relates links none)
      (do replace (← ofResult (Args.get args 0)) cs; return .null : Action Value)
      (do replace (← ofResult (Args.get args' 0)) cs; return .null : Action Value) := by
  refine (steps_getAs h h₀).bind fun v w hvw => ?_
  exact (steps_setText hvw _).bind fun _ _ _ => steps_pure (.plain rfl)

theorem steps_getChars (h : ArgsRelate links expected args args') (h₀ : expected 0 = some .text)
    (h₃ : expected 3 = some .array) :
    Steps links (Relates links none) (runGetChars args) (runGetChars args') := by
  refine (steps_argText h h₀).bind_eq fun s => ?_
  refine (steps_int h 1).bind_eq fun first => ?_
  refine (steps_int h 2).bind_eq fun last => ?_
  refine (steps_getAs h h₃).bind fun v w hvw => ?_
  refine (steps_index h 4).bind_eq fun place => ?_
  refine (steps_ofResult .rfl').bind_eq fun (start, n) => ?_
  refine (steps_arrayFill hvw (forall₂_map_plain (fun _ => rfl) _) place).bind fun _ _ _ => ?_
  exact steps_pure (.plain rfl)

theorem steps_equals (h : ArgsRelate links expected args args') (h₀ : expected 0 = some .text)
    (h₁ : expected 1 = some .text) :
    Steps links (Relates links none) (runEquals args) (runEquals args') := by
  refine (steps_getAs h h₁).bind fun v w hvw => ?_
  rw [hvw.isNull_eq]
  by_cases hnull : w.isNull = true
  · simp only [hnull, if_true]
    exact steps_pure (.plain rfl)
  · simp only [hnull]
    refine (steps_argText h h₀).bind_eq fun s => ?_
    exact (steps_text hvw).bind_eq fun t => steps_pure (.plain rfl)

theorem steps_equalsIgnoringCase (h : ArgsRelate links expected args args')
    (h₀ : expected 0 = some .text) (h₁ : expected 1 = some .text) :
    Steps links (Relates links none) (runEqualsIgnoringCase args)
      (runEqualsIgnoringCase args') := by
  refine (steps_getAs h h₀).bind fun v w hvw => ?_
  refine (steps_getAs h h₁).bind fun v' w' hvw' => ?_
  rw [hvw.isNull_eq, hvw'.isNull_eq]
  by_cases hnull : (w.isNull || w'.isNull) = true
  · simp only [hnull, if_true]
    exact steps_pure (.plain rfl)
  · simp only [hnull]
    refine (steps_text hvw).bind_eq fun s => ?_
    exact (steps_text hvw').bind_eq fun t => steps_pure (.plain rfl)

theorem steps_append (h : ArgsRelate links expected args args') (h₀ : expected 0 = some .text)
    (h₁ : expected 1 = some .text) :
    Steps links (Relates links none) (runAppend args) (runAppend args') := by
  refine (steps_getAs h h₀).bind fun v w hvw => ?_
  refine (steps_getAs h h₁).bind fun v' w' hvw' => ?_
  refine (steps_text hvw).bind_eq fun s => ?_
  have hreplace : ∀ t, Steps links (Relates links none)
      (do replace v (s.toList ++ t); return v : Action Value)
      (do replace w (s.toList ++ t); return w : Action Value) := fun t =>
    (steps_setText hvw _).bind fun _ _ _ => steps_pure hvw.any
  rw [hvw'.isNull_eq]
  by_cases hnull : w'.isNull = true
  · simp only [hnull, if_true]
    exact (steps_pure rfl).bind_eq hreplace
  · simp only [hnull]
    refine (steps_text hvw').bind_eq fun t => ?_
    exact (steps_pure rfl).bind_eq hreplace

theorem steps_appendChars (h : ArgsRelate links expected args args')
    (h₀ : expected 0 = some .text) (h₁ : expected 1 = some .array) :
    Steps links (Relates links none) (runAppendChars args) (runAppendChars args') := by
  refine (steps_getAs h h₀).bind fun v w hvw => ?_
  refine (steps_charsArgument h h₁).bind_eq fun added => ?_
  refine (steps_text hvw).bind_eq fun s => ?_
  exact (steps_setText hvw _).bind fun _ _ _ => steps_pure hvw.any

theorem steps_setLength (h : ArgsRelate links expected args args') (h₀ : expected 0 = some .text) :
    Steps links (Relates links none) (runSetLength args) (runSetLength args') := by
  refine (steps_getAs h h₀).bind fun v w hvw => ?_
  refine (steps_int h 1).bind_eq fun n => ?_
  refine (steps_ofResult .rfl').bind_eq fun n => ?_
  refine (steps_text hvw).bind_eq fun s => ?_
  exact (steps_setText hvw _).bind fun _ _ _ => steps_pure (.plain rfl)

/-- **Natives on texts** do the same in both modes. -/
theorem creates_run (native : TextNative) (h : ArgsRelate links native.kindAt args args') :
    Creates links (fun links' => Relates links' none) (native.run args) (native.run args') := by
  have h₀ : native.kindAt 0 = some .text := rfl
  cases native with
  | charAt =>
    refine Steps.creates ((steps_argText h h₀).bind_eq fun s => ?_)
    refine (steps_index h 1).bind_eq fun i => ?_
    cases s[i]? with
    | none => exact steps_fail _
    | some c => exact steps_pure (.plain rfl)
  | length => exact Steps.creates ((steps_argText h h₀).bind_eq fun s => steps_pure (.plain rfl))
  | getChars => exact Steps.creates (steps_getChars h h₀ rfl)
  | indexOf =>
    refine Steps.creates ((steps_argText h h₀).bind_eq fun s => ?_)
    exact (steps_int h 1).bind_eq fun needle => steps_pure (.plain rfl)
  | lastIndexOf =>
    refine Steps.creates ((steps_argText h h₀).bind_eq fun s => ?_)
    exact (steps_argText h (i := 1) rfl).bind_eq fun needle => steps_pure (.plain rfl)
  | trim => exact (steps_argText h h₀).bind_eq_creates fun s => creates_newText _ _
  | replicate =>
    refine (steps_argText h h₀).bind_eq_creates fun s => ?_
    refine (steps_int h 1).bind_eq_creates fun n => ?_
    exact (steps_ofResult .rfl').bind_eq_creates fun n => creates_newText _ _
  | equals => exact Steps.creates (steps_equals h h₀ rfl)
  | equalsIgnoringCase => exact Steps.creates (steps_equalsIgnoringCase h h₀ rfl)
  | initializeFromChars =>
    refine Steps.creates ((steps_charsArgument h rfl).bind_eq fun cs => ?_)
    exact steps_replaceArgument h h₀ cs
  | initializeFromString =>
    refine Steps.creates ((steps_argText h (i := 1) rfl).bind_eq fun s => ?_)
    exact steps_replaceArgument h h₀ s
  | toCharArray =>
    refine (steps_argText h h₀).bind_eq_creates fun s => ?_
    exact creates_newArray (forall₂_map_plain (fun _ => rfl) s)
  | clear => exact Steps.creates (steps_replaceArgument h h₀ [])
  | append => exact Steps.creates (steps_append h h₀ rfl)
  | appendChars => exact Steps.creates (steps_appendChars h h₀ rfl)
  | setLength => exact Steps.creates (steps_setLength h h₀)
  | toString => exact (steps_argText h h₀).bind_eq_creates fun s => creates_newText _ _

end TextNative

/-! ## Characters and numbers -/

/-- **Natives on characters** do the same in both modes. -/
theorem CharacterNative.creates_run (native : CharacterNative)
    (h : ArgsRelate links expected args args') :
    Creates links (fun links' => Relates links' none) (native.run args) (native.run args') := by
  refine (steps_ofResult (h.char 0)).bind_eq_creates fun c => ?_
  cases native with
  | isDigit | isLowercase | isUppercase | toLowercase | toUppercase =>
    exact Steps.creates (steps_pure (.plain rfl))
  | digit => exact Steps.creates ((steps_int h 1).bind_eq fun radix => steps_pure (.plain rfl))
  | toString => exact creates_newText _ _

namespace NumberNative

/-- The kinds of objects that the natives on numbers expect. -/
def kindAt : NumberNative → Nat → Option ObjectKind
  | .parseFloat, 0 | .parseDouble, 0 | .parseByte, 0 | .parseShort, 0 | .parseInt, 0
  | .parseLong, 0 => some .text
  | _, _ => none

theorem steps_parse (h : ArgsRelate links expected args args') (h₀ : expected 0 = some .text)
    (radix : Int32) : Steps links Eq (parse args radix) (parse args' radix) :=
  (steps_argText h h₀).bind_eq fun _ => steps_pure rfl

/-- **Natives on numbers** do the same in both modes. -/
theorem creates_run (native : NumberNative) (h : ArgsRelate links native.kindAt args args') :
    Creates links (fun links' => Relates links' none) (native.run args) (native.run args') := by
  cases native with
  | floatBits | isNaNFloat | isInfiniteFloat =>
    exact Steps.creates ((steps_ofResult (h.float 0)).bind_eq fun _ => steps_pure (.plain rfl))
  | isNaNDouble =>
    exact Steps.creates ((steps_ofResult (h.double 0)).bind_eq fun _ => steps_pure (.plain rfl))
  | floatToString =>
    exact (steps_ofResult (h.float 0)).bind_eq_creates fun _ => creates_newText _ _
  | doubleToString =>
    exact (steps_ofResult (h.double 0)).bind_eq_creates fun _ => creates_newText _ _
  | intToString =>
    refine (steps_int h 0).bind_eq_creates fun value => ?_
    exact (steps_int h 1).bind_eq_creates fun radix => creates_newText _ _
  | intToHexString => exact (steps_int h 0).bind_eq_creates fun value => creates_newText _ _
  | longToString =>
    refine (steps_ofResult (h.long 0)).bind_eq_creates fun value => ?_
    exact (steps_int h 1).bind_eq_creates fun radix => creates_newText _ _
  | parseFloat | parseDouble =>
    exact Steps.creates ((steps_argText h rfl).bind_eq fun _ => steps_pure (.plain rfl))
  | parseByte =>
    exact Steps.creates ((steps_parse h rfl 10).bind_eq fun _ => steps_pure (.plain rfl))
  | parseShort | parseInt | parseLong =>
    refine Steps.creates ((steps_int h 1).bind_eq fun radix => ?_)
    exact (steps_parse h rfl radix).bind_eq fun _ => steps_pure (.plain rfl)

end NumberNative

/-! ## Character sets -/

namespace CharsetNative

/-- The kinds of objects that the natives that transcode expect: a character set is given as a text. -/
def kindAt : Nat → Option ObjectKind
  | 1 => some .text
  | 2 => some .array
  | _ => none

theorem steps_charsetName {v w : Value} (h : Relates links (some .text) v w) :
    Steps links Eq (charsetName v) (charsetName w) := by
  intro hd he hagree
  have hdirect : (charsetName v).apply hd = (text v).apply hd := by
    cases h with
    | plain hv =>
      cases v with
      | ref | handle => cases hv
      | null | int | long | float | double => rfl
    | @linked l hl hk =>
      -- A text has no fields, so it has no name but itself.
      obtain ⟨a, -, -, hstores⟩ := hagree.module?
      obtain ⟨kind, contents, hget, -⟩ := hstores.text hl (hk _ rfl)
      have hfield : hd.heap.field l.ref nameField = .ok .null := Heap.field_eq_ok.2 ⟨_, hget, rfl⟩
      unfold charsetName
      rw [apply_bind, apply_get]
      simp only [hfield]
      rfl
  have hexported : (charsetName w).apply he = (text w).apply he := by
    cases h with
    | plain hv =>
      cases v with
      | ref | handle => cases hv
      | null | int | long | float | double => rfl
    | linked hl hk => rfl
  rw [hdirect, hexported]
  exact steps_text h hd he hagree

theorem steps_elements (h : ArgsRelate links kindAt args args') :
    Steps links Eq (elements args) (elements args') := by
  refine (steps_get h 1).bind fun v w hvw => ?_
  have hutf8 : Steps links (fun _ _ => True) (requireUtf8 v) (requireUtf8 w) := by
    refine (steps_charsetName hvw).bind_eq fun name => ?_
    by_cases hname : isUtf8 name = true
    · simp only [hname, if_true]
      exact steps_pure trivial
    · simp only [hname]
      exact steps_fail _
  refine hutf8.bind fun _ _ _ => ?_
  refine (steps_get h 2).bind fun v w hvw => ?_
  exact (steps_arrayValues hvw).bind fun _ _ hitems => steps_ofResult (.ints hitems)

/-- **Natives that transcode** do the same in both modes. -/
theorem creates_run (native : CharsetNative) (h : ArgsRelate links kindAt args args') :
    Creates links (fun links' => Relates links' none) (native.run args) (native.run args') := by
  refine (steps_elements h).bind_eq_creates fun ints => ?_
  cases native with
  | decode => exact creates_newArray (forall₂_map_plain (fun _ => rfl) _)
  | encode => exact creates_newArray (forall₂_map_plain (fun _ => rfl) _)

end CharsetNative

/-! ## File streams -/

namespace StreamNative

/-- The kinds of objects that the natives of file streams expect. -/
def kindAt : StreamNative → Nat → Option ObjectKind
  | .attributes, 1 | .openFile, 1 => some .text
  | .attributes, _ => none
  | _, 0 => some .stream
  | .readBytes, 1 | .writeBytes, 1 => some .array
  | _, _ => none

theorem steps_number (h : ArgsRelate links expected args args') (h₀ : expected 0 = some .stream) :
    Steps links Eq (number args) (number args') := by
  refine (steps_getAs h h₀).bind fun v w hvw => ?_
  exact steps_descriptor hvw

/-- The window of an array, with the array on either side. -/
theorem steps_window (h : ArgsRelate links expected args args') (h₁ : expected 1 = some .array) :
    Steps links (fun x y => Relates links (some .array) x.1 y.1 ∧ x.2 = y.2) (window args)
      (window args') := by
  refine (steps_getAs h h₁).bind fun v w hvw => ?_
  refine (steps_int h 2).bind_eq fun offset => ?_
  refine (steps_int h 3).bind_eq fun count => ?_
  refine (steps_arrayLength hvw).bind_eq fun length => ?_
  exact (steps_ofResult .rfl').bind_eq fun (start, n) => steps_pure ⟨hvw, rfl⟩

theorem result_amount (h : ArgsRelate links expected args args') :
    ResultMatch Eq (amount args) (amount args') := by
  unfold amount
  have hlong := h.long 1
  revert hlong
  rcases Args.long args 1 with f | n <;> rcases Args.long args' 1 with g | m <;> intro hlong
  · refine (h.int 1).map ?_
    rintro n _ rfl
    rfl
  · cases hlong
  · cases hlong
  · cases hlong with
    | ok heq => exact .ok heq

theorem creates_open (h : ArgsRelate links expected args args') (h₀ : expected 0 = some .stream)
    (h₁ : expected 1 = some .text) :
    Creates links (fun links' => Relates links' none) (runOpen args) (runOpen args') := by
  refine (steps_getAs h h₀).bind_creates fun v w hvw => ?_
  refine (steps_getAs h h₁).bind_creates fun p q hpq => ?_
  refine (steps_text hpq).bind_eq_creates fun path => ?_
  refine (steps_openFile path).bind_eq_creates fun n => ?_
  by_cases hn : 0 ≤ n
  · simp only [if_pos hn]
    exact (creates_setDescriptor hvw n).map fun _ _ _ _ _ => .plain rfl
  · simp only [if_neg hn]
    exact Steps.creates (steps_pure (.plain rfl))

theorem creates_close (h : ArgsRelate links expected args args') (h₀ : expected 0 = some .stream) :
    Creates links (fun links' => Relates links' none) (runClose args) (runClose args') := by
  refine (steps_getAs h h₀).bind_creates fun v w hvw => ?_
  refine (steps_descriptor hvw).bind_eq_creates fun n => ?_
  by_cases hn : 0 ≤ n
  · simp only [if_pos hn]
    refine (steps_onFiles _).bind_eq_creates fun _ => ?_
    exact (creates_setDescriptor hvw (-1)).map fun _ _ _ _ _ => .plain rfl
  · simp only [if_neg hn]
    exact Steps.creates (steps_pure (.plain rfl))

theorem steps_readBytes (h : ArgsRelate links expected args args') (h₀ : expected 0 = some .stream)
    (h₁ : expected 1 = some .array) :
    Steps links (Relates links none) (runReadBytes args) (runReadBytes args') := by
  refine (steps_number h h₀).bind_eq fun n => ?_
  refine (steps_window h h₁).bind ?_
  rintro ⟨v, start, length⟩ ⟨w, _, _⟩ ⟨hvw, ⟨⟩⟩
  by_cases hl : length = 0
  · simp only [if_pos hl]
    exact steps_pure (.plain rfl)
  · simp only [if_neg hl]
    refine (steps_onFiles _).bind_eq fun (count, bytes) => ?_
    refine (steps_arrayFill hvw (forall₂_map_plain (fun _ => rfl) bytes) start).bind fun _ _ _ => ?_
    exact steps_pure (.plain rfl)

theorem steps_writeBytes (h : ArgsRelate links expected args args')
    (h₀ : expected 0 = some .stream) (h₁ : expected 1 = some .array) :
    Steps links (Relates links none) (runWriteBytes args) (runWriteBytes args') := by
  refine (steps_number h h₀).bind_eq fun n => ?_
  refine (steps_window h h₁).bind ?_
  rintro ⟨v, start, length⟩ ⟨w, _, _⟩ ⟨hvw, ⟨⟩⟩
  refine (steps_arrayValues hvw).bind fun xs ys hitems => ?_
  have hwindow := List.forall₂_take length (List.forall₂_drop start hitems)
  refine (steps_ofResult (.ints hwindow)).bind_eq fun ints => ?_
  exact (steps_onFiles _).bind_eq fun _ => steps_pure (.plain rfl)

/-- **Natives of file streams** do the same in both modes. -/
theorem creates_run (native : StreamNative) (h : ArgsRelate links native.kindAt args args') :
    Creates links (fun links' => Relates links' none) (native.run args) (native.run args') := by
  cases native with
  | openFile => exact creates_open h rfl rfl
  | skip =>
    refine Steps.creates ((steps_number h rfl).bind_eq fun n => ?_)
    refine (steps_ofResult (result_amount h)).bind_eq fun amount => ?_
    exact (steps_onFiles _).bind_eq fun _ => steps_pure (.plain rfl)
  | available =>
    refine Steps.creates ((steps_number h rfl).bind_eq fun n => ?_)
    exact steps_available n
  | read =>
    refine Steps.creates ((steps_number h rfl).bind_eq fun n => ?_)
    exact (steps_onFiles _).bind_eq fun _ => steps_pure (.plain rfl)
  | readBytes => exact Steps.creates (steps_readBytes h rfl rfl)
  | close => exact creates_close h rfl
  | writeBytes => exact Steps.creates (steps_writeBytes h rfl rfl)
  | writeByte =>
    refine Steps.creates ((steps_number h rfl).bind_eq fun n => ?_)
    refine (steps_int h 1).bind_eq fun i => ?_
    exact (steps_onFiles _).bind_eq fun _ => steps_pure (.plain rfl)
  | attributes =>
    refine Steps.creates ((steps_get h 1).bind fun v w hvw => ?_)
    refine (steps_text hvw).bind_eq fun path => ?_
    exact (steps_fileExists path).bind_eq fun _ => steps_pure (.plain rfl)

end StreamNative

end GuestHost
