import Mathlib.Data.List.Basic
import GuestHost.Signature

/-!
# What a key tells of its signature

In a key the character `$` separates fields and parameters, ends the name of a reference type, stands for
an array and for the dots of a name, and alone for an empty parameter list. A key can be taken apart all
the same: a `$` within a name is followed by another character than `$`, and what follows a type in a key
is nothing or begins with `$`.

* `append_dollar_inj` — where a name ends;
* `code_append_inj` — where a type ends, and which type it is but for the dots of its names;
* `paramCodes_inj` — the same for parameter lists;
* `mangleName_append_inj` — where the name of a method ends;
* `keys_identify_overloads` — the key of a signature tells its types, and its name if that has no `$`.
-/

namespace GuestHost

/-! ## Where a name ends -/

/-- Every `$` is followed by another character than `$`. -/
def Spaced (s : List Char) : Prop := ∀ a b, s = a ++ '$' :: b → ∃ c rest, b = c :: rest ∧ c ≠ '$'

/-- What may follow a type in a key: nothing, or a separator and more. -/
def Separated (rest : List Char) : Prop := ∀ c ∈ rest.head?, c = '$'

theorem separated_nil : Separated [] := by simp [Separated]

theorem separated_cons (rest : List Char) : Separated ('$' :: rest) := by simp [Separated]

/-- A name does not end before its last separator does. -/
theorem Spaced.eq_nil_of_append {s more rest rest' : List Char} (hs : Spaced (s ++ more))
    (hrest : Separated rest) (h : '$' :: rest = more ++ '$' :: rest') : more = [] := by
  cases more with
  | nil => rfl
  | cons c more =>
    obtain ⟨rfl, rfl⟩ := List.cons.inj h
    -- This `$` is one within the name, so what comes after it is no separator.
    obtain ⟨c, tail, rfl, hc⟩ := hs s more rfl
    exact absurd (hrest c rfl) hc

/-- **Where a name ends**: at the first `$` with a separator, or nothing, behind it. -/
theorem append_dollar_inj {s s' rest rest' : List Char} (hs : Spaced s) (hs' : Spaced s')
    (hrest : Separated rest) (hrest' : Separated rest')
    (h : s ++ '$' :: rest = s' ++ '$' :: rest') : s = s' ∧ rest = rest' := by
  rcases List.append_eq_append_iff.1 h with ⟨more, rfl, hmore⟩ | ⟨more, rfl, hmore⟩
  · obtain rfl := hs'.eq_nil_of_append hrest hmore
    simpa using h
  · obtain rfl := hs.eq_nil_of_append hrest' hmore
    simpa using h

/-! ## Types -/

namespace TypeCode

/-- The characters at which the name of a reference type is cut into segments. -/
def isCut (c : Char) : Bool := c == '.' || c == '$'

/-- The name of a reference type: no segment of it is empty, and so neither is the name. -/
def IsTypeName (name : String) : Prop := ∀ segment ∈ name.toList.splitOnP isCut, segment ≠ []

instance : DecidablePred IsTypeName := fun name =>
  inferInstanceAs (Decidable (∀ segment ∈ name.toList.splitOnP isCut, segment ≠ []))

/-- All reference types within the type have names. -/
def Named : TypeCode → Prop
  | .object name => IsTypeName name
  | .array element => element.Named
  | _ => True

instance decidableNamed : DecidablePred Named
  | .object name => inferInstanceAs (Decidable (IsTypeName name))
  | .array element => decidableNamed element
  | .void | .boolean | .byte | .short | .char | .int | .long | .float | .double => isTrue trivial

/-- The type with the dots of its names replaced. -/
def flat : TypeCode → TypeCode
  | .object name => .object (String.ofList (flatName name))
  | .array element => .array element.flat
  | t => t

/-- A character that comes out as `$` is one to cut at. -/
theorem isCut_of_flat {c : Char} (h : (if c = '.' then '$' else c) = '$') : isCut c = true := by
  unfold isCut
  split at h <;> simp_all

theorem nil_mem_splitOnP_of_cut {c : Char} (hc : isCut c = true) (s : List Char) :
    [] ∈ (c :: s).splitOnP isCut := by
  have h := List.splitOnP_append_cons (p := isCut) [] s hc
  rw [List.nil_append, List.splitOnP_nil] at h
  rw [h]
  exact List.mem_append_left _ List.mem_cons_self

/-- Without empty segments, no two separators are next to each other, and none is the last character. -/
theorem IsTypeName.spaced {name : String} (hname : IsTypeName name) : Spaced (flatName name) := by
  intro a b h
  obtain ⟨a', b', hsplit, -, hb⟩ := List.map_eq_append_iff.1 h
  obtain ⟨c, rest, rfl, hc, rfl⟩ := List.map_eq_cons_iff.1 hb
  have hsegments : ∀ segment ∈ rest.splitOnP isCut, segment ≠ [] := by
    intro segment hsegment
    apply hname segment
    rw [hsplit, List.splitOnP_append_cons _ _ (isCut_of_flat hc)]
    exact List.mem_append_right _ hsegment
  cases rest with
  | nil => exact absurd rfl (hsegments [] (by simp))
  | cons d rest =>
    refine ⟨_, _, rfl, fun hd => ?_⟩
    exact hsegments [] (nil_mem_splitOnP_of_cut (isCut_of_flat hd) rest) rfl

theorem flatName_ofList_flatName (name : String) :
    flatName (String.ofList (flatName name)) = flatName name := by
  unfold flatName
  rw [String.toList_ofList, List.map_map]
  apply List.map_congr_left
  intro c _
  by_cases hc : c = '.' <;> simp [hc]

/-- The dots of the names do not show in a code. -/
theorem code_flat (t : TypeCode) : t.flat.code = t.code := by
  induction t with
  | object name => simp only [flat, code, flatName_ofList_flatName]
  | array element ih => simp only [flat, code, ih]
  | _ => rfl

theorem flat_object_inj {name name' : String} (h : flatName name = flatName name') :
    (object name).flat = (object name').flat := by
  simp only [flat, h]

theorem code_ne_nil (t : TypeCode) : t.code ≠ [] := by cases t <;> simp [code]

/-- **Where a type ends, and which it is**, but for the dots of its names. The induction is on the array
layers. -/
theorem code_append_inj {t t' : TypeCode} (ht : t.Named) (ht' : t'.Named) {rest rest' : List Char}
    (hrest : Separated rest) (hrest' : Separated rest') (h : t.code ++ rest = t'.code ++ rest') :
    t.flat = t'.flat ∧ rest = rest' := by
  induction t generalizing t' with
  | object name =>
    cases t' with
    | object name' =>
      have hname : flatName name ++ '$' :: rest = flatName name' ++ '$' :: rest' := by
        simpa [code] using h
      obtain ⟨hflat, hsame⟩ := append_dollar_inj ht.spaced ht'.spaced hrest hrest' hname
      exact ⟨flat_object_inj hflat, hsame⟩
    | _ => simp [code] at h
  | array element ih =>
    cases t' with
    | array element' =>
      have hnamed : element'.Named := ht'
      have helement : element.code ++ rest = element'.code ++ rest' := by simpa [code] using h
      obtain ⟨hflat, hsame⟩ := ih ht hnamed helement
      exact ⟨by simp only [flat, hflat], hsame⟩
    | _ => simp [code] at h
  | _ => cases t' <;> simp_all [code, flat]

end TypeCode

namespace Signature

open TypeCode

/-! ## Parameter lists -/

/-- What follows the first parameter: nothing, or a separator and the other parameters. -/
def otherCodes : List TypeCode → List Char
  | [] => []
  | p :: rest => '$' :: paramCodes (p :: rest)

theorem paramCodes_cons (p : TypeCode) (rest : List TypeCode) :
    paramCodes (p :: rest) = p.code ++ otherCodes rest := by
  cases rest with
  | nil => exact (List.append_nil _).symm
  | cons q rest => rfl

theorem separated_otherCodes (rest : List TypeCode) : Separated (otherCodes rest) := by
  cases rest with
  | nil => exact separated_nil
  | cons p rest => exact separated_cons _

/-- What follows the first parameter tells the codes of the others. -/
theorem paramCodes_of_otherCodes {rest rest' : List TypeCode} (h : otherCodes rest = otherCodes rest') :
    paramCodes rest = paramCodes rest' := by
  cases rest with
  | nil =>
    cases rest' with
    | nil => rfl
    | cons => cases h
  | cons =>
    cases rest' with
    | nil => cases h
    | cons => exact (List.cons.inj h).2

/-- A list of parameters is not taken for the empty one: an array has an element. -/
theorem paramCodes_cons_ne (p : TypeCode) (rest : List TypeCode) : paramCodes (p :: rest) ≠ ['$'] := by
  rw [paramCodes_cons]
  intro h
  cases p with
  | array element => simp [code, code_ne_nil] at h
  | _ => simp [code] at h

theorem paramCodes_inj {params params' : List TypeCode} (hparams : ∀ p ∈ params, p.Named)
    (hparams' : ∀ p ∈ params', p.Named) (h : paramCodes params = paramCodes params') :
    params.map flat = params'.map flat := by
  induction params generalizing params' with
  | nil =>
    cases params' with
    | nil => rfl
    | cons p' rest' => exact absurd h.symm (paramCodes_cons_ne p' rest')
  | cons p rest ih =>
    cases params' with
    | nil => exact absurd h (paramCodes_cons_ne p rest)
    | cons p' rest' =>
      rw [paramCodes_cons, paramCodes_cons] at h
      obtain ⟨hp, hothers⟩ := code_append_inj (hparams p List.mem_cons_self)
        (hparams' p' List.mem_cons_self) (separated_otherCodes rest) (separated_otherCodes rest') h
      have hrest : rest.map flat = rest'.map flat :=
        ih (fun q hq => hparams q (List.mem_cons_of_mem p hq))
          (fun q hq => hparams' q (List.mem_cons_of_mem p' hq)) (paramCodes_of_otherCodes hothers)
      rw [List.map_cons, List.map_cons, hp, hrest]

theorem paramCodes_map_flat (params : List TypeCode) :
    paramCodes (params.map flat) = paramCodes params := by
  induction params with
  | nil => rfl
  | cons p rest ih =>
    rw [List.map_cons, paramCodes_cons, paramCodes_cons, code_flat]
    cases rest with
    | nil => rfl
    | cons q rest => rw [List.map_cons, otherCodes, ← List.map_cons, ih, otherCodes]

/-! ## Names of methods -/

/-- A name that may be given to a method: it is not empty and has no `$`. -/
def IsMethodName (name : String) : Prop := name ≠ "" ∧ '$' ∉ name.toList

instance : DecidablePred IsMethodName := fun name =>
  inferInstanceAs (Decidable (name ≠ "" ∧ '$' ∉ name.toList))

/-- A name that is not changed by mangling does not begin with `$`, unlike the other two. -/
theorem IsMethodName.ne_dollar {name : String} (hname : IsMethodName name) (rest rest' : List Char) :
    name.toList ++ rest ≠ '$' :: rest' := by
  intro h
  cases hchars : name.toList with
  | nil => exact hname.1 (String.toList_eq_nil_iff.1 hchars)
  | cons c cs =>
    rw [hchars] at h
    obtain ⟨rfl, -⟩ := List.cons.inj h
    exact hname.2 (hchars ▸ List.mem_cons_self)

theorem IsMethodName.splitOnP_append {name : String} (hname : IsMethodName name) (rest : List Char) :
    (name.toList ++ '$' :: rest).splitOnP (· == '$')
      = name.toList :: rest.splitOnP (· == '$') := by
  apply List.splitOnP_append_cons_of_forall_mem
  · intro c hc
    rw [beq_eq_false_iff_ne]
    rintro rfl
    exact hname.2 hc
  · rfl

/-- **Where the name of a method ends, and which it is.** -/
theorem mangleName_append_inj {a b : String} (ha : IsMethodName a) (hb : IsMethodName b)
    {rest rest' : List Char}
    (h : (mangleName a).toList ++ '$' :: rest = (mangleName b).toList ++ '$' :: rest') : a = b := by
  unfold mangleName at h
  split_ifs at h with ha₁ hb₁ hb₂ ha₂ hb₁ hb₂ hb₁ hb₂
  · rw [ha₁, hb₁]
  · simp at h
  · exact absurd h.symm (hb.ne_dollar _ _)
  · simp at h
  · rw [ha₂, hb₂]
  · exact absurd h.symm (hb.ne_dollar _ _)
  · exact absurd h (ha.ne_dollar _ _)
  · exact absurd h (ha.ne_dollar _ _)
  · have hpieces := congrArg (List.splitOnP (· == '$')) h
    rw [ha.splitOnP_append, hb.splitOnP_append] at hpieces
    exact String.toList_inj.1 (List.cons.inj hpieces).1

/-! ## Keys -/

/-- The return type is told by a key, whatever comes after it. -/
theorem key_eq_iff {s t : Signature} : s.key = t.key ↔
    s.ret.code ++ '$' :: (s.name.toList ++ '$' :: paramCodes s.params)
      = t.ret.code ++ '$' :: (t.name.toList ++ '$' :: paramCodes t.params) := by
  unfold key keyChars
  rw [String.ofList_inj]
  simp

/-- **Keys identify overloads.** Take two methods whose types have names of which no segment is empty. If
the names of the methods come out the same, their keys are the same exactly if their return types and
their parameter lists are, but for dots in place of `$`. If the names of the methods are not empty and
have no `$`, such as `<init>` and `<clinit>`, then methods with the same key have the same name. -/
theorem keys_identify_overloads {a b : String} {ret ret' : TypeCode} {params params' : List TypeCode}
    (hret : ret.Named) (hret' : ret'.Named) (hparams : ∀ p ∈ params, p.Named)
    (hparams' : ∀ p ∈ params', p.Named) :
    ((method a ret params).name = (method b ret' params').name →
      ((method a ret params).key = (method b ret' params').key ↔
        ret.flat = ret'.flat ∧ params.map flat = params'.map flat)) ∧
    (IsMethodName a → IsMethodName b →
      (method a ret params).key = (method b ret' params').key → a = b) := by
  have hends : (method a ret params).key = (method b ret' params').key →
      ret.flat = ret'.flat ∧ (mangleName a).toList ++ '$' :: paramCodes params
        = (mangleName b).toList ++ '$' :: paramCodes params' := by
    intro hkey
    obtain ⟨hflat, hrest⟩ := code_append_inj hret hret' (separated_cons _) (separated_cons _)
      (key_eq_iff.1 hkey)
    exact ⟨hflat, (List.cons.inj hrest).2⟩
  refine ⟨fun hname => ⟨fun hkey => ?_, ?_⟩, fun ha hb hkey => ?_⟩
  · obtain ⟨hflat, hrest⟩ := hends hkey
    have hsame : mangleName a = mangleName b := hname
    rw [hsame, List.append_cancel_left_eq] at hrest
    exact ⟨hflat, paramCodes_inj hparams hparams' (List.cons.inj hrest).2⟩
  · rintro ⟨hflat, hall⟩
    rw [key_eq_iff, hname]
    show ret.code ++ '$' :: (_ ++ '$' :: paramCodes params)
      = ret'.code ++ '$' :: (_ ++ '$' :: paramCodes params')
    rw [← code_flat ret, ← code_flat ret', ← paramCodes_map_flat params,
      ← paramCodes_map_flat params', hflat, hall]
  · exact mangleName_append_inj ha hb (hends hkey).2

/-- Two constructors that differ in a dot only, and one more with another number of array layers. -/
theorem keys_identify_overloads_nested :
    let dotted := method "<init>" .void [.array (.array .int), .object "a.b", .array (.object "c")]
    let flat := method "<init>" .void [.array (.array .int), .object "a$b", .array (.object "c")]
    let shallow := method "<init>" .void [.array .int, .object "a.b", .array (.object "c")]
    dotted.key = flat.key ∧ dotted.key ≠ shallow.key ∧
      ∀ name, IsMethodName name →
        (method name .void [.array (.array .int), .object "a.b", .array (.object "c")]).key
          = dotted.key → name = "<init>" := by
  intro dotted flat shallow
  have hdotted : ∀ p ∈ dotted.params, p.Named := by decide +kernel
  have hflat : ∀ p ∈ flat.params, p.Named := by decide +kernel
  have hshallow : ∀ p ∈ shallow.params, p.Named := by decide +kernel
  have hvoid : TypeCode.void.Named := trivial
  refine ⟨?_, ?_, ?_⟩
  · exact ((keys_identify_overloads (a := "<init>") (b := "<init>") hvoid hvoid hdotted hflat).1
      rfl).2 (by decide +kernel)
  · intro hkey
    have hsame := ((keys_identify_overloads (a := "<init>") (b := "<init>") hvoid hvoid hdotted
      hshallow).1 rfl).1 hkey
    revert hsame
    decide +kernel
  · intro name hname hkey
    exact (keys_identify_overloads hvoid hvoid hdotted hdotted).2 hname (by decide +kernel) hkey

end Signature

end GuestHost
