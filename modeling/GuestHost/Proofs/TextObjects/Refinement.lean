import GuestHost.Host.Startup
import GuestHost.Natives.Text
import GuestHost.Proofs.Arguments
import GuestHost.Proofs.TextObjects.Access

/-!
# Text objects are lists of scalar values

Strings, string builders and string buffers are kept as encoded bytes or as texts of the host, in the
heap or in a module. To guest code each is a list of scalar values and nothing else: calls that create
texts, set them up, append to them, cut and pad them or copy them do to a host what they do to one list
for each object.

* `TextCall`, `TextCall.action` — the calls, and what each does to a host;
* `TextCall.effect?` — what a call comes to on lists, unless it fails;
* `Action.Yields` — an action that only reads, with a law for every reading of an argument;
* `Host.outcome_call` — a call does to the host what it comes to on lists, or is refused;
* `Host.texts_follow_lists` — so do all calls of a sequence, one after the other.
-/

namespace GuestHost

open GuestHost.Action

/-! ## The calls -/

/-- A call that creates a text object, changes one or reads one into a new one. -/
inductive TextCall
  | new (kind : TextKind) (contents : String)
  | set (v : Value) (contents : String)
  | initializeFromChars (v array offset count : Value)
  | initializeFromString (v other : Value)
  /-- The form that makes a text empty; what it is given beside the text is not looked at. -/
  | initializeEmpty (v : Value) (further : List Value)
  | append (v added : Value)
  | appendChars (v array offset count : Value)
  | setLength (v length : Value)
  | toString (v : Value)
deriving Repr, DecidableEq

/-- What a call does to the host. -/
def TextCall.action : TextCall → Action Value
  | .new kind contents => Action.newText kind contents
  | .set v contents => do
    Action.setText v contents
    return .null
  | .initializeFromChars v array offset count =>
    TextNative.run .initializeFromChars [v, array, offset, count]
  | .initializeFromString v other => TextNative.run .initializeFromString [v, other]
  | .initializeEmpty v further => TextNative.run .clear (v :: further)
  | .append v added => TextNative.run .append [v, added]
  | .appendChars v array offset count => TextNative.run .appendChars [v, array, offset, count]
  | .setLength v length => TextNative.run .setLength [v, length]
  | .toString v => TextNative.run .toString [v]

/-! ## What they mean on lists -/

/-- The scalar value with a number, if there is one. -/
def Text.withNumber? (n : Int) : Option Char :=
  (some (Char.ofNat n.toNat)).filter fun c => (c.toNat : Int) = n

/-- The natural number that a value holds, if it holds one. -/
def Value.toNat? (v : Value) : Option Nat :=
  v.toInt?.bind fun i => if 0 ≤ i.toInt then some i.toInt.toNat else none

/-- What a call comes to on lists of scalar values. -/
inductive TextEffect
  /-- The list of an object is replaced, and the call gives an answer. -/
  | write (v : Value) (cs : List Char) (answer : Value)
  /-- A new object has a list, and is the answer. -/
  | create (cs : List Char)
deriving Repr, DecidableEq

namespace Contents

/-- Replaces the list of an object that has one; null is no object. -/
def writing? (c : Contents Value) (v : Value) (cs : List Char) (answer : Value) :
    Option TextEffect :=
  if v = .null ∨ c.texts v = none then none else some (.write v cs answer)

/-- What a value adds to a list: null adds a word. -/
def word? (c : Contents Value) (v : Value) : Option (List Char) :=
  if v = .null then some "null".toList else c.texts v

/-- The scalar values among `count` elements of an array from `offset` on, which must be there; an
element that is no int stands for zero. -/
def chars? (c : Contents Value) (array offset count : Value) : Option (List Char) := do
  let first ← offset.toNat?
  let n ← count.toNat?
  let items ← c.arrays array
  if first + n ≤ items.length then
    some (((items.drop first).take n).filterMap fun v => Text.withNumber? (v.toInt?.getD 0).toInt)
  else none

end Contents

/-- What a call comes to, unless it fails. -/
def TextCall.effect? (c : Contents Value) : TextCall → Option TextEffect
  | .new _ contents => some (.create contents.toList)
  | .set v contents => c.writing? v contents.toList .null
  | .initializeFromChars v array offset count => do
    let cs ← c.chars? array offset count
    c.writing? v cs .null
  | .initializeFromString v other => do
    let cs ← c.texts other
    c.writing? v cs .null
  | .initializeEmpty v _ => c.writing? v [] .null
  | .append v added => do
    let cs ← c.texts v
    let more ← c.word? added
    c.writing? v (cs ++ more) v
  | .appendChars v array offset count => do
    let more ← c.chars? array offset count
    let cs ← c.texts v
    c.writing? v (cs ++ more) v
  | .setLength v length => do
    let n ← length.toNat?
    let cs ← c.texts v
    c.writing? v (cs.takeD n '\x00') .null
  | .toString v => do
    let cs ← c.texts v
    some (.create cs)

/-! ## What natives read -/

theorem Text.withNumber?_natCast (n : Nat) :
    withNumber? n = if n.isValidChar then some (Char.ofNat n) else none := by
  unfold withNumber?
  rw [Option.filter_some, Int.toNat_natCast]
  by_cases hvalid : n.isValidChar
  · have hnumber : (Char.ofNat n).toNat = n := Utf8.toNat_ofNat hvalid
    simp [hnumber, hvalid]
  · -- Zero is the number of a character.
    have hzero : (0 : Int) ≠ n := by
      intro h0
      obtain rfl : n = 0 := by omega
      exact hvalid (by decide)
    have hnumber : (Char.ofNat n).toNat = 0 := by
      rw [Char.ofNat, dif_neg hvalid]
      rfl
    simp [hnumber, hvalid, hzero]

theorem Text.scalar?_eq_withNumber? (i : Int32) : scalar? i = withNumber? i.toInt := by
  unfold scalar?
  by_cases hneg : i.toInt < 0
  · rw [if_pos (Int32.lt_iff_toInt_lt.2 hneg)]
    unfold withNumber?
    rw [Option.filter_some, if_neg]
    simp only [decide_eq_true_eq]
    omega
  · rw [if_neg fun hlt => hneg (Int32.lt_iff_toInt_lt.1 hlt)]
    have hnat : i.toInt = (i.toInt.toNat : Int) := by omega
    conv_rhs => rw [hnat]
    exact (withNumber?_natCast _).symm

-- A surrogate is no scalar value.
example : Text.scalar? 0xD800 = none := by decide

theorem Text.ofScalars_eq (values : List Value) :
    ofScalars (values.map fun v => v.toInt?.getD 0)
      = values.filterMap fun v => withNumber? (v.toInt?.getD 0).toInt := by
  unfold ofScalars
  rw [List.filterMap_map]
  exact congrArg (List.filterMap · values) (funext fun v => scalar?_eq_withNumber? _)

/-- Whether the signs of the two numbers are looked at before or after the array makes no
difference. -/
theorem Contents.chars?_eq (c : Contents Value) (array offset count : Value) :
    c.chars? array offset count = offset.toInt?.bind fun first => count.toInt?.bind fun n =>
      (c.arrays array).bind fun items =>
        (Args.range first n items.length).toOption.map fun p =>
          Text.ofScalars (((items.drop p.1).take p.2).map fun v => v.toInt?.getD 0) := by
  unfold chars? Value.toNat?
  simp only [Args.toOption_range, Text.ofScalars_eq]
  cases offset.toInt? with
  | none => rfl
  | some first =>
    cases count.toInt? with
    | none => by_cases hfirst : 0 ≤ first.toInt <;> simp [hfirst]
    | some n =>
      by_cases hfirst : 0 ≤ first.toInt <;> by_cases hn : 0 ≤ n.toInt <;>
        cases c.arrays array <;> simp [hfirst, hn]

theorem Text.setLength_eq_takeD (n : Nat) (s : List Char) : setLength n s = s.takeD n '\x00' := by
  induction n generalizing s with
  | zero => simp [setLength]
  | succ n ih =>
    cases s with
    | nil => simp [setLength, List.replicate_succ]
    | cons c rest =>
      have hrest := ih rest
      unfold setLength at hrest ⊢
      simp [← hrest]

/-! ## Actions that only read -/

variable {α β : Type} {h : Host}

/-- The action changes nothing; it gives a result if there is one to give, and else is refused. -/
def Action.Yields (a : Action α) (h : Host) : Option α → Prop
  | some x => a.apply h = (.ok x, h)
  | none => Refuses a h

namespace Action

theorem yields_ofResult (r : Except Fault α) : Yields (ofResult r) h r.toOption := by
  cases r with
  | ok x => rfl
  | error fault => exact ⟨fault, rfl⟩

theorem yields_view (f : Host → Except Fault α) : Yields (view f) h (f h).toOption :=
  yields_ofResult (f h)

theorem Yields.congr {a b : Action α} {o : Option α} (hb : Yields b h o)
    (heq : a.apply h = b.apply h) : Yields a h o := by
  cases o with
  | none =>
    obtain ⟨fault, hfault⟩ := hb
    exact ⟨fault, heq.trans hfault⟩
  | some x => exact heq.trans hb

theorem Yields.bind {a : Action α} {o : Option α} (ha : Yields a h o) {f : α → Action β}
    {g : α → Option β} (hf : ∀ x, Yields (f x) h (g x)) : Yields (a >>= f) h (o.bind g) := by
  cases o with
  | none => exact Refuses.bind ha f
  | some x => exact (hf x).congr (apply_bind_of_ok ha f)

theorem Yields.map {a : Action α} {o : Option α} (ha : Yields a h o) (f : α → β) :
    Yields (do return f (← a)) h (o.map f) := by
  rw [Option.map_eq_bind]
  exact ha.bind fun x => (rfl : (pure (f x) : Action β).apply h = (.ok (f x), h))

theorem yields_int {args : List Value} {i : Nat} {v : Value} (hv : args[i]? = some v) :
    Yields (ofResult (Args.int args i)) h v.toInt? := by
  have harg : Args.int args i = v.expectInt := by
    unfold Args.int
    rw [Args.get_eq_ok.2 hv]
    rfl
  rw [harg, ← Args.toOption_expectInt]
  exact yields_ofResult _

theorem yields_text (v : Value) :
    Yields (do return (← Action.text v).toList) h (h.contents.texts v) :=
  (yields_view fun h => h.text v).map String.toList

theorem yields_textArgument {args : List Value} {i : Nat} {v : Value} (hv : args[i]? = some v) :
    Yields (Args.text args i) h (h.contents.texts v) := by
  unfold Args.text
  rw [Args.get_eq_ok.2 hv]
  exact yields_text v

theorem yields_charsOfArray (array : Value) (offset count : Int32) :
    Yields (TextNative.charsOfArray array offset count) h
      ((h.contents.arrays array).bind fun items =>
        (Args.range offset count items.length).toOption.map fun p =>
          Text.ofScalars (((items.drop p.1).take p.2).map fun v => v.toInt?.getD 0)) :=
  (yields_view fun h => h.arrayValues array).bind fun _ => (yields_ofResult _).map _

theorem yields_charsArgument (v array offset count : Value) :
    Yields (TextNative.charsArgument [v, array, offset, count]) h
      (h.contents.chars? array offset count) := by
  rw [Contents.chars?_eq]
  refine Yields.congr (b := ofResult (Args.int [v, array, offset, count] 2) >>= _) ?_
    (apply_bind_of_ok rfl _)
  exact (yields_int rfl).bind fun _ => (yields_int rfl).bind fun _ => yields_charsOfArray _ _ _

end Action

/-! ## One call -/

/-- What is left of a call that comes to an effect: the effect is carried out, and a call without one
is refused. -/
inductive Host.Outcome (h : Host) : Option TextEffect → Except Fault Value × Host → Prop
  | refused (fault : Fault) : Outcome h none (.error fault, h)
  | wrote {v answer : Value} {cs : List Char} {h' : Host} (holds : h'.HoldsTexts)
    (size : h'.storeSize = h.storeSize) (contents : h'.contents = h.contents.write v cs) :
    Outcome h (some (.write v cs answer)) (.ok answer, h')
  | created {v : Value} {cs : List Char} {h' : Host} (holds : h'.HoldsTexts)
    (size : h'.storeSize = h.storeSize + 1)
    (contents : h.storeSize < 2 ^ 32 →
      h.contents.texts v = none ∧ h'.contents = h.contents.write v cs) :
    Outcome h (some (.create cs)) (.ok v, h')

namespace Host

theorem Outcome.of_refuses {a : Action Value} (ha : Refuses a h) : h.Outcome none (a.apply h) := by
  obtain ⟨fault, hfault⟩ := ha
  rw [hfault]
  exact .refused fault

/-- What is only read on the way has no part in the outcome. -/
theorem Outcome.bind {a : Action α} {o : Option α} (ha : Yields a h o) {f : α → Action Value}
    {g : α → Option TextEffect} (hf : ∀ x, h.Outcome (g x) ((f x).apply h)) :
    h.Outcome (o.bind g) ((a >>= f).apply h) := by
  cases o with
  | none => exact .of_refuses (Refuses.bind ha f)
  | some x =>
    rw [apply_bind_of_ok ha f]
    exact hf x

theorem outcome_setText (hh : h.HoldsTexts) (v : Value) (s : String) (answer : Value) :
    h.Outcome (h.contents.writing? v s.toList answer)
      ((do Action.setText v s; return answer).apply h) := by
  unfold Contents.writing?
  split
  next hnone =>
    have hrefused := setText_refused hh (fun hv => hnone.resolve_left hv) s
    exact .of_refuses (hrefused.bind _)
  next hsome =>
    obtain ⟨hv, htext⟩ := not_or.1 hsome
    obtain ⟨cs, hcs⟩ := Option.ne_none_iff_exists'.1 htext
    obtain ⟨h', hset, hholds, hsize, hcontents⟩ := setText_of_text hh hv hcs s
    rw [apply_bind_of_ok hset]
    exact .wrote hholds hsize hcontents

theorem outcome_replace (hh : h.HoldsTexts) (v : Value) (cs : List Char) (answer : Value) :
    h.Outcome (h.contents.writing? v cs answer)
      ((do TextNative.replace v cs; return answer).apply h) := by
  have hset := outcome_setText hh v (String.ofList cs) answer
  rwa [String.toList_ofList] at hset

theorem outcome_newText (hh : h.HoldsTexts) (kind : TextKind) (s : String) :
    h.Outcome (some (.create s.toList)) ((Action.newText kind s).apply h) := by
  obtain ⟨v, h', hnew, hholds, hsize, hcontents⟩ := newText_of_holdsTexts hh kind s
  rw [hnew]
  exact .created hholds hsize hcontents

theorem Outcome.bind_argument {args : List Value} {i : Nat} {v : Value} (hv : args[i]? = some v)
    {f : Value → Action Value} {e : Option TextEffect} (hf : h.Outcome e ((f v).apply h)) :
    h.Outcome e ((ofResult (Args.get args i) >>= f).apply h) := by
  rwa [Args.get_eq_ok.2 hv, apply_bind_of_ok (apply_ofResult _)]

theorem Outcome.bind_text {v : Value} {f : String → Action Value}
    {g : List Char → Option TextEffect} (hf : ∀ s, h.Outcome (g s.toList) ((f s).apply h)) :
    h.Outcome ((h.contents.texts v).bind g) ((Action.text v >>= f).apply h) := by
  show h.Outcome ((readText (h.text v)).bind g) _
  unfold readText
  rw [Option.bind_map]
  exact .bind (yields_view fun h => h.text v) hf

theorem outcome_append (hh : h.HoldsTexts) (v added : Value) :
    h.Outcome ((TextCall.append v added).effect? h.contents)
      ((TextNative.runAppend [v, added]).apply h) := by
  -- The text is read before it is replaced, so one that is appended to itself is doubled.
  refine .bind_argument rfl (.bind_argument rfl (.bind_text fun s => ?_))
  by_cases hnull : added = .null
  · subst hnull
    exact outcome_replace hh v (s.toList ++ "null".toList) v
  · have hnot : ¬ added.isNull = true := by
      cases added <;> simp_all [Value.isNull]
    simp only [Contents.word?, if_neg hnull, if_neg hnot]
    exact .bind_text fun t => outcome_replace hh v (s.toList ++ t.toList) v

theorem outcome_appendChars (hh : h.HoldsTexts) (v array offset count : Value) :
    h.Outcome ((TextCall.appendChars v array offset count).effect? h.contents)
      ((TextNative.runAppendChars [v, array, offset, count]).apply h) := by
  refine .bind_argument rfl (.bind (yields_charsArgument v array offset count) fun more => ?_)
  exact .bind_text fun s => outcome_replace hh v (s.toList ++ more) v

theorem outcome_initializeFromChars (hh : h.HoldsTexts) (v array offset count : Value) :
    h.Outcome ((TextCall.initializeFromChars v array offset count).effect? h.contents)
      ((TextNative.runInitializeFromChars [v, array, offset, count]).apply h) := by
  refine .bind (yields_charsArgument v array offset count) fun cs => ?_
  exact .bind_argument rfl (outcome_replace hh v cs .null)

theorem outcome_initializeFromString (hh : h.HoldsTexts) (v other : Value) :
    h.Outcome ((TextCall.initializeFromString v other).effect? h.contents)
      ((TextNative.runInitializeFromString [v, other]).apply h) := by
  refine .bind (yields_textArgument rfl) fun cs => ?_
  exact .bind_argument rfl (outcome_replace hh v cs .null)

theorem outcome_setLength (hh : h.HoldsTexts) (v length : Value) :
    h.Outcome ((TextCall.setLength v length).effect? h.contents)
      ((TextNative.runSetLength [v, length]).apply h) := by
  refine .bind_argument rfl ?_
  show h.Outcome ((length.toInt?.bind _).bind _) _
  rw [Option.bind_assoc]
  refine .bind (yields_int rfl) fun i => ?_
  rw [← Args.toOption_natOf i .negativeLength]
  refine .bind (yields_ofResult _) fun n => .bind_text fun s => ?_
  rw [← Text.setLength_eq_takeD]
  exact outcome_replace hh v _ .null

/-- A call does to the host what it comes to on lists. -/
theorem outcome_call (hh : h.HoldsTexts) (call : TextCall) :
    h.Outcome (call.effect? h.contents) (call.action.apply h) := by
  cases call with
  | new kind s => exact outcome_newText hh kind s
  | set v s => exact outcome_setText hh v s .null
  | initializeFromChars v array offset count =>
    exact outcome_initializeFromChars hh v array offset count
  | initializeFromString v other => exact outcome_initializeFromString hh v other
  | initializeEmpty v further => exact .bind_argument rfl (outcome_replace hh v [] .null)
  | append v added => exact outcome_append hh v added
  | appendChars v array offset count => exact outcome_appendChars hh v array offset count
  | setLength v length => exact outcome_setLength hh v length
  | toString v =>
    refine .bind (yields_textArgument rfl) fun cs => ?_
    have hnew := outcome_newText hh .string (String.ofList cs)
    rwa [String.toList_ofList] at hnew

end Host

/-! ## Runs of calls -/

/-- A step of the lists: what they are after a call with the given result. -/
inductive TextStep (c : Contents Value) (call : TextCall) :
    Except Fault Value → Contents Value → Prop
  /-- A call that comes to nothing fails and leaves everything as it is. -/
  | fails {fault : Fault} (h : call.effect? c = none) : TextStep c call (.error fault) c
  /-- The list of one object is replaced. -/
  | writes {v answer : Value} {cs : List Char} (h : call.effect? c = some (.write v cs answer)) :
    TextStep c call (.ok answer) (c.write v cs)
  /-- An object that was not there before has a list. -/
  | creates {v : Value} {cs : List Char} (h : call.effect? c = some (.create cs))
    (fresh : c.texts v = none) : TextStep c call (.ok v) (c.write v cs)

/-- The host holds these lists: they are what it finds behind values, and a text's length is the number
of scalar values of its list. -/
structure Host.Represents (h : Host) (c : Contents Value) : Prop where
  contents : h.contents = c
  length : ∀ v cs, c.texts v = some cs →
    (TextNative.run .length [v]).apply h = (.ok (.int (Int32.ofNat cs.length)), h)

/-- The host holds the lists before, between and after the calls, each of which is a step of the lists;
a call that fails does not change the host at all. -/
inductive Host.Follows : Host → Contents Value → List TextCall → Prop
  | done {h : Host} {c : Contents Value} (represents : h.Represents c) : Follows h c []
  | call {h : Host} {c c' : Contents Value} {call : TextCall} {rest : List TextCall}
    (represents : h.Represents c) (step : TextStep c call (call.action.apply h).1 c')
    (unchanged : ∀ fault, (call.action.apply h).1 = .error fault → (call.action.apply h).2 = h)
    (next : Follows (call.action.apply h).2 c' rest) : Follows h c (call :: rest)

namespace Host

/-- The host after a sequence of calls, which goes on after a call that fails. -/
def afterCalls (h : Host) (calls : List TextCall) : Host :=
  calls.foldl (fun h call => (call.action.apply h).2) h

theorem represents_contents (h : Host) : h.Represents h.contents := by
  refine ⟨rfl, fun v cs hcs => ?_⟩
  have hlength : Yields (TextNative.run .length [v]) h
      ((h.contents.texts v).map fun cs => Value.int (Int32.ofNat cs.length)) :=
    (yields_textArgument rfl).map _
  rw [hcs] at hlength
  exact hlength

variable {e : Option TextEffect} {outcome : Except Fault Value × Host} {calls : List TextCall}

/-- A call adds at most one entry to the store. -/
theorem Outcome.grows (ho : h.Outcome e outcome) (hh : h.HoldsTexts) :
    outcome.2.HoldsTexts ∧ h.storeSize ≤ outcome.2.storeSize ∧
      outcome.2.storeSize ≤ h.storeSize + 1 := by
  cases ho with
  | refused => exact ⟨hh, Nat.le_refl _, Nat.le_succ _⟩
  | wrote holds size => exact ⟨holds, size.ge, size ▸ Nat.le_succ _⟩
  | created holds size => exact ⟨holds, size ▸ Nat.le_succ _, size.le⟩

theorem Outcome.unchanged (ho : h.Outcome e outcome) {fault : Fault}
    (hfault : outcome.1 = .error fault) : outcome.2 = h := by
  cases ho with
  | refused => rfl
  | wrote | created => cases hfault

theorem storeSize_le_afterCalls (hh : h.HoldsTexts) (calls : List TextCall) :
    h.storeSize ≤ (h.afterCalls calls).storeSize := by
  induction calls generalizing h with
  | nil => exact Nat.le_refl _
  | cons call rest ih =>
    obtain ⟨hholds, hle, -⟩ := (outcome_call hh call).grows hh
    exact hle.trans (ih hholds)

theorem storeSize_afterCalls_le (hh : h.HoldsTexts) (calls : List TextCall) :
    (h.afterCalls calls).storeSize ≤ h.storeSize + calls.length := by
  induction calls generalizing h with
  | nil => exact Nat.le_refl _
  | cons call rest ih =>
    obtain ⟨hholds, -, hle⟩ := (outcome_call hh call).grows hh
    have hrest := ih hholds
    rw [List.length_cons]
    exact hrest.trans (by omega)

/-- A call with its outcome is a step of the lists, as long as references do not run out. -/
theorem Outcome.step {call : TextCall} (ho : h.Outcome (call.effect? h.contents) outcome)
    (hroom : outcome.2.storeSize ≤ 2 ^ 32) :
    TextStep h.contents call outcome.1 outcome.2.contents := by
  cases he : call.effect? h.contents with
  | none =>
    rw [he] at ho
    cases ho
    exact .fails he
  | some effect =>
    rw [he] at ho
    cases ho with
    | wrote holds size contents => exact contents ▸ .writes he
    | @created v cs h' holds size contents =>
      have hlt : h'.storeSize ≤ 2 ^ 32 := hroom
      obtain ⟨hfresh, hcontents⟩ := contents (by omega)
      exact hcontents ▸ .creates he hfresh

/-- **Text objects are lists of scalar values.** Whatever the mode of a host that keeps its texts in memory,
any sequence of calls on its texts does to it what the calls do to one list for each object: before, between
and after the calls the host finds these lists behind values, and counts their scalar values as lengths. A
call that fails leaves the host as it is; one that gives a new object gives one that was not there before, so
that what is written to either of the two is not seen in the other. References are 32-bit, so this holds as
long as the store in which the host keeps its texts has at most `2 ^ 32` entries. -/
theorem texts_follow_lists (h : Host) (calls : List TextCall) (hh : h.HoldsTexts)
    (hroom : (h.afterCalls calls).storeSize ≤ 2 ^ 32) : h.Follows h.contents calls := by
  induction calls generalizing h with
  | nil => exact .done h.represents_contents
  | cons call rest ih =>
    have houtcome := outcome_call hh call
    obtain ⟨hholds, -⟩ := houtcome.grows hh
    -- The store never becomes smaller, so there is room for this call if there is in the end.
    have hnext : (call.action.apply h).2.storeSize ≤ 2 ^ 32 :=
      (storeSize_le_afterCalls hholds rest).trans hroom
    exact .call h.represents_contents (houtcome.step hnext) (fun _ => houtcome.unchanged)
      (ih _ hholds hroom)

/-- A builder in a module that is appended to itself, gets null and characters of an array, is cut and is
copied; then null is to be set. -/
theorem texts_follow_lists_in_module :
    let h : Host :=
      { config := { mode := .exported }, heap := .empty, registry := CoreClass.registry,
        linkage := .empty, files := .empty, source := .staged (.ofList []), imports := .standard,
        attached := some (.arena ⟨"guest", #[.array ("xyz".toList.map .ofChar)]⟩),
        surroundings := { millis := 0, seed := 0 } }
    let calls : List TextCall :=
      [.new .builder "é", .append (.handle 1) (.handle 1), .append (.handle 1) .null,
        .appendChars (.handle 1) (.handle 0) (.int 1) (.int 2), .setLength (.handle 1) (.int 9),
        .toString (.handle 1), .set .null "x"]
    h.HoldsTexts ∧ (h.afterCalls calls).storeSize ≤ 2 ^ 32 ∧ h.Follows h.contents calls := by
  intro h calls
  have hh : h.HoldsTexts := fun _ => ⟨_, rfl⟩
  have hroom : (h.afterCalls calls).storeSize ≤ 2 ^ 32 :=
    (storeSize_afterCalls_le hh calls).trans (by decide)
  exact ⟨hh, hroom, texts_follow_lists h calls hh hroom⟩

end Host

end GuestHost
