import GuestHost.Host.Dispatch
import GuestHost.Proofs.Effects.Actions
import GuestHost.Proofs.Streams.Natives

/-!
# The effects of natives

Every native that the host provides and that enters no guest code changes the host by effects, with no
deed among them: a native opens files only if they may be opened, replaces no host value, and makes
objects of such factories only as the host made.

There is one lemma for each native that takes more than one step, and one for each kind of natives.
-/

namespace GuestHost

open GuestHost.Action

variable {α β : Type} {may : Deed → Prop} {args : List Value}

/-! ## Natives on texts and numbers -/

namespace TextNative

theorem readsOnly_argText (args : List Value) (i : Nat) : ReadsOnly (Args.text args i) := by
  apply (readsOnly_ofResult _).bind
  intro v
  apply (readsOnly_view _).bind
  intro s
  exact readsOnly_pure _

theorem acts_argText (args : List Value) (i : Nat) : Acts may (Args.text args i) :=
  (readsOnly_argText args i).acts

theorem acts_newText (cs : List Char) : Acts may (newText cs) := acts_newString _

theorem acts_replace (v : Value) (cs : List Char) : Acts may (replace v cs) := acts_setText v _

theorem readsOnly_charsArgument (args : List Value) : ReadsOnly (charsArgument args) := by
  apply (readsOnly_ofResult _).bind
  intro array
  apply (readsOnly_ofResult _).bind
  intro offset
  apply (readsOnly_ofResult _).bind
  intro count
  apply (readsOnly_view _).bind
  intro values
  apply (readsOnly_ofResult _).bind
  intro w
  exact readsOnly_pure _

theorem acts_charsArgument (args : List Value) : Acts may (charsArgument args) :=
  (readsOnly_charsArgument args).acts

theorem acts_charAt (args : List Value) : Acts may (runCharAt args) := by
  refine (acts_argText args 0).bind fun s => (acts_ofResult _).bind fun i => ?_
  cases s[i]? with
  | some c => exact acts_pure _
  | none => exact acts_fail _

theorem acts_getChars (args : List Value) : Acts may (runGetChars args) :=
  (acts_argText args 0).bind fun _ => (acts_ofResult _).bind fun _ =>
    (acts_ofResult _).bind fun _ => (acts_ofResult _).bind fun _ =>
      (acts_ofResult _).bind fun _ => (acts_ofResult _).bind fun _ =>
        (acts_arrayFill _ _ _).bind fun _ => acts_pure _

theorem acts_equals (args : List Value) : Acts may (runEquals args) := by
  refine (acts_ofResult _).bind fun other => ?_
  by_cases hnull : other.isNull = true
  · simp only [hnull, if_true]
    exact acts_pure _
  · simp only [hnull]
    exact (acts_argText args 0).bind fun s => (acts_text other).bind fun t => acts_pure _

theorem acts_equalsIgnoringCase (args : List Value) : Acts may (runEqualsIgnoringCase args) := by
  refine (acts_ofResult _).bind fun a => (acts_ofResult _).bind fun b => ?_
  by_cases hnull : (a.isNull || b.isNull) = true
  · simp only [hnull, if_true]
    exact acts_pure _
  · simp only [hnull]
    exact (acts_text a).bind fun s => (acts_text b).bind fun t => acts_pure _

theorem acts_append (args : List Value) : Acts may (runAppend args) := by
  refine (acts_ofResult _).bind fun target => (acts_ofResult _).bind fun added =>
    (acts_text target).bind fun s => ?_
  have hend : ∀ t, Acts may (do
      replace target (s.toList ++ t)
      return target : Action Value) := fun t =>
    (acts_replace target _).bind fun _ => acts_pure _
  by_cases hnull : added.isNull = true
  · simp only [hnull, if_true]
    exact (acts_pure _).bind hend
  · rw [if_neg hnull]
    exact (acts_text added).bind fun t => (acts_pure _).bind hend

/-- Every native on texts. -/
theorem acts_run (native : TextNative) (args : List Value) : Acts may (native.run args) := by
  cases native with
  | charAt => exact acts_charAt args
  | length => exact (acts_argText args 0).bind fun _ => acts_pure _
  | getChars => exact acts_getChars args
  | indexOf =>
    exact (acts_argText args 0).bind fun _ => (acts_ofResult _).bind fun _ => acts_pure _
  | lastIndexOf =>
    exact (acts_argText args 0).bind fun _ => (acts_argText args 1).bind fun _ => acts_pure _
  | trim => exact (acts_argText args 0).bind fun _ => acts_newText _
  | replicate =>
    exact (acts_argText args 0).bind fun _ => (acts_ofResult _).bind fun _ =>
      (acts_ofResult _).bind fun _ => acts_newText _
  | equals => exact acts_equals args
  | equalsIgnoringCase => exact acts_equalsIgnoringCase args
  | initializeFromChars =>
    exact (acts_charsArgument args).bind fun cs => (acts_ofResult _).bind fun v =>
      (acts_replace v cs).bind fun _ => acts_pure _
  | initializeFromString =>
    exact (acts_argText args 1).bind fun s => (acts_ofResult _).bind fun v =>
      (acts_replace v s).bind fun _ => acts_pure _
  | toCharArray => exact (acts_argText args 0).bind fun _ => acts_newArray _
  | clear =>
    exact (acts_ofResult _).bind fun v => (acts_replace v []).bind fun _ => acts_pure _
  | append => exact acts_append args
  | appendChars =>
    exact (acts_ofResult _).bind fun target => (acts_charsArgument args).bind fun added =>
      (acts_text target).bind fun s => (acts_replace target _).bind fun _ => acts_pure _
  | setLength =>
    exact (acts_ofResult _).bind fun target => (acts_ofResult _).bind fun n =>
      (acts_ofResult _).bind fun n => (acts_text target).bind fun s =>
        (acts_replace target _).bind fun _ => acts_pure _
  | toString => exact (acts_argText args 0).bind fun _ => acts_newText _

end TextNative

/-- Every native on characters. -/
theorem CharacterNative.acts_run (native : CharacterNative) (args : List Value) :
    Acts may (native.run args) := by
  refine (acts_ofResult _).bind fun c => ?_
  cases native with
  | digit => exact (acts_ofResult _).bind fun _ => acts_pure _
  | toString => exact TextNative.acts_newText _
  | isDigit | isLowercase | isUppercase | toLowercase | toUppercase => exact acts_pure _

namespace NumberNative

theorem acts_parse (args : List Value) (radix : Int32) : Acts may (parse args radix) :=
  (TextNative.acts_argText args 0).bind fun _ => acts_pure _

theorem acts_format (value : Int) (radix : Int32) : Acts may (format value radix) :=
  TextNative.acts_newText _

/-- Every native that takes numbers apart, writes or reads them. -/
theorem acts_run (native : NumberNative) (args : List Value) : Acts may (native.run args) := by
  cases native with
  | floatBits | isNaNFloat | isNaNDouble | isInfiniteFloat =>
    exact (acts_ofResult _).bind fun _ => acts_pure _
  | floatToString | doubleToString | intToHexString =>
    exact (acts_ofResult _).bind fun _ => TextNative.acts_newText _
  | intToString | longToString =>
    exact (acts_ofResult _).bind fun _ => (acts_ofResult _).bind fun _ => acts_format _ _
  | parseFloat | parseDouble => exact (TextNative.acts_argText args 0).bind fun _ => acts_pure _
  | parseByte => exact (acts_parse args 10).bind fun _ => acts_pure _
  | parseShort | parseInt | parseLong =>
    exact (acts_ofResult _).bind fun radix => (acts_parse args radix).bind fun _ => acts_pure _

end NumberNative

/-- Every native that computes. -/
theorem MathNative.acts_run (native : MathNative) (args : List Value) :
    Acts may (native.run args) := by
  cases native with
  | minInt | maxInt | minFloat =>
    exact (acts_ofResult _).bind fun _ => (acts_ofResult _).bind fun _ => acts_pure _
  | floorDouble | floorFloat | ceilDouble | ceilFloat | toRadians | cosine | sine | squareRoot
  | cubeRoot | logarithm => exact (acts_ofResult _).bind fun _ => acts_pure _
  | random => exact fun h => .single (.surroundings h _)

/-! ## Natives on classes, streams, call sites and host values -/

theorem ReflectionNative.acts_classArgument (args : List Value) : Acts may (classArgument args) :=
  (acts_ofResult _).bind fun _ => (acts_view _).bind fun cls => acts_getClassRecord cls

/-- Every native on class objects. -/
theorem ReflectionNative.acts_run (native : ReflectionNative) (args : List Value) :
    Acts may (native.run args) := by
  cases native with
  | getClass => exact (acts_ofResult _).bind fun v => acts_getClass v
  | enumConstants => exact (acts_classArgument args).bind fun _ => acts_pure _
  | className => exact (acts_classArgument args).bind fun _ => acts_newString _
  | forName =>
    exact (acts_ofResult _).bind fun v => (acts_text v).bind fun _ => acts_fail _
  | newArray =>
    exact (acts_ofResult _).bind fun _ => (acts_ofResult _).bind fun _ => acts_newArray _

namespace StreamNative

theorem acts_number (args : List Value) : Acts may (number args) := (readsOnly_number args).acts

theorem acts_window (args : List Value) : Acts may (window args) := (readsOnly_window args).acts

theorem acts_open (args : List Value) : Acts may (runOpen args) := by
  refine (acts_ofResult _).bind fun stream => (acts_ofResult _).bind fun v =>
    (acts_text v).bind fun path => (acts_openFile path).bind fun n => ?_
  by_cases hn : 0 ≤ n
  · simp only [hn, if_true]
    exact (acts_setDescriptor stream n).bind fun _ => acts_pure _
  · simp only [hn, if_false]
    exact acts_pure _

theorem acts_readBytes (args : List Value) : Acts may (runReadBytes args) := by
  refine (acts_number args).bind fun n => (acts_window args).bind fun w => ?_
  obtain ⟨array, start, length⟩ := w
  by_cases hlength : length = 0
  · simp only [hlength, if_true]
    exact acts_pure _
  · simp only [hlength, if_false]
    refine Acts.bind ?_ fun _ => (acts_arrayFill _ _ _).bind fun _ => acts_pure _
    exact acts_onFiles _ (.readBytes n length) nofun fun _ => rfl

theorem acts_close (args : List Value) : Acts may (runClose args) := by
  refine (acts_ofResult _).bind fun stream => (acts_view _).bind fun n => ?_
  by_cases hn : 0 ≤ n
  · simp only [hn, if_true]
    exact (acts_release n).bind fun _ =>
      (acts_setDescriptor stream (-1)).bind fun _ => acts_pure _
  · simp only [hn, if_false]
    exact acts_pure _

/-- Every native of file streams. -/
theorem acts_run (native : StreamNative) (args : List Value) : Acts may (native.run args) := by
  cases native with
  | openFile => exact acts_open args
  | skip =>
    exact (acts_number args).bind fun n => (acts_ofResult _).bind fun amount =>
      (acts_skip n amount).bind fun _ => acts_pure _
  | available =>
    exact (acts_number args).bind fun _ => acts_get.bind fun _ => acts_pure _
  | read =>
    exact (acts_number args).bind fun n =>
      (acts_readByte n).bind fun _ => acts_pure _
  | readBytes => exact acts_readBytes args
  | close => exact acts_close args
  | writeBytes =>
    exact (acts_number args).bind fun n => (acts_window args).bind fun _ =>
      (acts_view _).bind fun _ => (acts_ofResult _).bind fun _ =>
        (acts_write n _).bind fun _ => acts_pure _
  | writeByte =>
    exact (acts_number args).bind fun n => (acts_ofResult _).bind fun _ =>
      (acts_write n _).bind fun _ => acts_pure _
  | attributes =>
    exact (acts_ofResult _).bind fun v => (acts_text v).bind fun path =>
      (acts_fileExists path).bind fun _ => acts_pure _

end StreamNative

namespace LinkageNative

theorem acts_payloadArgument (args : List Value) (i : Nat) : Acts may (payloadArgument args i) :=
  (acts_ofResult _).bind fun _ => (acts_ofResult _).bind fun _ =>
    (acts_view _).bind fun _ => acts_pure _

/-- An argument's payload is that of an object in the heap. -/
theorem exists_object_of_payloadArgument {i : Nat} {payload : Payload} {h h' : Host}
    (hpayload : (payloadArgument args i).apply h = (.ok payload, h')) :
    h' = h ∧ ∃ r o, h.heap.get? r = some (.object o) ∧ o.payload = payload := by
  obtain ⟨v, h₁, hv, hpayload⟩ := apply_bind_eq_ok.1 hpayload
  obtain ⟨r, h₂, hr, hpayload⟩ := apply_bind_eq_ok.1 hpayload
  obtain ⟨o, h₃, ho, hpayload⟩ := apply_bind_eq_ok.1 hpayload
  obtain ⟨-, rfl⟩ := apply_ofResult_eq_ok.1 hv
  obtain ⟨-, rfl⟩ := apply_ofResult_eq_ok.1 hr
  obtain ⟨hobject, rfl⟩ := apply_view_eq_ok.1 ho
  cases hpayload
  exact ⟨rfl, r, o, Heap.object_eq_ok.1 hobject, rfl⟩

/-- The native that bootstraps lambda expressions: it bootstraps a site with a number of its own, and
makes an object of the site's factory. -/
theorem acts_metafactory (args : List Value) : Acts may (runMetafactory args) := by
  apply (acts_ofResult _).bind
  intro v
  apply (acts_view _).bind
  intro interface
  apply (acts_payloadArgument args 4).bind
  intro payload
  cases payload with
  | methodHandle handle =>
    apply acts_anonymousSite.bind
    intro site h
    apply effects_bind (acts_bootstrapSite site interface handle h)
    intro f h' hf
    exact effects_allocated (.callSite (knows_of_bootstrapSite hf))
  | empty | text | host | mirror | methodType | factory | lambda => exact acts_fail _

/-- The native that makes the handle of a call site: the factory is the one that the call site has. -/
theorem acts_siteTarget (args : List Value) : Acts may (runSiteTarget args) := by
  intro h
  apply effects_bind (acts_payloadArgument args 0 h)
  intro payload h' hpayload
  obtain ⟨rfl, r, o, ho, rfl⟩ := exists_object_of_payloadArgument hpayload
  cases hfactory : o.payload with
  | factory f => exact effects_allocated (.siteTarget (.inr ⟨r, o, ho, hfactory⟩))
  | empty | text | host | mirror | methodHandle | methodType | lambda => exact acts_fail _ _

/-- Every native that links. -/
theorem acts_run (native : LinkageNative) (args : List Value) : Acts may (native.run args) := by
  cases native with
  | metafactory => exact acts_metafactory args
  | siteTarget => exact acts_siteTarget args

end LinkageNative

namespace CharsetNative

theorem acts_charsetName (charset : Value) : Acts may (charsetName charset) := by
  refine acts_get.bind fun h => ?_
  split
  · exact acts_text _
  · exact acts_text _

theorem acts_elements (args : List Value) : Acts may (elements args) := by
  refine (acts_ofResult _).bind fun charset => ?_
  have hcharset : Acts may (requireUtf8 charset) := by
    refine (acts_charsetName charset).bind fun name => ?_
    by_cases hname : isUtf8 name = true
    · simp only [hname, if_true]
      exact acts_pure _
    · simp only [hname]
      exact acts_fail _
  exact hcharset.bind fun _ => (acts_ofResult _).bind fun _ => (acts_view _).bind fun _ =>
    acts_ofResult _

/-- Every native that transcodes. -/
theorem acts_run (native : CharsetNative) (args : List Value) : Acts may (native.run args) := by
  refine (acts_elements args).bind fun ints => ?_
  cases native with
  | decode => exact acts_newArray _
  | encode => exact acts_newArray _

end CharsetNative

/-- Every native that hands out host values. -/
theorem WrapperNative.acts_run (native : WrapperNative) (args : List Value) :
    Acts may (native.run args) := by
  cases native with
  | console | window | document | references => exact acts_wrap _ _
  | floats | ints | shorts | bytes => exact (acts_ofResult _).bind fun _ => acts_wrap _ _

end GuestHost
