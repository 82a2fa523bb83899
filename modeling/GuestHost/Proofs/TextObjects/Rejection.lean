import GuestHost.Proofs.Dispatch.Listings
import GuestHost.Proofs.Effects.Stability
import GuestHost.Proofs.Modes.Calls
import GuestHost.Proofs.Registry.Ancestry

/-!
# What is refused as a text

An object is refused as a text for its payload, and its class is never looked at. Class objects, wrappers,
method handles and the like are refused for the whole run. An object without a payload is not: it reads as
the empty text, and holds a text from its first write on, whatever its class is.

* `Host.RefusesText`, `Host.PassesAsText` — the two answers that a host has for an object;
* `Payload.Stays.takesText_iff` — which of them it has does not change;
* `Host.refusesText_iff`, `Host.passesAsText_iff` — the payload decides between them;
* `Host.passesAsText_of_allocate` — a new instance of any class passes as a text ever after;
* `Host.refusesText_by_class_iff` — the objects for which the class would decide the same.
-/

namespace GuestHost

open GuestHost.Action

/-- The natives that look at the text that is their first argument, whatever the other arguments are. The two
comparisons are not among them: they answer for null before they do. -/
def TextNative.needsText : TextNative → Bool
  | .equals | .equalsIgnoringCase => false
  | _ => true

namespace Host

/-- The class of an object is that of strings or of a builder, or extends one of them. -/
def HasTextClass (h : Host) (o : Object) : Prop :=
  ∃ kind, textClass kind ∈ h.registry.superChain o.cls

/-- An object that is refused as a text: it can neither be read nor be written as one, and no native that
looks at a text takes it. Each attempt meets a fault and changes nothing. -/
structure RefusesText (h : Host) (r : Ref) : Prop where
  text : Refuses (Action.text (.ref r)) h
  setText : ∀ contents, Refuses (Action.setText (.ref r) contents) h
  native : ∀ {owner key : String} {native : TextNative},
    h.imports.find? owner key = some ⟨.onInstance, .builtin (.text native)⟩ →
    native.needsText = true → ∀ args : List Value, args[0]? = some (.ref r) →
    ∃ fault, (Host.call (.native owner key args)).apply h = some (.error fault, h)

/-- An object that passes as a text: it is read as one, and any text can be written to it. -/
structure PassesAsText (h : Host) (r : Ref) : Prop where
  text : ∃ contents, (Action.text (.ref r)).apply h = (.ok contents, h)
  setText : ∀ contents, ∃ h', (Action.setText (.ref r) contents).apply h = (.ok (), h') ∧
    (Action.text (.ref r)).apply h' = (.ok contents, h')

/-- An object that passes as a text although its class has nothing to do with texts. -/
structure PassesInDisguise (h : Host) (o : Object) : Prop where
  notText : ¬ h.HasTextClass o
  takes : o.payload.TakesText

end Host

/-! ## Payloads -/

/-- An object takes texts at all times or at none. -/
theorem Payload.Stays.takesText_iff {p p' : Payload} (h : p.Stays p') :
    p'.TakesText ↔ p.TakesText := by
  constructor
  · intro htakes
    by_contra hp
    exact h.not_takesText hp htakes
  · intro htakes
    cases p with
    | empty =>
      rcases h with rfl | ⟨contents, rfl⟩
      · exact trivial
      · exact trivial
    | text =>
      obtain ⟨contents, rfl⟩ := h
      exact trivial
    | host | mirror | methodHandle | methodType | factory | lambda => cases htakes

namespace Heap

variable {heap : Heap} {r : Ref} {o : Object}

theorem text_of_not_takesText (ho : heap.get? r = some (.object o)) (hp : ¬ o.payload.TakesText) :
    heap.text r = .error (.mismatch "string" "object") := by
  unfold text
  rw [object_eq_ok.2 ho]
  cases hpayload : o.payload with
  | empty | text =>
    rw [hpayload] at hp
    exact absurd trivial hp
  | host | mirror | methodHandle | methodType | factory | lambda => simp only [hpayload]

theorem text_of_takesText (ho : heap.get? r = some (.object o)) (hp : o.payload.TakesText) :
    ∃ contents, heap.text r = .ok contents := by
  unfold text
  rw [object_eq_ok.2 ho]
  cases hpayload : o.payload with
  | empty => exact ⟨"", by simp only [hpayload]⟩
  | text contents => exact ⟨contents, by simp only [hpayload]⟩
  | host | mirror | methodHandle | methodType | factory | lambda =>
    rw [hpayload] at hp
    cases hp

theorem setText_of_takesText (ho : heap.get? r = some (.object o)) (hp : o.payload.TakesText)
    (contents : String) :
    heap.setText r contents = .ok (heap.put r (.object { o with payload := .text contents })) := by
  unfold setText
  rw [object_eq_ok.2 ho]
  cases hpayload : o.payload with
  | empty | text => simp only [hpayload]
  | host | mirror | methodHandle | methodType | factory | lambda =>
    rw [hpayload] at hp
    cases hp

end Heap

/-! ## Natives -/

namespace TextNative

variable {h : Host} {args : List Value} {r : Ref} {o : Object}

theorem refuses_argText (htarget : args[0]? = some (.ref r)) (ho : h.heap.get? r = some (.object o))
    (hp : ¬ o.payload.TakesText) : Refuses (Args.text args 0) h := by
  have htext : Refuses (Action.text (.ref r)) h :=
    ⟨_, (apply_view _).trans (Prod.ext (Heap.text_of_not_takesText ho hp) rfl)⟩
  exact refuses_of_target htarget (htext.bind _)

/-- **A native that looks at a text is refused where it is aimed at an object that takes none.** -/
theorem refuses_run_of_needsText {native : TextNative} (hnative : native.needsText = true)
    (htarget : args[0]? = some (.ref r)) (ho : h.heap.get? r = some (.object o))
    (hp : ¬ o.payload.TakesText) : Refuses (native.run args) h := by
  have hread := refuses_argText htarget ho hp
  cases native with
  | charAt | length | getChars | indexOf | lastIndexOf | trim | replicate | toCharArray | toString =>
    exact hread.bind _
  | initializeFromChars | initializeFromString | clear | append | appendChars | setLength =>
    exact refuses_run rfl htarget ho hp
  | equals | equalsIgnoringCase => cases hnative

end TextNative

namespace Host

variable {h h' : Host} {r : Ref} {o : Object}

/-! ## The two answers -/

theorem refusesText_of_not_takesText (ho : h.heap.get? r = some (.object o))
    (hp : ¬ o.payload.TakesText) : h.RefusesText r where
  text := ⟨_, (apply_view _).trans (Prod.ext (Heap.text_of_not_takesText ho hp) rfl)⟩
  setText := refuses_setText ho hp
  native {owner key native} hfind hneeds args htarget := by
    obtain ⟨fault, hrun⟩ := TextNative.refuses_run_of_needsText hneeds htarget ho hp
    have hargs : Dispatch.nativeArguments h.mode .onInstance args = args := by
      cases h.mode <;> rfl
    refine ⟨fault, ?_⟩
    rw [apply_call_native hfind, hargs]
    exact congrArg some hrun

theorem passesAsText_of_takesText (ho : h.heap.get? r = some (.object o))
    (hp : o.payload.TakesText) : h.PassesAsText r where
  text := by
    obtain ⟨contents, htext⟩ := Heap.text_of_takesText ho hp
    exact ⟨contents, (apply_view _).trans (Prod.ext htext rfl)⟩
  setText contents := by
    let heap := h.heap.put r (.object { o with payload := .text contents })
    have hset : (Action.setText (.ref r) contents).apply h = (.ok (), { h with heap }) := by
      rw [apply_setText_ref, apply_updateHeap_of_ok (Heap.setText_of_takesText ho hp contents)]
    have hread : heap.text r = .ok contents := by
      unfold Heap.text
      rw [Heap.object_eq_ok.2 (Heap.get?_put_self ho _)]
    exact ⟨{ h with heap }, hset, (apply_view _).trans (Prod.ext hread rfl)⟩

/-- A host has only one of the two answers for an object. -/
theorem PassesAsText.not_refusesText (hpasses : h.PassesAsText r) : ¬ h.RefusesText r := by
  intro hrefuses
  obtain ⟨contents, htext⟩ := hpasses.text
  obtain ⟨fault, hfault⟩ := hrefuses.text
  rw [htext] at hfault
  cases hfault

/-- An object is there for the whole run, and takes texts at all times or at none. -/
theorem exists_object_of_uses (huses : h.Uses h') (ho : h.heap.get? r = some (.object o)) :
    ∃ o', h'.heap.get? r = some (.object o') ∧ (o'.payload.TakesText ↔ o.payload.TakesText) := by
  obtain ⟨e, he, hstays⟩ := huses.effects.grows.entries ho
  obtain ⟨o', rfl, -, hpayload⟩ := hstays.object
  exact ⟨o', he, hpayload.takesText_iff⟩

theorem refusesText_iff (huses : h.Uses h') (ho : h.heap.get? r = some (.object o)) :
    h'.RefusesText r ↔ ¬ o.payload.TakesText := by
  obtain ⟨o', ho', hiff⟩ := exists_object_of_uses huses ho
  rw [← hiff]
  constructor
  · intro hrefuses htakes
    exact (passesAsText_of_takesText ho' htakes).not_refusesText hrefuses
  · exact refusesText_of_not_takesText ho'

theorem passesAsText_iff (huses : h.Uses h') (ho : h.heap.get? r = some (.object o)) :
    h'.PassesAsText r ↔ o.payload.TakesText := by
  obtain ⟨o', ho', hiff⟩ := exists_object_of_uses huses ho
  rw [← hiff]
  constructor
  · intro hpasses
    by_contra hp
    exact hpasses.not_refusesText (refusesText_of_not_takesText ho' hp)
  · exact passesAsText_of_takesText ho'

/-- **A new instance of any class passes as a text ever after.** -/
theorem passesAsText_of_allocate {cls : ClassId} {v : Value} {made later : Host}
    (hmade : (allocate cls).apply h = (.ok v, made)) (hroom : made.heap.size ≤ 2 ^ 32)
    (hlater : made.Uses later) : ∃ r, v = .ref r ∧ later.PassesAsText r := by
  obtain ⟨r, rfl, ho⟩ := exists_of_allocate hmade hroom
  exact ⟨r, rfl, (passesAsText_iff hlater ho).2 trivial⟩

/-! ## By class -/

/-- **What is refused as a text.** At all times of a run, an object is refused exactly if it had a payload
other than a text at any time: it can then neither be read nor be written, and every native of the host that
looks at the text that is its first argument meets a fault and changes nothing. Any other object is read and
written as a text at all times. A new instance is such an object, whatever its class is.

So an object whose class is not that of strings or of a builder, and extends none of them, is refused exactly
if it is not the case that it has no payload, or holds a text already. -/
theorem refusesText_by_class_iff (huses : h.Uses h') (ho : h.heap.get? r = some (.object o)) :
    (h'.RefusesText r ↔ ¬ o.payload.TakesText) ∧
    (h'.PassesAsText r ↔ o.payload.TakesText) ∧
    ((¬ h.HasTextClass o → h'.RefusesText r) ↔ ¬ h.PassesInDisguise o) ∧
    (∀ cls v made later, (allocate cls).apply h' = (.ok v, made) → made.heap.size ≤ 2 ^ 32 →
      made.Uses later → ∃ r, v = .ref r ∧ later.PassesAsText r) ∧
    ∀ owner key native, (owner, key, .onInstance, .text native) ∈ Builtin.textListings →
      Imports.standard.find? owner key = some ⟨.onInstance, .builtin (.text native)⟩ := by
  have hrefuses := refusesText_iff huses ho
  refine ⟨hrefuses, passesAsText_iff huses ho, ?_, ?_, ?_⟩
  · rw [hrefuses]
    constructor
    · intro hall hdisguise
      exact hall hdisguise.notText hdisguise.takes
    · intro hnot hclass htakes
      exact hnot ⟨hclass, htakes⟩
  · intro cls v made later
    exact passesAsText_of_allocate
  · intro owner key native hl
    exact Builtin.find?_of_mem_listings (Builtin.mem_listings_of_text hl)

/-- The class object of strings, after a string was made: it is refused. -/
theorem refusesText_by_class_of_mirror :
    let setup : Setup :=
      { config := {}, source := some (.staged (.ofList [])), imports := .standard, attached := none,
        outside := .nothing, surroundings := { millis := 0, seed := 0 } }
    let made : Op Body := .newText .string "log"
    ∃ start h h', setup.build = .ok start ∧ h = ((Action.classMirror CoreClass.string).apply start).2 ∧
      h' = (made.apply.apply h).2 ∧ h.Uses h' ∧
      h.heap.get? ⟨0⟩ = some (.object ⟨CoreClass.classObject, .empty, .mirror CoreClass.string⟩) ∧
      h'.RefusesText ⟨0⟩ := by
  intro setup made
  let start : Host :=
    { config := {}, heap := .empty, registry := CoreClass.registry, linkage := .empty,
      files := FileTable.empty.enable, source := .staged (.ofList []), imports := .standard,
      attached := none, surroundings := { millis := 0, seed := 0 } }
  let h : Host := ((Action.classMirror CoreClass.string).apply start).2
  have huses : h.Uses (made.apply.apply h).2 := .single (.op h made)
  have hmirror : h.heap.get? ⟨0⟩
      = some (.object ⟨CoreClass.classObject, .empty, .mirror CoreClass.string⟩) := by decide +kernel
  exact ⟨start, h, _, rfl, rfl, rfl, huses, hmirror, (refusesText_by_class_iff huses hmirror).1.2 id⟩

/-- An instance of a class that only extends the root class is no text. It reads as the empty text all the
same, and holds a text as soon as one is written to it. -/
theorem plain_object_passes_as_text :
    let setup : Setup :=
      { config := {}, source := some (.staged (.ofList [])), imports := .standard, attached := none,
        outside := .nothing, surroundings := { millis := 0, seed := 0 } }
    let define : Op Body := .define { name := "demo.Foo" }
    ∃ start defined h : Host, setup.build = .ok start ∧ defined = (define.apply.apply start).2 ∧
      (allocate 19).apply defined = (.ok (.ref ⟨0⟩), h) ∧
      h.heap.get? ⟨0⟩ = some (.object ⟨19, .empty, .empty⟩) ∧
      ¬ h.HasTextClass ⟨19, .empty, .empty⟩ ∧ ¬ h.RefusesText ⟨0⟩ ∧
      (Action.text (.ref ⟨0⟩)).apply h = (.ok "", h) ∧
      ∃ h', (Action.setText (.ref ⟨0⟩) "x").apply h = (.ok (), h') ∧
        h'.heap.get? ⟨0⟩ = some (.object ⟨19, .empty, .text "x"⟩) := by
  intro setup define
  let start : Host :=
    { config := {}, heap := .empty, registry := CoreClass.registry, linkage := .empty,
      files := FileTable.empty.enable, source := .staged (.ofList []), imports := .standard,
      attached := none, surroundings := { millis := 0, seed := 0 } }
  let defined : Host := (define.apply.apply start).2
  obtain ⟨h, hmade, ho, hfirst, hroot⟩ : ∃ h : Host,
      (allocate 19).apply defined = (.ok (.ref ⟨0⟩), h) ∧
      h.heap.get? ⟨0⟩ = some (.object ⟨19, .empty, .empty⟩) ∧
      h.registry.superclass? 19 = some rootClass ∧ h.registry.superclass? rootClass = none :=
    ⟨_, apply_eq_of_ok (by decide +kernel), by decide +kernel, by decide +kernel, by decide +kernel⟩
  have hchain : h.registry.superChain 19 = [19, rootClass] := by
    unfold Registry.superChain
    rw [Registry.chainFrom_of_some List.not_mem_nil hfirst, Registry.chainFrom_of_none (by decide) hroot]
  have hnot : ¬ h.HasTextClass ⟨19, .empty, .empty⟩ := by
    rintro ⟨kind, hkind⟩
    rw [hchain] at hkind
    revert hkind
    cases kind <;> decide
  have hread : h.heap.text ⟨0⟩ = .ok "" := by
    unfold Heap.text
    rw [Heap.object_eq_ok.2 ho]
  let heap := h.heap.put ⟨0⟩ (.object ⟨19, .empty, .text "x"⟩)
  have hwritten : (Action.setText (.ref ⟨0⟩) "x").apply h = (.ok (), { h with heap }) := by
    rw [apply_setText_ref, apply_updateHeap_of_ok (Heap.setText_of_takesText ho trivial "x")]
  exact ⟨start, defined, h, rfl, rfl, hmade, ho, hnot,
    (passesAsText_of_takesText ho trivial).not_refusesText, (apply_view _).trans (Prod.ext hread rfl),
    _, hwritten, Heap.get?_put_self ho _⟩

end Host

end GuestHost
