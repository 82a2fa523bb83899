import GuestHost.Host.Startup
import GuestHost.Proofs.Effects.Allocation

/-!
# Stable heaps

Over any run, with guest code in it or without, the heap keeps what it has. What is trusted by reference
for the whole run, such as class objects, wrappers, method handles and the instances that forward to a
target, cannot be overwritten as texts either: whatever writes texts refuses them.

* `refuses_setText`, `refuses_run` — writing a text to an object that takes none;
* `heap_is_stable` — what stays of a heap, what is new in it, and what is refused.
-/

namespace GuestHost

namespace Action

variable {h : Host} {r : Ref} {o : Object}

/-- An object that takes no text is refused one. -/
theorem refuses_setText (ho : h.heap.get? r = some (.object o)) (hp : ¬ o.payload.TakesText)
    (contents : String) : Refuses (setText (.ref r) contents) h := by
  have hfails : h.heap.setText r contents = .error (.mismatch "string" "object") := by
    unfold Heap.setText
    rw [Heap.object_eq_ok.2 ho]
    cases hpayload : o.payload with
    | empty | text =>
      rw [hpayload] at hp
      exact absurd trivial hp
    | host | mirror | methodHandle | methodType | factory | lambda => simp only [hpayload]
  have hupdate : Refuses (updateHeap fun heap => heap.setText r contents) h := by
    refine ⟨.mismatch "string" "object", ?_⟩
    rw [apply_updateHeap, hfails]
  refine readsOnly_get.bind_refuses fun h₀ hget => ?_
  obtain rfl : h = h₀ := by
    cases hget
    rfl
  cases h.mode with
  | direct => exact hupdate
  | exported => exact hupdate

end Action

/-! ## Natives that write texts -/

namespace TextNative

open GuestHost.Action

variable {h : Host} {args : List Value} {r : Ref} {o : Object}

/-- The natives that write to the text that is their first argument. -/
def writes : TextNative → Bool
  | .initializeFromChars | .initializeFromString | .clear | .append | .appendChars | .setLength => true
  | _ => false

/-- The first argument, where it is looked up. -/
theorem refuses_of_target {α : Type} {f : Value → Action α} (htarget : args[0]? = some (.ref r))
    (hf : Refuses (f (.ref r)) h) : Refuses (ofResult (Args.get args 0) >>= f) h := by
  rw [Args.get_eq_ok.2 htarget]
  exact hf

theorem refuses_replace (ho : h.heap.get? r = some (.object o)) (hp : ¬ o.payload.TakesText)
    (cs : List Char) : Refuses (replace (.ref r) cs) h := refuses_setText ho hp _

/-- **A native that writes texts is refused where it is aimed at an object that takes none.** -/
theorem refuses_run {native : TextNative} (hnative : native.writes = true)
    (htarget : args[0]? = some (.ref r)) (ho : h.heap.get? r = some (.object o))
    (hp : ¬ o.payload.TakesText) : Refuses (native.run args) h := by
  have hreplace : ∀ {β : Type} (cs : List Char) (f : Unit → Action β),
      Refuses (replace (.ref r) cs >>= f) h := fun cs f => (refuses_replace ho hp cs).bind f
  cases native with
  | initializeFromChars =>
    apply (readsOnly_charsArgument args).bind_refuses
    intro cs _
    exact refuses_of_target htarget (hreplace cs _)
  | initializeFromString =>
    apply (readsOnly_argText args 1).bind_refuses
    intro s _
    exact refuses_of_target htarget (hreplace s _)
  | clear => exact refuses_of_target htarget (hreplace [] _)
  | append =>
    apply refuses_of_target htarget
    apply (readsOnly_ofResult _).bind_refuses
    intro added _
    apply (readsOnly_view _).bind_refuses
    intro s _
    by_cases hnull : added.isNull = true
    · simp only [hnull, if_true]
      exact (readsOnly_pure _).bind_refuses fun t _ => hreplace _ _
    · rw [if_neg hnull]
      apply (readsOnly_view _).bind_refuses
      intro t _
      exact hreplace _ _
  | appendChars =>
    apply refuses_of_target htarget
    apply (readsOnly_charsArgument args).bind_refuses
    intro added _
    exact (readsOnly_view _).bind_refuses fun s _ => hreplace _ _
  | setLength =>
    apply refuses_of_target htarget
    apply (readsOnly_ofResult _).bind_refuses
    intro n _
    apply (readsOnly_ofResult _).bind_refuses
    intro n _
    exact (readsOnly_view _).bind_refuses fun s _ => hreplace _ _
  | _ => cases hnative

end TextNative

/-! ## Stability -/

namespace Host

variable {h h' : Host}

/-- **Heaps are stable.** Take a host, and what becomes of it by operations, natives, calls and programs.

Every entry is still there: an object is of the same class, an array has the same length, and a payload
is the same but for texts, host values, and objects without a payload that hold a text now.

A reference that is handed out by what allocates now is none that the host had at any time before, and
none that was handed out before, as long as 32-bit references suffice.

An object that had a payload other than a text, such as a class object, a wrapper, a method handle or an
instance that forwards to a target, takes no text now: replacing its text and every native that writes
texts meet a fault and leave the host as it is. -/
theorem heap_is_stable (huses : h.Uses h') :
    (∀ r e, h.heap.get? r = some e → ∃ e', h'.heap.get? r = some e' ∧ e.Stays e') ∧
    (∀ (r : Ref) (next : Host), h'.Allocates r next → next.heap.size ≤ 2 ^ 32 →
      h'.heap.IsNew next.heap r ∧ h.heap.get? r = none ∧
        ∀ (earlier : Host) (r' : Ref), earlier.Allocates r' h → r' ≠ r) ∧
    ∀ r o, h.heap.get? r = some (.object o) → ¬ o.payload.TakesText →
      (∀ contents, ∃ fault, (Action.setText (.ref r) contents).apply h' = (.error fault, h')) ∧
      ∀ (native : TextNative) (args : List Value), native.writes = true → args[0]? = some (.ref r) →
        ∃ fault, (native.run args).apply h' = (.error fault, h') := by
  have hgrows : h.heap.Grows h'.heap := huses.effects.grows
  refine ⟨fun r e => hgrows.entries, ?_, ?_⟩
  · intro r next halloc hroom
    have hnew := halloc.isNew hroom
    have hnone : h.heap.get? r = none := (hnew.of_grows hgrows).1
    refine ⟨hnew, hnone, ?_⟩
    rintro earlier r' hearlier rfl
    -- The earlier reference is there at the start, but the new one is not.
    have hsize : h.heap.size ≤ next.heap.size :=
      Nat.le_trans hgrows.size halloc.effects.grows.size
    obtain ⟨-, e, hr'⟩ := hearlier.isNew (Nat.le_trans hsize hroom)
    rw [hnone] at hr'
    cases hr'
  · intro r o ho hp
    obtain ⟨o', ho', hp'⟩ := hgrows.not_takesText ho hp
    refine ⟨Action.refuses_setText ho' hp', ?_⟩
    intro native args hnative htarget
    exact TextNative.refuses_run hnative htarget ho' hp'

/-- A class object, after a string was made: it is as it was, and takes no text. -/
theorem heap_is_stable_for_mirror :
    let setup : Setup :=
      { config := {}, source := some (.staged (.ofList [])), imports := .standard, attached := none,
        outside := .nothing, surroundings := { millis := 0, seed := 0 } }
    let made : Op Body := .newText .string "log"
    ∃ start h h', setup.build = .ok start ∧ h = ((Action.classMirror CoreClass.string).apply start).2 ∧
      h' = (made.apply.apply h).2 ∧ h.Uses h' ∧
      h.heap.get? ⟨0⟩ = some (.object ⟨CoreClass.classObject, .empty, .mirror CoreClass.string⟩) ∧
      (∃ o, h'.heap.get? ⟨0⟩ = some (.object o) ∧ o.payload = .mirror CoreClass.string) ∧
      ∃ fault, (Action.setText (.ref ⟨0⟩) "log").apply h' = (.error fault, h') := by
  intro setup made
  let start : Host :=
    { config := {}, heap := .empty, registry := CoreClass.registry, linkage := .empty,
      files := FileTable.empty.enable, source := .staged (.ofList []), imports := .standard,
      attached := none, surroundings := { millis := 0, seed := 0 } }
  let h : Host := ((Action.classMirror CoreClass.string).apply start).2
  have huses : h.Uses (made.apply.apply h).2 := .single (.op h made)
  have hmirror : h.heap.get? ⟨0⟩
      = some (.object ⟨CoreClass.classObject, .empty, .mirror CoreClass.string⟩) := by decide +kernel
  obtain ⟨hstays, -, hrefused⟩ := heap_is_stable huses
  obtain ⟨e', he', hentry⟩ := hstays _ _ hmirror
  obtain ⟨o', rfl, -, hpayload⟩ := hentry.object
  exact ⟨start, h, _, rfl, rfl, rfl, huses, hmirror, ⟨o', he', hpayload⟩,
    (hrefused _ _ hmirror id).1 "log"⟩

end Host

end GuestHost
