import GuestHost.Host.Entry
import GuestHost.Proofs.Boundary.Words
import GuestHost.Proofs.Modes.Calls
import GuestHost.Proofs.Text.Utf8

/-!
# The module boundary

A module asks for a native in bytes and words. While an entry point runs, a request has the effect that the
call of the native has, and its answer is the word of the result, or nothing if there is a fault, which the
callback then keeps.

* `Spells` — the bytes of a name; `spells_ofString`: every text without a zero character has such bytes;
* `answered`, `make_of_call` — a request that asks for a call is answered as the call ends;
* `call_of_spells` — what a request asks for, by the values of its words;
* `exists_fault_of_unknown` — a request with a word that stands for no value asks for no call.
-/

namespace GuestHost

namespace NativeRequest

variable {owner key : String} {ownerBytes keyBytes : Bytes} {c : Callback}

/-! ## Names -/

/-- The bytes up to the first zero byte are those of a text. -/
def Spells (bytes : Bytes) (s : String) : Prop := bytes.takeWhile (· ≠ 0) = Utf8.ofString s

/-- A text without a zero character is spelled by its bytes, a zero byte and whatever follows. -/
theorem spells_ofString {s : String} (hs : '\x00' ∉ s.toList) (rest : Bytes) :
    Spells (Utf8.ofString s ++ 0 :: rest) s := by
  have hzero : 0 ∉ Utf8.ofString s := Utf8.zero_not_mem_encode hs
  unfold Spells
  rw [List.takeWhile_append_of_pos]
  · simp
  · intro b hb
    simpa using fun heq : b = 0 => hzero (heq ▸ hb)

theorem textOf_of_spells {bytes : Bytes} {s : String} (hs : Spells bytes s)
    (flawed : Utf8.Flaw → ModuleFault) : textOf flawed bytes = .ok s := by
  unfold textOf
  rw [show bytes.takeWhile (· ≠ 0) = Utf8.ofString s from hs, Utf8.ofString, Utf8.decode_encode]
  exact congrArg Except.ok String.ofList_toList

/-! ## Requests -/

/-- A request with names that are spelled asks for the native that has them, with the values of its
words. -/
theorem call_of_spells (howner : Spells ownerBytes owner) (hkey : Spells keyBytes key)
    (words : List Word) :
    call ⟨some ownerBytes, some keyBytes, words⟩
      = (Word.toValues words).map fun args => .native owner key args := by
  unfold call
  simp only [textOf_of_spells howner, textOf_of_spells hkey, bind, Except.bind, pure, Except.pure]
  cases Word.toValues words <;> rfl

/-- What a callback makes of the outcome of a call: the word of a result, or nothing for a fault, which it
keeps. The host is as the call leaves it. -/
def answered (c : Callback) :
    Option (Except Fault Value × Host) → Option (Option Word × Callback × Host)
  | none => none
  | some (.ok v, h) => some (some (Word.ofValue v), c.answer (Word.ofValue v), h)
  | some (.error fault, h) => some (none, c.refuse fault, h)

/-- A request that asks for a call is answered as the call ends. -/
theorem make_of_call {r : NativeRequest} {asked : Call} (hc : c.active = true)
    (hcall : r.call = .ok asked) (h : Host) :
    r.make c h = answered c ((Host.call asked).apply h) := by
  unfold make
  rw [if_pos hc, hcall]
  dsimp only
  rcases (Host.call asked).apply h with _ | ⟨_ | _, h'⟩ <;> rfl

/-- A request that asks for no call is refused. -/
theorem make_of_error {r : NativeRequest} {fault : Fault} (hc : c.active = true)
    (hcall : r.call = .error fault) (h : Host) : r.make c h = some (none, c.refuse fault, h) := by
  unfold make
  rw [if_pos hc, hcall]

/-- A request with a word that stands for no value asks for no call. -/
theorem exists_fault_of_unknown {r : NativeRequest} (hw : ∃ w ∈ r.args, 6 < w.tag) :
    ∃ fault, r.call = .error fault := by
  obtain ⟨w, hfind⟩ : ∃ w, r.args.find? (6 < ·.tag) = some w := by
    rw [← Option.isSome_iff_exists, List.find?_isSome]
    simpa using hw
  unfold call
  rcases r.owner with _ | ownerBytes
  · exact ⟨_, rfl⟩
  rcases r.key with _ | keyBytes
  · exact ⟨_, rfl⟩
  simp only [bind, Except.bind, Word.toValues_of_find? hfind]
  rcases textOf .ownerName ownerBytes with fault | owner
  · exact ⟨_, rfl⟩
  rcases textOf .signatureKey keyBytes with fault | key
  · exact ⟨_, rfl⟩
  · exact ⟨_, rfl⟩

/-! ## The boundary -/

/-- **The module boundary is transparent.** A value is read back from its word. A word stands for no value
exactly if its tag is above six, and otherwise the word of its value is that word without the bits that its
tag does not use.

So while an entry point runs, a request for a native with the words of some arguments leaves the host as the
call of that native with the arguments does. It is answered with the word of the result, or with nothing if
there is a fault, and then that fault is kept. If one of the words has an unknown tag, the request is refused
and the host, whatever natives it has, is as before; the fault is that of the first such word if the names
can be read. -/
theorem boundary_transparent :
    (∀ v, (Word.ofValue v).toValue = .ok v) ∧
    (∀ w : Word, (∃ fault, w.toValue = .error fault) ↔ 6 < w.tag) ∧
    (∀ (w : Word) v, w.toValue = .ok v →
      Word.ofValue v = ⟨w.tag, w.data &&& Word.usedBits w.tag⟩) ∧
    (∀ c h owner key ownerBytes keyBytes args, c.active = true → Spells ownerBytes owner →
      Spells keyBytes key →
        make ⟨some ownerBytes, some keyBytes, args.map Word.ofValue⟩ c h
          = answered c ((Host.call (.native owner key args)).apply h)) ∧
    (∀ (r : NativeRequest) c, c.active = true → (∃ w ∈ r.args, 6 < w.tag) →
      ∃ fault, ∀ h, r.make c h = some (none, c.refuse fault, h)) ∧
    ∀ c h owner key ownerBytes keyBytes words w, c.active = true → Spells ownerBytes owner →
      Spells keyBytes key → words.find? (6 < ·.tag) = some w →
        make ⟨some ownerBytes, some keyBytes, words⟩ c h
          = some (none, c.refuse (.inModule (.unknownTag w.tag)), h) := by
  refine ⟨Word.toValue_ofValue, fun w => ?_, fun w v hv => Word.ofValue_of_toValue hv, ?_, ?_, ?_⟩
  · simp [Word.toValue_eq_error]
  · intro c h owner key ownerBytes keyBytes args hc howner hkey
    have hcall := call_of_spells howner hkey (args.map Word.ofValue)
    rw [Word.toValues_map_ofValue] at hcall
    exact make_of_call hc hcall h
  · intro r c hc hw
    obtain ⟨fault, hcall⟩ := exists_fault_of_unknown hw
    exact ⟨fault, make_of_error hc hcall⟩
  · intro c h owner key ownerBytes keyBytes words w hc howner hkey hw
    refine make_of_error hc ?_ h
    rw [call_of_spells howner hkey, Word.toValues_of_find? hw]
    rfl

/-- In exported mode a module asks for the greater of two ints, with a placeholder in front of them, and
then with a word that stands for no value. -/
theorem boundary_transparent_for_greater :
    let natives : Imports NativeCode :=
      Imports.empty.add "java.lang.Math" "I$max$I$I" .static (.builtin (.math .maxInt))
    let h : Host :=
      { config := { mode := .exported }, heap := .empty, registry := CoreClass.registry,
        linkage := .empty, files := .empty, source := .staged .empty, imports := natives,
        attached := some (.arena (.empty "guest")), surroundings := { millis := 0, seed := 0 } }
    let c : Callback := { Callback.idle with active := true }
    let ask (words : List Word) : NativeRequest :=
      ⟨some (Utf8.ofString "java.lang.Math" ++ [0]), some (Utf8.ofString "I$max$I$I" ++ [0]), words⟩
    (ask [⟨0, 0⟩, ⟨1, 0xFFFFFFFB⟩, ⟨1, 3⟩]).make c h = some (some ⟨1, 3⟩, c.answer ⟨1, 3⟩, h) ∧
      (ask [⟨0, 0⟩, ⟨7, 5⟩, ⟨8, 3⟩]).make c h
        = some (none, c.refuse (.inModule (.unknownTag 7)), h) := by
  intro natives h c ask
  have howner := spells_ofString (s := "java.lang.Math") (by decide) []
  have hkey := spells_ofString (s := "I$max$I$I") (by decide) []
  obtain ⟨-, -, -, hrequest, -, hunknown⟩ := boundary_transparent
  refine ⟨?_, hunknown c h _ _ _ _ _ ⟨7, 5⟩ rfl howner hkey rfl⟩
  have hfind : h.imports.find? "java.lang.Math" "I$max$I$I"
      = some ⟨.static, .builtin (.math .maxInt)⟩ := by rfl
  refine (hrequest c h _ _ _ _ [.null, .int (-5), .int 3] rfl howner hkey).trans ?_
  rw [Host.apply_call_native hfind]
  rfl

end NativeRequest

end GuestHost
