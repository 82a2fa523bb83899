import GuestHost.Proofs.Actions
import GuestHost.Proofs.TextObjects.Stores

/-!
# The texts and the arrays of a host

A host finds texts and arrays behind values: those of its heap by reference, those of its module by
handle, and the empty text behind null. `Host.contents` is the table of what it finds. Whether the
host keeps its texts in the heap or in the module, creating a text and replacing one change this table
in the same way:

* `Host.setText_of_text`, `Host.setText_refused` — the text of an object is replaced, and all else is
  kept; what is no object with a text is refused;
* `Host.newText_of_holdsTexts` — a new text is beside all that was there, as long as references do not
  run out.
-/

namespace GuestHost

open GuestHost.Action

/-! ## The contents behind values -/

namespace Contents

/-- The contents of a heap and of a module, behind values. -/
def join (heap : Contents Ref) (inModule : Contents UInt32) : Contents Value where
  texts
    | .null => some []
    | .ref r => heap.texts r
    | .handle n => inModule.texts n
    | _ => none
  arrays
    | .ref r => heap.arrays r
    | .handle n => inModule.arrays n
    | _ => none

variable {heap : Contents Ref} {inModule : Contents UInt32}

theorem join_write_ref (r : Ref) (cs : List Char) :
    (heap.write r cs).join inModule = (heap.join inModule).write (.ref r) cs := by
  refine eq_write ?_ (fun v hv => ?_) fun v => ?_
  · exact Function.update_self r (some cs) heap.texts
  · cases v with
    | ref r' => exact Function.update_of_ne (fun heq => hv (congrArg Value.ref heq)) _ _
    | null | int | long | float | double | handle => rfl
  · cases v <;> rfl

theorem join_write_handle (n : UInt32) (cs : List Char) :
    heap.join (inModule.write n cs) = (heap.join inModule).write (.handle n) cs := by
  refine eq_write ?_ (fun v hv => ?_) fun v => ?_
  · exact Function.update_self n (some cs) inModule.texts
  · cases v with
    | handle n' => exact Function.update_of_ne (fun heq => hv (congrArg Value.handle heq)) _ _
    | null | int | long | float | double | ref => rfl
  · cases v <;> rfl

end Contents

namespace Host

variable {h : Host} {m : Module} {a : Arena} {v : Value} {cs : List Char}

/-- The text and the elements that a host finds behind each value. -/
def contents (h : Host) : Contents Value where
  texts v := readText (h.text v)
  arrays v := (h.arrayValues v).toOption

/-- The texts and the arrays of the attached module; in direct mode its texts are not looked at. -/
def moduleContents (h : Host) : Contents UInt32 where
  texts n := if h.mode = .exported then h.attached.bind (·.contents.texts n) else none
  arrays n := h.attached.bind (·.contents.arrays n)

theorem moduleContents_exported (hm : h.mode = .exported) (ha : h.attached = some m) :
    h.moduleContents = m.contents := by
  have htexts : ∀ n, h.moduleContents.texts n = m.contents.texts n := by
    intro n
    show (if h.mode = .exported then _ else _) = _
    rw [if_pos hm, ha]
    rfl
  have harrays : ∀ n, h.moduleContents.arrays n = m.contents.arrays n := by
    intro n
    show h.attached.bind _ = _
    rw [ha]
    rfl
  exact congrArg₂ Contents.mk (funext htexts) (funext harrays)

theorem contents_eq_join (h : Host) : h.contents = h.heap.contents.join h.moduleContents := by
  have htexts : ∀ v, h.contents.texts v = (h.heap.contents.join h.moduleContents).texts v := by
    intro v
    show readText (h.text v) = _
    cases v with
    | null | ref =>
      simp only [text]
      rfl
    | handle n =>
      show _ = if h.mode = .exported then _ else none
      cases hm : h.mode with
      | direct =>
        simp only [text, hm]
        rfl
      | exported =>
        simp only [text, hm, module?]
        cases h.attached <;> rfl
    | int | long | float | double =>
      simp only [text]
      rfl
  have harrays : ∀ v, h.contents.arrays v = (h.heap.contents.join h.moduleContents).arrays v := by
    intro v
    show (h.arrayValues v).toOption = _
    cases v with
    | handle n =>
      show _ = h.attached.bind _
      simp only [arrayValues, module?]
      cases h.attached <;> rfl
    | ref r => rfl
    | null | int | long | float | double => rfl
  exact congrArg₂ Contents.mk (funext htexts) (funext harrays)

theorem contents_with_heap (heap : Heap) :
    { h with heap }.contents = heap.contents.join h.moduleContents := contents_eq_join _

theorem contents_with_module (hm : h.mode = .exported) (m' : Module) :
    { h with attached := some m' }.contents = h.heap.contents.join m'.contents := by
  have hmodule : { h with attached := some m' }.moduleContents = m'.contents :=
    moduleContents_exported hm rfl
  rw [contents_eq_join, hmodule]

/-! ## Where the host keeps its texts -/

/-- The host keeps its texts in memory: in its heap, or in a module that is in memory too. -/
def HoldsTexts (h : Host) : Prop :=
  h.mode = .exported → ∃ a, h.attached = some (.arena a)

/-- Number of entries of the store that new texts are added to. -/
def storeSize (h : Host) : Nat :=
  match h.mode, h.attached with
  | .direct, _ => h.heap.size
  | .exported, some (.arena a) => a.size
  | .exported, _ => 0

theorem storeSize_direct (hm : h.mode = .direct) : h.storeSize = h.heap.size := by
  rw [storeSize, hm]

theorem storeSize_exported (hm : h.mode = .exported) (ha : h.attached = some (.arena a)) :
    h.storeSize = a.size := by
  rw [storeSize, hm, ha]

theorem storeSize_with_heap (hm : h.mode = .direct) (heap : Heap) :
    { h with heap }.storeSize = heap.size := storeSize_direct hm

theorem storeSize_with_module (hm : h.mode = .exported) (a' : Arena) :
    { h with attached := some (.arena a') }.storeSize = a'.size := storeSize_exported hm rfl

/-! ## Replacing a text -/

theorem setText_ref (hh : h.HoldsTexts) {r : Ref} (ht : h.contents.texts (.ref r) = some cs)
    (s : String) : ∃ h', (setText (.ref r) s).apply h = (.ok (), h') ∧ h'.HoldsTexts ∧
      h'.storeSize = h.storeSize ∧ h'.contents = h.contents.write (.ref r) s.toList := by
  rw [contents_eq_join] at ht
  obtain ⟨heap, hset, hcontents, hsize⟩ := Heap.setText_of_text ht s
  refine ⟨{ h with heap }, ?_, hh, ?_, ?_⟩
  · rw [apply_setText_ref, apply_updateHeap_of_ok hset]
  · cases hm : h.mode with
    | direct => rw [storeSize_direct hm, storeSize_with_heap hm, hsize]
    | exported =>
      obtain ⟨a, ha⟩ := hh hm
      rw [storeSize_exported hm ha]
      exact storeSize_exported hm ha
  · rw [contents_with_heap heap, hcontents, contents_eq_join, Contents.join_write_ref]

theorem setText_handle (hh : h.HoldsTexts) {n : UInt32}
    (ht : h.contents.texts (.handle n) = some cs) (s : String) :
    ∃ h', (setText (.handle n) s).apply h = (.ok (), h') ∧ h'.HoldsTexts ∧
      h'.storeSize = h.storeSize ∧ h'.contents = h.contents.write (.handle n) s.toList := by
  rw [contents_eq_join] at ht
  cases hm : h.mode with
  | direct =>
    -- In direct mode no handle leads to a text.
    have hnone : h.moduleContents.texts n = none := if_neg (by rw [hm]; decide)
    rw [show h.moduleContents.texts n = some cs from ht] at hnone
    cases hnone
  | exported =>
    obtain ⟨a, ha⟩ := hh hm
    rw [moduleContents_exported hm ha] at ht
    obtain ⟨a', hset, hcontents, hsize⟩ := Arena.setText_of_text ht s
    refine ⟨{ h with attached := some (.arena a') }, ?_, fun _ => ⟨a', rfl⟩, ?_, ?_⟩
    · rw [apply_setText_handle hm, apply_onModule_of_attached ha]
      simp only [hset]
    · rw [storeSize_exported hm ha, storeSize_with_module hm, hsize]
    · rw [contents_with_module hm, hcontents, contents_eq_join, moduleContents_exported hm ha,
        Contents.join_write_handle]

/-- The text of an object is replaced, and all else is kept. -/
theorem setText_of_text (hh : h.HoldsTexts) (hv : v ≠ .null) (ht : h.contents.texts v = some cs)
    (s : String) : ∃ h', (setText v s).apply h = (.ok (), h') ∧ h'.HoldsTexts ∧
      h'.storeSize = h.storeSize ∧ h'.contents = h.contents.write v s.toList := by
  cases v with
  | null => exact absurd rfl hv
  | ref r => exact setText_ref hh ht s
  | handle n => exact setText_handle hh ht s
  | int | long | float | double =>
    rw [contents_eq_join] at ht
    cases ht

/-- What is null or holds no text is refused. -/
theorem setText_refused (hh : h.HoldsTexts) (hv : v ≠ .null → h.contents.texts v = none)
    (s : String) : Refuses (setText v s) h := by
  rw [contents_eq_join] at hv
  cases v with
  | ref r =>
    obtain ⟨fault, hset⟩ := Heap.setText_of_none (hv Value.noConfusion) s
    refine ⟨fault, ?_⟩
    rw [apply_setText_ref, apply_updateHeap, hset]
  | handle n =>
    cases hm : h.mode with
    | direct =>
      refine ⟨.mismatch "string" (Value.handle n).kindName, ?_⟩
      unfold setText
      rw [apply_bind, apply_get]
      simp only [hm]
      rfl
    | exported =>
      obtain ⟨a, ha⟩ := hh hm
      rw [moduleContents_exported hm ha] at hv
      obtain ⟨fault, hset⟩ := Arena.setText_of_none (hv Value.noConfusion) s
      refine ⟨fault, ?_⟩
      rw [apply_setText_handle hm, apply_onModule_of_attached ha]
      simp only [hset, ← ha]
  | null | int | long | float | double => exact ⟨_, by
      unfold setText
      rw [apply_bind, apply_get]
      rfl⟩

/-! ## Creating a text -/

/-- A new text is beside all that was there, as long as references do not run out. -/
theorem newText_of_holdsTexts (hh : h.HoldsTexts) (kind : TextKind) (s : String) :
    ∃ v h', (newText kind s).apply h = (.ok v, h') ∧ h'.HoldsTexts ∧
      h'.storeSize = h.storeSize + 1 ∧
      (h.storeSize < 2 ^ 32 →
        h.contents.texts v = none ∧ h'.contents = h.contents.write v s.toList) := by
  cases hm : h.mode with
  | direct =>
    obtain ⟨r, heap, halloc, hsize, hroom⟩ := h.heap.allocObject_text (textClass kind) s
    refine ⟨.ref r, { h with heap }, ?_, hh, ?_, ?_⟩
    · rw [apply_newText_direct hm, halloc]
    · rw [storeSize_direct hm, storeSize_with_heap hm, hsize]
    · rw [storeSize_direct hm]
      intro hlt
      obtain ⟨hfresh, hcontents⟩ := hroom hlt
      rw [contents_with_heap heap, hcontents, contents_eq_join h, Contents.join_write_ref]
      exact ⟨hfresh, rfl⟩
  | exported =>
    obtain ⟨a, ha⟩ := hh hm
    obtain ⟨n, a', hnew, hsize, hroom⟩ := a.newText_eq kind s
    refine ⟨.handle n, { h with attached := some (.arena a') }, ?_, fun _ => ⟨a', rfl⟩, ?_, ?_⟩
    · rw [apply_newText_exported hm, apply_onModule_of_attached ha]
      simp only [hnew]
    · rw [storeSize_exported hm ha, storeSize_with_module hm, hsize]
    · rw [storeSize_exported hm ha]
      intro hlt
      obtain ⟨hfresh, hcontents⟩ := hroom hlt
      rw [contents_with_module hm, hcontents, contents_eq_join h, moduleContents_exported hm ha,
        Contents.join_write_handle]
      exact ⟨hfresh, rfl⟩

end Host

end GuestHost
