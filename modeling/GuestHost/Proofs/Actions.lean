import GuestHost.Host.Access
import GuestHost.Proofs.Stores

/-!
# Laws of actions

What an action does to a host, construction by construction, and notions for what it leaves alone. Each
comes with a law for every construction, so that it is proved of an action along its text.

* `ReadsOnly` — the action changes nothing;
* `Refuses` — the action meets a fault and changes nothing;
* `KeepsObjects` — the action leaves every object of the heap as it is;
* `IgnoresFiles` — the action neither looks at the file table nor changes it;
* `FailsCleanly` — if the action meets a fault, the file table is as it was before.

Processes have the laws of application too. What a handle stands for is a matter of the attached module.
-/

/-! ## The attached module -/

namespace GuestHost.Host

variable {h : Host} {m : Module}

theorem module?_of_attached (hm : h.attached = some m) : h.module? = .ok m := by
  rw [module?, hm]

theorem module?_of_none (hm : h.attached = none) : h.module? = .error (.inModule .notAttached) := by
  rw [module?, hm]

theorem arrayLength_handle (hm : h.attached = some m) (k : UInt32) :
    h.arrayLength (.handle k) = m.arrayLength k := by
  rw [arrayLength, module?_of_attached hm]
  rfl

theorem arrayGet_handle (hm : h.attached = some m) (k : UInt32) (i : Nat) :
    h.arrayGet (.handle k) i = m.arrayGet k i := by
  rw [arrayGet, module?_of_attached hm]
  rfl

theorem descriptor_handle (hm : h.attached = some m) (k : UInt32) :
    h.descriptor (.handle k) = m.stream k := by
  rw [descriptor, module?_of_attached hm]
  rfl

end GuestHost.Host

namespace GuestHost.Action

variable {α β : Type} {h h' : Host} {v : Value}

/-! ## Applying an action -/

/-- An action with a result, and the host after it. -/
theorem apply_eq_of_ok {a : Action α} {x : α} (ha : (a.apply h).1 = .ok x) :
    a.apply h = (.ok x, (a.apply h).2) := Prod.ext ha rfl

@[simp] theorem apply_pure (a : α) : (pure a : Action α).apply h = (.ok a, h) := rfl

@[simp] theorem apply_ofResult (r : Except Fault α) : (ofResult r).apply h = (r, h) := rfl

@[simp] theorem apply_fail (fault : Fault) : (fail fault : Action α).apply h = (.error fault, h) := rfl

@[simp] theorem apply_view (f : Host → Except Fault α) : (view f).apply h = (f h, h) := rfl

theorem apply_ofResult_eq_ok {r : Except Fault α} {a : α} :
    (ofResult r).apply h = (.ok a, h') ↔ r = .ok a ∧ h = h' := by
  rw [apply_ofResult, Prod.mk.injEq]

theorem apply_view_eq_ok {f : Host → Except Fault α} {a : α} :
    (view f).apply h = (.ok a, h') ↔ f h = .ok a ∧ h = h' := by
  rw [apply_view, Prod.mk.injEq]

theorem apply_view_of_ok {f : Host → Except Fault α} {a : α} (hf : f h = .ok a) :
    (view f).apply h = (.ok a, h) := Prod.ext hf rfl

theorem apply_view_of_error {f : Host → Except Fault α} {fault : Fault} (hf : f h = .error fault) :
    (view f).apply h = (.error fault, h) := Prod.ext hf rfl

@[simp] theorem apply_get : (get : Action Host).apply h = (.ok h, h) := rfl

@[simp] theorem apply_onFiles (f : FileTable → α × FileTable) :
    (onFiles f).apply h = (.ok (f h.files).1, { h with files := (f h.files).2 }) := rfl

@[simp] theorem apply_openFile (path : String) :
    (openFile path).apply h
      = (.ok (h.files.openForRead h.source path).1,
          { h with files := (h.files.openForRead h.source path).2 }) := rfl

@[simp] theorem apply_allocObject (cls : ClassId) (payload : Payload) :
    (allocObject cls payload).apply h
      = (.ok (h.heap.allocObject cls payload).1,
          { h with heap := (h.heap.allocObject cls payload).2 }) := rfl

@[simp] theorem apply_allocArray (items : List Value) :
    (allocArray items).apply h
      = (.ok (h.heap.alloc (.array items)).1,
          { h with heap := (h.heap.alloc (.array items)).2 }) := rfl

theorem apply_bind (a : Action α) (f : α → Action β) :
    (a >>= f).apply h = match a.apply h with
      | (.ok x, h') => (f x).apply h'
      | (.error fault, h') => (.error fault, h') := by
  unfold Action.apply ExceptT.run StateT.run
  simp only [bind, ExceptT.bind, ExceptT.mk, StateT.bind, ExceptT.bindCont]
  cases (a h : Except Fault α × Host) with
  | mk result next => cases result <;> rfl

theorem apply_bind_of_ok {a : Action α} {x : α} (ha : a.apply h = (.ok x, h'))
    (f : α → Action β) : (a >>= f).apply h = (f x).apply h' := by
  rw [apply_bind, ha]

theorem apply_bind_of_error {a : Action α} {fault : Fault} (ha : a.apply h = (.error fault, h'))
    (f : α → Action β) : (a >>= f).apply h = (.error fault, h') := by
  rw [apply_bind, ha]

/-- An action that is made of two has a result if both have. -/
theorem apply_bind_eq_ok {a : Action α} {f : α → Action β} {y : β} :
    (a >>= f).apply h = (.ok y, h') ↔
      ∃ x h₁, a.apply h = (.ok x, h₁) ∧ (f x).apply h₁ = (.ok y, h') := by
  rw [apply_bind]
  rcases a.apply h with ⟨fault | x, h₁⟩
  · simp
  · constructor
    · intro hy
      exact ⟨x, h₁, rfl, hy⟩
    · rintro ⟨_, _, ⟨⟩, hy⟩
      exact hy

@[simp] theorem apply_updateHeap (f : Heap → Except Fault Heap) :
    (updateHeap f).apply h = match f h.heap with
      | .ok heap => (.ok (), { h with heap })
      | .error fault => (.error fault, h) := by
  unfold updateHeap
  rw [apply_bind, apply_get]
  show ((ofResult (f h.heap)) >>= _).apply h = _
  rw [apply_bind, apply_ofResult]
  cases f h.heap <;> rfl

theorem apply_updateHeap_of_ok {f : Heap → Except Fault Heap} {heap : Heap}
    (hf : f h.heap = .ok heap) : (updateHeap f).apply h = (.ok (), { h with heap }) := by
  rw [apply_updateHeap, hf]

@[simp] theorem apply_onModule (f : Module → Except Fault α × Module) :
    (onModule f).apply h = match h.module? with
      | .ok m => ((f m).1, { h with attached := some (f m).2 })
      | .error fault => (.error fault, h) := by
  unfold onModule
  rw [apply_bind, apply_view]
  cases h.module? <;> rfl

theorem apply_onModule_of_attached {m : Module} (hm : h.attached = some m)
    (f : Module → Except Fault α × Module) :
    (onModule f).apply h = ((f m).1, { h with attached := some (f m).2 }) := by
  rw [apply_onModule, Host.module?_of_attached hm]

theorem apply_setText_ref (r : Ref) (contents : String) (h : Host) :
    (setText (.ref r) contents).apply h
      = (updateHeap fun heap => heap.setText r contents).apply h := by
  unfold setText
  rw [apply_bind, apply_get]

theorem apply_setText_handle (hm : h.mode = .exported) (n : UInt32) (contents : String) :
    (setText (.handle n) contents).apply h = (onModule fun m => m.setText n contents).apply h := by
  unfold setText
  rw [apply_bind, apply_get]
  simp only [hm]

theorem apply_newText_direct (hm : h.mode = .direct) (kind : TextKind) (contents : String) :
    (newText kind contents).apply h
      = (.ok (.ref (h.heap.allocObject (textClass kind) (.text contents)).1),
          { h with heap := (h.heap.allocObject (textClass kind) (.text contents)).2 }) := by
  unfold newText
  rw [apply_bind, apply_get]
  simp only [hm]
  rw [apply_bind, apply_allocObject]
  rfl

theorem apply_newText_exported (hm : h.mode = .exported) (kind : TextKind) (contents : String) :
    (newText kind contents).apply h = (onModule fun m => m.newText kind contents).apply h := by
  unfold newText
  rw [apply_bind, apply_get]
  simp only [hm]

/-! ## Actions that change nothing -/

/-- The action changes nothing. -/
def ReadsOnly (a : Action α) : Prop := ∀ h, (a.apply h).2 = h

theorem readsOnly_pure (a : α) : ReadsOnly (pure a : Action α) := fun _ => rfl

theorem readsOnly_ofResult (r : Except Fault α) : ReadsOnly (ofResult r) := fun _ => rfl

theorem readsOnly_view (f : Host → Except Fault α) : ReadsOnly (view f) := fun _ => rfl

theorem readsOnly_get : ReadsOnly (get : Action Host) := fun _ => rfl

theorem ReadsOnly.bind {a : Action α} {f : α → Action β} (ha : ReadsOnly a)
    (hf : ∀ x, ReadsOnly (f x)) : ReadsOnly (a >>= f) := by
  intro h
  have hsame := ha h
  rw [apply_bind]
  rcases hx : a.apply h with ⟨fault | x, h'⟩ <;> rw [hx] at hsame
  · exact hsame
  · exact (hf x h').trans hsame

/-! ## Actions that are refused -/

/-- The action meets a fault, and changes nothing. -/
def Refuses (a : Action α) (h : Host) : Prop := ∃ fault, a.apply h = (.error fault, h)

theorem Refuses.bind {a : Action α} (ha : Refuses a h) (f : α → Action β) : Refuses (a >>= f) h := by
  obtain ⟨fault, ha⟩ := ha
  exact ⟨fault, apply_bind_of_error ha f⟩

/-- What changes nothing has a result or is refused. -/
theorem ReadsOnly.result_or_refuses {a : Action α} (ha : ReadsOnly a) (h : Host) :
    (∃ x, a.apply h = (.ok x, h)) ∨ Refuses a h := by
  have hsame := ha h
  rcases hx : a.apply h with ⟨fault | x, h'⟩
  · rw [hx] at hsame
    obtain rfl : h' = h := hsame
    exact .inr ⟨fault, hx⟩
  · rw [hx] at hsame
    obtain rfl : h' = h := hsame
    exact .inl ⟨x, rfl⟩

/-- What only reads may come before. -/
theorem ReadsOnly.bind_refuses {a : Action α} {f : α → Action β} (ha : ReadsOnly a)
    (hf : ∀ x, a.apply h = (.ok x, h) → Refuses (f x) h) : Refuses (a >>= f) h := by
  rcases ha.result_or_refuses h with ⟨x, hx⟩ | hrefused
  · obtain ⟨fault, hfault⟩ := hf x hx
    exact ⟨fault, (apply_bind_of_ok hx f).trans hfault⟩
  · exact hrefused.bind f

/-! ## Actions that leave objects alone -/

/-- The action leaves every object of the heap as it is. -/
def KeepsObjects (a : Action α) : Prop :=
  ∀ h r o, h.heap.get? r = some (.object o) → (a.apply h).2.heap.get? r = some (.object o)

theorem ReadsOnly.keepsObjects {a : Action α} (ha : ReadsOnly a) : KeepsObjects a := by
  intro h r o ho
  rw [ha h]
  exact ho

theorem keepsObjects_onFiles (f : FileTable → α × FileTable) : KeepsObjects (onFiles f) :=
  fun _ _ _ ho => ho

theorem keepsObjects_onModule (f : Module → Except Fault α × Module) :
    KeepsObjects (onModule f) := by
  intro h r o ho
  rw [apply_onModule]
  rcases h.module? with fault | m
  · exact ho
  · exact ho

theorem KeepsObjects.bind {a : Action α} {f : α → Action β} (ha : KeepsObjects a)
    (hf : ∀ x, KeepsObjects (f x)) : KeepsObjects (a >>= f) := by
  intro h r o ho
  have hkept := ha h r o ho
  rw [apply_bind]
  rcases hx : a.apply h with ⟨fault | x, h'⟩ <;> rw [hx] at hkept
  · exact hkept
  · exact hf x h' r o hkept

theorem keepsObjects_arraySet (v : Value) (i : Nat) (x : Value) : KeepsObjects (arraySet v i x) := by
  cases v with
  | ref a =>
    intro h r o ho
    show ((updateHeap fun heap => heap.arraySet a i x).apply h).2.heap.get? r = _
    rw [apply_updateHeap]
    cases ha : h.heap.array a with
    | error fault =>
      rw [show h.heap.arraySet a i x = .error fault by rw [Heap.arraySet, ha]]
      exact ho
    | ok items =>
      have hne : a ≠ r := by
        rintro rfl
        rw [Heap.array_eq_ok, ho] at ha
        cases ha
      by_cases hi : i < items.length
      · rw [Heap.arraySet_of_array (Heap.array_eq_ok.1 ha) hi]
        exact (Heap.get?_put_of_ne hne _).trans ho
      · rw [show h.heap.arraySet a i x = .error _ by rw [Heap.arraySet, ha]; exact if_neg hi]
        exact ho
  | handle n => exact keepsObjects_onModule fun m => m.arraySet n i x
  | null | int | long | float | double => exact (readsOnly_ofResult _).keepsObjects

theorem keepsObjects_arrayFill (v : Value) (i : Nat) (items : List Value) :
    KeepsObjects (arrayFill v i items) := by
  induction items generalizing i with
  | nil => exact (readsOnly_pure _).keepsObjects
  | cons x rest ih => exact (keepsObjects_arraySet v i x).bind fun _ => ih (i + 1)

/-! ## Actions that leave the file table alone -/

/-- The action neither looks at the file table nor changes it. -/
def IgnoresFiles (a : Action α) : Prop :=
  ∀ (h : Host) (t : FileTable),
    a.apply { h with files := t } = ((a.apply h).1, { (a.apply h).2 with files := t })

/-- An action that ignores the file table leaves it as it is. -/
theorem IgnoresFiles.files_eq {a : Action α} (ha : IgnoresFiles a) (h : Host) :
    (a.apply h).2.files = h.files := by
  have heq := ha h h.files
  show (a.apply { h with files := h.files }).2.files = h.files
  rw [heq]

theorem IgnoresFiles.bind {a : Action α} {f : α → Action β} (ha : IgnoresFiles a)
    (hf : ∀ x, IgnoresFiles (f x)) : IgnoresFiles (a >>= f) := by
  intro h t
  rw [apply_bind, apply_bind, ha h t]
  rcases a.apply h with ⟨fault | x, h'⟩
  · rfl
  · exact hf x h' t

theorem ignoresFiles_pure (a : α) : IgnoresFiles (pure a : Action α) := fun _ _ => rfl

theorem ignoresFiles_ofResult (r : Except Fault α) : IgnoresFiles (ofResult r) := fun _ _ => rfl

theorem ignoresFiles_fail (fault : Fault) : IgnoresFiles (fail fault : Action α) := fun _ _ => rfl

theorem ignoresFiles_view {f : Host → Except Fault α}
    (hf : ∀ (h : Host) (t : FileTable), f { h with files := t } = f h) : IgnoresFiles (view f) := by
  intro h t
  rw [apply_view, apply_view, hf]

theorem ignoresFiles_onFiles {f : FileTable → α × FileTable} {a : α} (hf : ∀ t, f t = (a, t)) :
    IgnoresFiles (onFiles f) := by
  intro h t
  rw [apply_onFiles, apply_onFiles, hf, hf]

theorem ignoresFiles_allocObject (cls : ClassId) (payload : Payload) :
    IgnoresFiles (allocObject cls payload) := fun _ _ => rfl

theorem ignoresFiles_updateHeap (f : Heap → Except Fault Heap) : IgnoresFiles (updateHeap f) := by
  intro h t
  rw [apply_updateHeap, apply_updateHeap]
  cases f h.heap <;> rfl

theorem ignoresFiles_onModule (f : Module → Except Fault α × Module) :
    IgnoresFiles (onModule f) := by
  intro h t
  rw [apply_onModule, apply_onModule]
  show (match h.module? with
    | .ok m => _
    | .error fault => _) = _
  cases h.module? <;> rfl

theorem ignoresFiles_text (v : Value) : IgnoresFiles (text v) :=
  ignoresFiles_view fun _ _ => rfl

theorem ignoresFiles_arrayLength (v : Value) : IgnoresFiles (arrayLength v) :=
  ignoresFiles_view fun _ _ => by cases v <;> rfl

theorem ignoresFiles_arrayValues (v : Value) : IgnoresFiles (arrayValues v) :=
  ignoresFiles_view fun _ _ => by cases v <;> rfl

theorem ignoresFiles_descriptor (v : Value) : IgnoresFiles (descriptor v) :=
  ignoresFiles_view fun _ _ => by cases v <;> rfl

theorem ignoresFiles_arraySet (v : Value) (i : Nat) (x : Value) : IgnoresFiles (arraySet v i x) := by
  cases v with
  | ref r => exact ignoresFiles_updateHeap fun heap => heap.arraySet r i x
  | handle n => exact ignoresFiles_onModule fun m => m.arraySet n i x
  | null | int | long | float | double => exact ignoresFiles_fail _

theorem ignoresFiles_arrayFill (v : Value) (i : Nat) (items : List Value) :
    IgnoresFiles (arrayFill v i items) := by
  induction items generalizing i with
  | nil => exact ignoresFiles_pure _
  | cons x rest ih => exact (ignoresFiles_arraySet v i x).bind fun _ => ih (i + 1)

theorem ignoresFiles_descriptorObject (stream : Ref) : IgnoresFiles (descriptorObject stream) := by
  refine (ignoresFiles_view fun _ _ => rfl).bind fun field => ?_
  cases field with
  | ref d => exact ignoresFiles_pure _
  | null | int | long | float | double | handle =>
    exact (ignoresFiles_allocObject _ _).bind fun d =>
      (ignoresFiles_updateHeap _).bind fun _ => ignoresFiles_pure _

theorem ignoresFiles_setDescriptor (v : Value) (n : Int32) : IgnoresFiles (setDescriptor v n) := by
  cases v with
  | ref r => exact (ignoresFiles_descriptorObject r).bind fun d => ignoresFiles_updateHeap _
  | handle n => exact ignoresFiles_onModule _
  | null | int | long | float | double => exact ignoresFiles_fail _

/-! ## Actions that fail cleanly -/

/-- If the action meets a fault, the file table is as it was before. -/
def FailsCleanly (a : Action α) (h : Host) : Prop :=
  ∀ fault h', a.apply h = (.error fault, h') → h'.files = h.files

/-- An action with a result fails cleanly. -/
theorem failsCleanly_of_ok {a : Action α} {x : α} (ha : (a.apply h).1 = .ok x) :
    FailsCleanly a h := by
  intro fault h' herr
  rw [herr] at ha
  cases ha

/-- What comes before the file table is touched does not matter for a clean failure. -/
theorem IgnoresFiles.bind_failsCleanly {a : Action α} {f : α → Action β} (ha : IgnoresFiles a)
    (hf : ∀ x h', a.apply h = (.ok x, h') → FailsCleanly (f x) h') :
    FailsCleanly (a >>= f) h := by
  intro fault h'' herr
  have hfiles := ha.files_eq h
  rw [apply_bind] at herr
  rcases hx : a.apply h with ⟨fault' | x, h'⟩
  · rw [hx] at herr hfiles
    cases herr
    exact hfiles
  · rw [hx] at herr hfiles
    exact (hf x h' hx fault h'' herr).trans hfiles

end GuestHost.Action

namespace GuestHost.Process

variable {α β : Type} {h h' : Host}

/-! ## Applying a process -/

@[simp] theorem apply_toProcess (a : Action α) : a.toProcess.apply h = some (a.apply h) := rfl

@[simp] theorem apply_get : (get : Process Host).apply h = some (.ok h, h) := rfl

theorem apply_bind (p : Process α) (f : α → Process β) :
    (p >>= f).apply h = match p.apply h with
      | some (.ok x, h') => (f x).apply h'
      | some (.error fault, h') => some (.error fault, h')
      | none => none := by
  unfold Process.apply ExceptT.run StateT.run
  simp only [bind, ExceptT.bind, ExceptT.mk, StateT.bind, ExceptT.bindCont]
  cases (p h : Option (Except Fault α × Host)) with
  | none => rfl
  | some outcome =>
    obtain ⟨result, next⟩ := outcome
    cases result <;> rfl

theorem apply_bind_of_ok {p : Process α} {x : α} (hp : p.apply h = some (.ok x, h'))
    (f : α → Process β) : (p >>= f).apply h = (f x).apply h' := by
  rw [apply_bind, hp]

theorem apply_bind_of_error {p : Process α} {fault : Fault}
    (hp : p.apply h = some (.error fault, h')) (f : α → Process β) :
    (p >>= f).apply h = some (.error fault, h') := by
  rw [apply_bind, hp]

end GuestHost.Process
