import GuestHost.Proofs.Actions

/-!
# Descriptors of file streams in the heap

A stream in the heap knows its file number through a descriptor object, which is made when the stream
first gets a number. What keeps the numbers of several streams apart is that no two of them share a
descriptor, and that no descriptor is itself an object that is used as something else.

* `StreamsApart heap ps rs` — the references `rs` are streams with descriptors of their own, none of
  which is among the references `ps`;
* `sets_setDescriptor` — setting the number of a stream sets it, and keeps the streams apart, the
  numbers of the others and every other entry among `ps`;
* `SameStreams.apart`, `SameStreams.number_eq` — so does what leaves the descriptor fields alone.
-/

namespace GuestHost

open Host (descriptorField)

namespace Heap

/-- The file number of a stream in the heap. -/
def number (heap : Heap) (r : Ref) : Except Fault Int32 := do
  match ← heap.field r descriptorField with
  | .ref d => return ((← heap.field d descriptorField).toInt?).getD (-1)
  | _ => return -1

/-- The streams `rs` have descriptors of their own, outside of the entries `ps`. -/
structure StreamsApart (heap : Heap) (ps rs : List Ref) : Prop where
  live : ∀ p ∈ ps, ∃ e, heap.get? p = some e
  among : ∀ r ∈ rs, r ∈ ps
  object : ∀ r ∈ rs, ∃ v, heap.field r descriptorField = .ok v
  descriptor : ∀ r ∈ rs, ∀ d, heap.field r descriptorField = .ok (.ref d) →
    d ∉ ps ∧ ∃ o, heap.get? d = some (.object o)
  unshared : ∀ r ∈ rs, ∀ r' ∈ rs, ∀ d, heap.field r descriptorField = .ok (.ref d) →
    heap.field r' descriptorField = .ok (.ref d) → r = r'

/-- The heap in which the descriptor field of an object was set. -/
def putDescriptor (heap : Heap) (r : Ref) (o : Object) (v : Value) : Heap :=
  heap.put r (.object { o with fields := o.fields.set descriptorField v })

/-- A new descriptor. -/
def allocDescriptor (heap : Heap) : Ref × Heap := heap.allocObject CoreClass.fileDescriptor .empty

/-- One heap has the same descriptor fields for the streams `rs` as another. -/
def SameStreams (rs : List Ref) (heap heap' : Heap) : Prop :=
  ∀ r ∈ rs, heap'.field r descriptorField = heap.field r descriptorField ∧
    ∀ d, heap.field r descriptorField = .ok (.ref d) →
      heap'.field d descriptorField = heap.field d descriptorField

/-- A heap in which the number of the stream `r` was set to `n`. -/
structure Sets (ps rs : List Ref) (heap : Heap) (r : Ref) (n : Int32) (heap' : Heap) : Prop where
  apart : heap'.StreamsApart ps rs
  number_self : heap'.number r = .ok n
  number_of_ne : ∀ r' ∈ rs, r' ≠ r → heap'.number r' = heap.number r'
  kept : ∀ p ∈ ps, p ≠ r → heap'.get? p = heap.get? p
  size_le : heap'.size ≤ heap.size + 1

variable {heap heap' : Heap} {ps rs : List Ref} {r d : Ref} {n : Int32} {o : Object}

/-! ## Numbers -/

theorem field_congr (hget : heap'.get? r = heap.get? r) (name : String) :
    heap'.field r name = heap.field r name := by
  rw [field, field, Heap.object, Heap.object, hget]

theorem number_of_descriptor (hr : heap.field r descriptorField = .ok (.ref d)) {v : Value}
    (hd : heap.field d descriptorField = .ok v) : heap.number r = .ok ((v.toInt?).getD (-1)) := by
  rw [number, hr]
  show (do return ((← heap.field d descriptorField).toInt?).getD (-1) : Except Fault Int32) = _
  rw [hd]
  rfl

/-- A stream without a descriptor has no number. -/
theorem number_of_none {v : Value} (hr : heap.field r descriptorField = .ok v)
    (hv : ∀ d, v ≠ .ref d) : heap.number r = .ok (-1) := by
  rw [number, hr]
  cases v with
  | ref d => exact absurd rfl (hv d)
  | null | int | long | float | double | handle => rfl

theorem number_congr (hr : heap'.field r descriptorField = heap.field r descriptorField)
    (hd : ∀ d, heap.field r descriptorField = .ok (.ref d) →
      heap'.field d descriptorField = heap.field d descriptorField) :
    heap'.number r = heap.number r := by
  unfold number
  rw [hr]
  rcases hf : heap.field r descriptorField with fault | v
  · rfl
  · cases v with
    | ref d =>
      show (do return ((← heap'.field d descriptorField).toInt?).getD (-1) : Except Fault Int32) = _
      rw [hd d hf]
      rfl
    | null | int | long | float | double | handle => rfl

theorem StreamsApart.exists_number (hs : heap.StreamsApart ps rs) (hr : r ∈ rs) :
    ∃ n, heap.number r = .ok n := by
  obtain ⟨v, hv⟩ := hs.object r hr
  cases v with
  | ref d =>
    obtain ⟨-, o, ho⟩ := hs.descriptor r hr d hv
    exact ⟨_, number_of_descriptor hv (field_eq_ok.2 ⟨o, ho, rfl⟩)⟩
  | null | int | long | float | double | handle =>
    exact ⟨-1, number_of_none hv fun d hd => by cases hd⟩

/-- A stream with a number has it from a descriptor. -/
theorem exists_descriptor_of_nonneg (hs : heap.StreamsApart ps rs) (hr : r ∈ rs)
    (hn : heap.number r = .ok n) (hpos : 0 ≤ n) :
    ∃ d o, heap.field r descriptorField = .ok (.ref d) ∧ heap.get? d = some (.object o) := by
  obtain ⟨v, hv⟩ := hs.object r hr
  by_cases hd : ∃ d, v = .ref d
  · obtain ⟨d, rfl⟩ := hd
    obtain ⟨-, o, ho⟩ := hs.descriptor r hr d hv
    exact ⟨d, o, hv, ho⟩
  · rw [number_of_none hv fun d hvd => hd ⟨d, hvd⟩] at hn
    cases hn
    exact absurd hpos (by decide)

/-! ## What leaves the descriptors alone -/

theorem SameStreams.number_eq (h : SameStreams rs heap heap') (hr : r ∈ rs) :
    heap'.number r = heap.number r :=
  number_congr (h r hr).1 (h r hr).2

/-- Streams stay apart if their descriptor fields stay the same and lead to objects. -/
theorem StreamsApart.of_fields (hs : heap.StreamsApart ps rs)
    (hlive : ∀ p ∈ ps, ∃ e, heap'.get? p = some e)
    (hfield : ∀ r ∈ rs, heap'.field r descriptorField = heap.field r descriptorField)
    (hobject : ∀ r ∈ rs, ∀ d, heap.field r descriptorField = .ok (.ref d) →
      ∃ o, heap'.get? d = some (.object o)) : heap'.StreamsApart ps rs := by
  refine ⟨hlive, hs.among, ?_, ?_, ?_⟩
  · intro r hr
    rw [hfield r hr]
    exact hs.object r hr
  · intro r hr d hd
    rw [hfield r hr] at hd
    exact ⟨(hs.descriptor r hr d hd).1, hobject r hr d hd⟩
  · intro r hr r' hr' d hd hd'
    rw [hfield r hr] at hd
    rw [hfield r' hr'] at hd'
    exact hs.unshared r hr r' hr' d hd hd'

theorem SameStreams.apart (h : SameStreams rs heap heap') (hs : heap.StreamsApart ps rs)
    (hlive : ∀ p ∈ ps, ∃ e, heap'.get? p = some e) : heap'.StreamsApart ps rs := by
  refine hs.of_fields hlive (fun r hr => (h r hr).1) ?_
  intro r hr d hd
  obtain ⟨-, o, ho⟩ := hs.descriptor r hr d hd
  have hfield := ((h r hr).2 d hd).trans (field_eq_ok.2 ⟨o, ho, rfl⟩)
  obtain ⟨o', ho', -⟩ := field_eq_ok.1 hfield
  exact ⟨o', ho'⟩

/-- Entries that are neither streams nor descriptors may change. -/
theorem sameStreams_of_get? (hs : heap.StreamsApart ps rs)
    (hstream : ∀ r ∈ rs, heap'.get? r = heap.get? r)
    (hdescriptor : ∀ d o, d ∉ ps → heap.get? d = some (.object o) →
      heap'.get? d = heap.get? d) : SameStreams rs heap heap' := by
  intro r hr
  refine ⟨field_congr (hstream r hr) _, ?_⟩
  intro d hd
  obtain ⟨hnot, o, ho⟩ := hs.descriptor r hr d hd
  exact field_congr (hdescriptor d o hnot ho) _

/-- Whatever keeps every object leaves the descriptors alone. -/
theorem sameStreams_of_objects (hs : heap.StreamsApart ps rs)
    (hobjects : ∀ r o, heap.get? r = some (.object o) → heap'.get? r = some (.object o)) :
    SameStreams rs heap heap' := by
  refine sameStreams_of_get? hs ?_ ?_
  · intro r hr
    obtain ⟨v, hv⟩ := hs.object r hr
    obtain ⟨o, ho, -⟩ := field_eq_ok.1 hv
    rw [hobjects r o ho, ho]
  · intro d o _ ho
    rw [hobjects d o ho, ho]

theorem sameStreams_put (hs : heap.StreamsApart ps rs) {p : Ref} (hp : p ∈ ps) (hne : p ∉ rs)
    (e : Entry) : SameStreams rs heap (heap.put p e) := by
  refine sameStreams_of_get? hs ?_ ?_
  · rintro r hr
    refine get?_put_of_ne ?_ e
    rintro rfl
    exact hne hr
  · intro d _ hd _
    refine get?_put_of_ne ?_ e
    rintro rfl
    exact hd hp

theorem sameStreams_alloc (hs : heap.StreamsApart ps rs) (e : Entry) :
    SameStreams rs heap (heap.alloc e).2 :=
  sameStreams_of_objects hs fun _ _ ho => get?_alloc_of_some ho e

/-- A new entry among those that no descriptor may be. -/
theorem StreamsApart.alloc (hs : heap.StreamsApart ps rs) (hroom : heap.size < 2 ^ 32) (e : Entry) :
    (heap.alloc e).2.StreamsApart ((heap.alloc e).1 :: ps) rs := by
  have hsame := (sameStreams_alloc hs e).apart hs fun p hp =>
    (hs.live p hp).imp fun _ h => get?_alloc_of_some h e
  refine ⟨?_, fun r hr => List.mem_cons_of_mem _ (hs.among r hr), hsame.object, ?_, hsame.unshared⟩
  · intro p hp
    rcases List.mem_cons.1 hp with rfl | hp
    · exact ⟨e, get?_alloc_self hroom e⟩
    · exact hsame.live p hp
  · intro r hr d hd
    obtain ⟨hnot, o, ho⟩ := hsame.descriptor r hr d hd
    refine ⟨?_, o, ho⟩
    rw [List.mem_cons, not_or]
    refine ⟨?_, hnot⟩
    rw [(sameStreams_alloc hs e r hr).1] at hd
    obtain ⟨-, o', ho'⟩ := hs.descriptor r hr d hd
    exact ne_alloc_of_get? hroom ho' e

/-- An entry without a descriptor may become a stream. -/
theorem StreamsApart.cons (hs : heap.StreamsApart ps rs) (hr : r ∈ ps) {v : Value}
    (hf : heap.field r descriptorField = .ok v) (hv : ∀ d, v ≠ .ref d) :
    heap.StreamsApart ps (r :: rs) := by
  have hnone : ∀ d, heap.field r descriptorField ≠ .ok (.ref d) := by
    intro d hd
    exact hv d (Except.ok.inj (hf.symm.trans hd))
  refine ⟨hs.live, ?_, ?_, ?_, ?_⟩
  · intro r' hr'
    rcases List.mem_cons.1 hr' with rfl | hr'
    · exact hr
    · exact hs.among r' hr'
  · intro r' hr'
    rcases List.mem_cons.1 hr' with rfl | hr'
    · exact ⟨v, hf⟩
    · exact hs.object r' hr'
  · intro r' hr' d hd
    rcases List.mem_cons.1 hr' with rfl | hr'
    · exact absurd hd (hnone d)
    · exact hs.descriptor r' hr' d hd
  · intro r₁ h₁ r₂ h₂ d hd₁ hd₂
    rcases List.mem_cons.1 h₁ with rfl | h₁
    · exact absurd hd₁ (hnone d)
    · rcases List.mem_cons.1 h₂ with rfl | h₂
      · exact absurd hd₂ (hnone d)
      · exact hs.unshared r₁ h₁ r₂ h₂ d hd₁ hd₂

/-! ## Setting a number -/

/-- Setting a number in a descriptor that is there. -/
theorem sets_of_descriptor (hs : heap.StreamsApart ps rs) (hr : r ∈ rs)
    (hf : heap.field r descriptorField = .ok (.ref d)) (ho : heap.get? d = some (.object o))
    (n : Int32) :
    Sets ps rs heap r n (heap.putDescriptor d o (.int n)) := by
  have hne : ∀ p ∈ ps, d ≠ p := by
    rintro p hp rfl
    exact (hs.descriptor r hr d hf).1 hp
  have hself : (heap.putDescriptor d o (.int n)).get? d = some (.object _) := get?_put_self ho _
  have hother : ∀ p, d ≠ p → (heap.putDescriptor d o (.int n)).get? p = heap.get? p :=
    fun p hp => get?_put_of_ne hp _
  have hkept : ∀ p ∈ ps, (heap.putDescriptor d o (.int n)).get? p = heap.get? p :=
    fun p hp => hother p (hne p hp)
  have hfield := fun r' (hr' : r' ∈ rs) => field_congr (hkept r' (hs.among r' hr')) descriptorField
  refine ⟨hs.of_fields ?_ hfield ?_, ?_, ?_, fun p hp _ => hkept p hp, ?_⟩
  · intro p hp
    rw [hkept p hp]
    exact hs.live p hp
  · intro r' hr' d' hd'
    by_cases heq : d = d'
    · subst heq
      exact ⟨_, hself⟩
    · rw [hother d' heq]
      exact (hs.descriptor r' hr' d' hd').2
  · refine number_of_descriptor ((hfield r hr).trans hf) (v := .int n) (field_eq_ok.2 ⟨_, hself, ?_⟩)
    simp
  · intro r' hr' hr'r
    refine number_congr (hfield r' hr') ?_
    intro d' hd'
    refine field_congr (hother d' ?_) _
    rintro rfl
    exact hr'r (hs.unshared r' hr' r hr d hd' hf)
  · rw [putDescriptor, size_put]
    exact Nat.le_succ _

/-- Giving a descriptor that no stream has to a stream. -/
theorem StreamsApart.link (hs : heap.StreamsApart ps rs) (hr : r ∈ rs)
    (ho : heap.get? r = some (.object o)) (hnot : d ∉ ps) {o' : Object}
    (ho' : heap.get? d = some (.object o'))
    (hfree : ∀ r' ∈ rs, heap.field r' descriptorField ≠ .ok (.ref d)) :
    let heap' := heap.putDescriptor r o (.ref d)
    heap'.StreamsApart ps rs ∧ heap'.field r descriptorField = .ok (.ref d) := by
  intro heap'
  have hself : heap'.get? r = some (.object _) := get?_put_self ho _
  have hne : ∀ p, p ≠ r → heap'.get? p = heap.get? p := fun p hp => get?_put_of_ne hp.symm _
  have hfield : heap'.field r descriptorField = .ok (.ref d) :=
    field_eq_ok.2 ⟨_, hself, by simp⟩
  have hother : ∀ r', r' ≠ r → heap'.field r' descriptorField = heap.field r' descriptorField :=
    fun r' hr' => field_congr (hne r' hr') _
  have hobject : ∀ d' o, heap.get? d' = some (.object o) → ∃ o, heap'.get? d' = some (.object o) := by
    intro d' o hd'
    by_cases heq : d' = r
    · subst heq
      exact ⟨_, hself⟩
    · exact ⟨o, (hne d' heq).trans hd'⟩
  refine ⟨⟨?_, hs.among, ?_, ?_, ?_⟩, hfield⟩
  · intro p hp
    by_cases heq : p = r
    · subst heq
      exact ⟨_, hself⟩
    · rw [hne p heq]
      exact hs.live p hp
  · intro r' hr'
    by_cases heq : r' = r
    · subst heq
      exact ⟨_, hfield⟩
    · rw [hother r' heq]
      exact hs.object r' hr'
  · intro r' hr' d' hd'
    by_cases heq : r' = r
    · subst heq
      obtain rfl : d = d' := by simpa [hfield] using hd'
      exact ⟨hnot, hobject d o' ho'⟩
    · rw [hother r' heq] at hd'
      obtain ⟨hnot', o'', ho''⟩ := hs.descriptor r' hr' d' hd'
      exact ⟨hnot', hobject d' o'' ho''⟩
  · intro r₁ h₁ r₂ h₂ d' hd₁ hd₂
    by_cases heq₁ : r₁ = r
    · by_cases heq₂ : r₂ = r
      · rw [heq₁, heq₂]
      · rw [heq₁, hfield] at hd₁
        rw [hother r₂ heq₂, ← hd₁] at hd₂
        exact absurd hd₂ (hfree r₂ h₂)
    · by_cases heq₂ : r₂ = r
      · rw [heq₂, hfield] at hd₂
        rw [hother r₁ heq₁, ← hd₂] at hd₁
        exact absurd hd₁ (hfree r₁ h₁)
      · rw [hother r₁ heq₁] at hd₁
        rw [hother r₂ heq₂] at hd₂
        exact hs.unshared r₁ h₁ r₂ h₂ d' hd₁ hd₂

end Heap

namespace Action

open Heap

variable {h : Host} {ps rs : List Ref} {r d : Ref}

theorem apply_setDescriptor_of_descriptor {o : Object}
    (hf : h.heap.field r descriptorField = .ok (.ref d)) (ho : h.heap.get? d = some (.object o))
    (n : Int32) :
    (setDescriptor (.ref r) n).apply h
      = (.ok (), { h with heap := h.heap.putDescriptor d o (.int n) }) := by
  have hobj : (descriptorObject r).apply h = (.ok d, h) := by
    unfold descriptorObject
    rw [apply_bind, apply_view, hf]
    rfl
  show (descriptorObject r >>= _).apply h = _
  rw [apply_bind_of_ok hobj]
  exact apply_updateHeap_of_ok (setField_of_object ho _ _)

/-- A stream without a descriptor gets a new one. -/
theorem apply_descriptorObject_of_none {o : Object} {v : Value}
    (ho : h.heap.get? r = some (.object o)) (hf : h.heap.field r descriptorField = .ok v)
    (hv : ∀ d, v ≠ .ref d) :
    (descriptorObject r).apply h
      = (.ok h.heap.allocDescriptor.1,
          { h with heap :=
              h.heap.allocDescriptor.2.putDescriptor r o (.ref h.heap.allocDescriptor.1) }) := by
  have hset := setField_of_object (get?_alloc_of_some ho
    (.object ⟨CoreClass.fileDescriptor, .empty, .empty⟩)) descriptorField
    (.ref h.heap.allocDescriptor.1)
  unfold descriptorObject
  rw [apply_bind, apply_view, hf]
  cases v with
  | ref d => exact absurd rfl (hv d)
  | null | int | long | float | double | handle =>
    show (allocObject CoreClass.fileDescriptor .empty >>= _).apply h = _
    rw [apply_bind, apply_allocObject]
    show (updateHeap (fun heap => heap.setField r descriptorField
      (.ref h.heap.allocDescriptor.1)) >>= fun _ => pure h.heap.allocDescriptor.1).apply
        { h with heap := h.heap.allocDescriptor.2 } = _
    rw [apply_bind_of_ok (apply_updateHeap_of_ok hset)]
    rfl

/-- **Setting the number of a stream** in a heap with room for a descriptor. -/
theorem sets_setDescriptor (hs : h.heap.StreamsApart ps rs) (hr : r ∈ rs)
    (hroom : h.heap.size < 2 ^ 32) (n : Int32) :
    ∃ heap, (setDescriptor (.ref r) n).apply h = (.ok (), { h with heap }) ∧
      Sets ps rs h.heap r n heap := by
  obtain ⟨v, hv⟩ := hs.object r hr
  obtain ⟨o, ho, -⟩ := field_eq_ok.1 hv
  by_cases hd : ∃ d, v = .ref d
  · obtain ⟨d, rfl⟩ := hd
    obtain ⟨-, o', ho'⟩ := hs.descriptor r hr d hv
    exact ⟨_, apply_setDescriptor_of_descriptor hv ho' n, sets_of_descriptor hs hr hv ho' n⟩
  · have hv' : ∀ d, v ≠ .ref d := fun d hvd => hd ⟨d, hvd⟩
    -- The new descriptor is none of the entries among `ps`, so it can be given to the stream.
    let e : Entry := .object ⟨CoreClass.fileDescriptor, .empty, .empty⟩
    have hs₁ := hs.alloc hroom e
    have hsame := sameStreams_alloc hs e
    have hs₁' := hsame.apart hs fun p hp => hs₁.live p (List.mem_cons_of_mem _ hp)
    have hnot : (h.heap.alloc e).1 ∉ ps := by
      intro hp
      obtain ⟨e', he'⟩ := hs.live _ hp
      exact ne_alloc_of_get? hroom he' e rfl
    have ho₁ := get?_alloc_of_some ho e
    obtain ⟨hs₂, hf₂⟩ := hs₁'.link hr ho₁ hnot (get?_alloc_self hroom e) fun r' hr' hd' =>
      (hs₁.descriptor r' hr' _ hd').1 List.mem_cons_self
    obtain ⟨-, o', ho'⟩ := hs₂.descriptor r hr _ hf₂
    have hsets := sets_of_descriptor hs₂ hr hf₂ ho' n
    have hother : ∀ p, p ≠ r → ((h.heap.alloc e).2.putDescriptor r o (.ref (h.heap.alloc e).1)).get? p
        = (h.heap.alloc e).2.get? p := fun p hp => get?_put_of_ne hp.symm _
    refine ⟨_, ?_, hsets.apart, hsets.number_self, ?_, ?_, ?_⟩
    · show (descriptorObject r >>= _).apply h = _
      rw [apply_bind_of_ok (apply_descriptorObject_of_none ho hv hv')]
      exact apply_updateHeap_of_ok (setField_of_object ho' _ _)
    · intro r' hr' hne
      rw [hsets.number_of_ne r' hr' hne, ← hsame.number_eq hr']
      refine number_congr (field_congr (hother r' hne) _) ?_
      intro d hd
      refine field_congr (hother d ?_) _
      rintro rfl
      exact (hs₁'.descriptor r' hr' d hd).1 (hs.among _ hr)
    · intro p hp hne
      obtain ⟨e', he'⟩ := hs.live p hp
      rw [hsets.kept p hp hne, hother p hne, he']
      exact get?_alloc_of_some he' e
    · show (Heap.put _ _ _).size ≤ _
      rw [size_put]
      exact Nat.le_of_eq ((size_put _).trans (size_alloc e))

end Action

end GuestHost
