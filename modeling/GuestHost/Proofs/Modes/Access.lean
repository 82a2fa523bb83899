import GuestHost.Proofs.Modes.Simulation

/-!
# Texts, arrays and streams side by side

The operations on guest objects are the same in both modes: given values that are related, of the kind
that the operation works on, they give related results and leave both hosts alike.

* `steps_text`, `steps_setText`, `creates_newText`;
* `steps_arrayLength`, `steps_arrayGet`, `steps_arrayValues`, `steps_arraySet`, `steps_arrayFill`,
  `creates_newArray`;
* `steps_descriptor`, `creates_setDescriptor`, `creates_newStream`.
-/

namespace GuestHost

open GuestHost.Action

variable {links : List Link} {hd he : Host} {v w x y : Value} {k : ObjectKind}

/-- What a store and a module gain are the objects they gain. -/
theorem grows_of_stores {a a' : Arena} {heap : Heap} {n : Nat} (ha : he.attached = some (.arena a))
    (hheap : heap.size ≤ hd.heap.size + n) (hmodule : a'.size ≤ a.size + n) :
    Grows n hd he { hd with heap } { he with attached := some (.arena a') } := by
  refine ⟨hheap, ?_⟩
  have hcount : he.objectCount = a.size := by rw [Host.objectCount, ha]
  rw [hcount]
  exact hmodule

theorem Room.arena_lt {a : Arena} (h : Room 1 hd he) (ha : he.attached = some (.arena a)) :
    a.size < 2 ^ 32 := by
  have hmodule := h.module
  rw [Host.objectCount, ha] at hmodule
  exact hmodule

theorem Agree.module? (h : Agree links hd he) :
    ∃ a, he.module? = .ok (.arena a) ∧ he.attached = some (.arena a) ∧ Stores links hd.heap a := by
  obtain ⟨a, ha, hstores⟩ := h.stores
  exact ⟨a, Host.module?_of_attached ha, ha, hstores⟩

/-- Hosts agree if their stores do, whatever was stored. -/
theorem Agree.of_stores {links' : List Link} {heap : Heap} {a : Arena} (h : Agree links hd he)
    (hstores : Stores links' heap a) :
    Agree links' { hd with heap } { he with attached := some (.arena a) } :=
  ⟨h.direct, h.exported, h.files, h.source, h.importsDirect, h.importsExported, h.classes, a, rfl,
    hstores⟩

/-! ## Texts -/

/-- Whether a plain value is a text does not depend on the host. -/
theorem text_plain (hv : v.isPlain = true) (h h' : Host) : h.text v = h'.text v := by
  unfold Host.text
  cases v with
  | ref | handle => cases hv
  | null | int | long | float | double => cases h.mode <;> cases h'.mode <;> rfl

theorem steps_text (h : Relates links (some .text) v w) : Steps links Eq (text v) (text w) := by
  refine steps_view fun hd he hagree => ?_
  cases h with
  | plain hv =>
    rw [text_plain hv hd he]
    exact .rfl'
  | @linked l hl hk =>
    obtain ⟨a, hm, -, hstores⟩ := hagree.module?
    obtain ⟨kind, contents, hget, hget'⟩ := hstores.text hl (hk _ rfl)
    have hdirect : hd.text (.ref l.ref) = .ok contents := by
      simp only [Host.text, Heap.text, Heap.object_eq_ok.2 hget]
    have hexported : he.text (.handle l.handle) = .ok contents := by
      simp only [Host.text, hagree.exported, hm, bind, Except.bind, Module.text, Arena.text,
        Arena.textEntry, hget']
    rw [hdirect, hexported]
    exact .ok rfl

theorem apply_setText_plain (hv : v.isPlain = true) (contents : String) (h : Host) :
    (setText v contents).apply h = (.error (.mismatch "string" v.kindName), h) := by
  unfold setText
  rw [apply_bind, apply_get]
  cases v with
  | ref | handle => cases hv
  | null | int | long | float | double => rfl

theorem steps_setText (h : Relates links (some .text) v w) (contents : String) :
    Steps links (fun _ _ => True) (setText v contents) (setText w contents) := by
  intro hd he hagree
  cases h with
  | plain hv =>
    rw [apply_setText_plain hv, apply_setText_plain hv]
    exact ⟨.error (.same _), hagree, grows_refl⟩
  | @linked l hl hk =>
    obtain ⟨a, hm, ha, hstores⟩ := hagree.module?
    obtain ⟨kind, old, hget, hget'⟩ := hstores.text hl (hk _ rfl)
    have hset : hd.heap.setText l.ref contents
        = .ok (hd.heap.put l.ref (.object ⟨textClass kind, .empty, .text contents⟩)) := by
      rw [Heap.setText, Heap.object_eq_ok.2 hget]
    have hset' : a.setText l.handle contents = .ok (a.put l.handle (.text kind contents)) := by
      rw [Arena.setText, Arena.textEntry, hget']
    have hnew : l.Agrees links
        (hd.heap.put l.ref (.object ⟨textClass kind, .empty, .text contents⟩))
        (a.put l.handle (.text kind contents)) := by
      rw [Link.Agrees, hk _ rfl]
      exact ⟨kind, contents, Heap.get?_put_self hget _, Arena.get?_put_self hget' _⟩
    have hne : l.kind ≠ .stream := by
      rw [hk _ rfl]
      decide
    rw [apply_setText_ref, apply_updateHeap_of_ok hset, apply_setText_handle hagree.exported,
      apply_onModule, hm]
    simp only [Module.setText, hset', Module.ofArena]
    exact ⟨.ok trivial, hagree.of_stores (hstores.put hl hne hnew),
      grows_of_stores ha (Nat.le_of_eq (Heap.size_put _)) (Nat.le_of_eq (Arena.size_put _))⟩

/-- The two ends of a new link. -/
theorem creates_alloc (kind : ObjectKind) {e : Entry} {e' : ArenaEntry} {a : Arena}
    (hagree : Agree links hd he) (hroom : Room 1 hd he) (ha : he.attached = some (.arena a))
    (hstores : Stores links hd.heap a)
    (hnew : Link.Agrees (⟨(hd.heap.alloc e).1, a.next, kind⟩ :: links) (hd.heap.alloc e).2
      (a.alloc e').2 ⟨(hd.heap.alloc e).1, a.next, kind⟩)
    (hstream : kind = .stream → ∃ v, (hd.heap.alloc e).2.field (hd.heap.alloc e).1
      Host.descriptorField = .ok v ∧ ∀ d, v ≠ .ref d) :
    ∃ links', links ⊆ links' ∧
      ResultMatch (Relates links' none) (.ok (.ref (hd.heap.alloc e).1)) (.ok (a.alloc e').1) ∧
      Agree links' { hd with heap := (hd.heap.alloc e).2 }
        { he with attached := some (.arena (a.alloc e').2) } ∧
      Grows 1 hd he { hd with heap := (hd.heap.alloc e).2 }
        { he with attached := some (.arena (a.alloc e').2) } := by
  refine ⟨⟨(hd.heap.alloc e).1, a.next, kind⟩ :: links, List.subset_cons_self _ _, .ok ?_, ?_,
    grows_of_stores ha (Nat.le_of_eq (Heap.size_alloc e)) (Nat.le_of_eq (Arena.size_alloc e'))⟩
  · rw [Arena.alloc_fst]
    exact .linked List.mem_cons_self fun _ hk => by cases hk
  · exact hagree.of_stores (hstores.alloc hroom.heap_lt (hroom.arena_lt ha) hnew hstream)

theorem creates_newText (kind : TextKind) (contents : String) :
    Creates links (fun links' => Relates links' none) (newText kind contents)
      (newText kind contents) := by
  intro hd he hagree hroom
  obtain ⟨a, hm, ha, hstores⟩ := hagree.module?
  have hexported : (newText kind contents).apply he
      = (.ok (a.alloc (.text kind contents)).1,
          { he with attached := some (.arena (a.alloc (.text kind contents)).2) }) := by
    rw [apply_newText_exported hagree.exported, apply_onModule, hm]
    rfl
  rw [apply_newText_direct hagree.direct, hexported]
  refine creates_alloc .text hagree hroom ha hstores ?_ fun hk => by cases hk
  exact ⟨kind, contents, Heap.get?_alloc_self hroom.heap_lt _,
    Arena.get?_alloc_next (hroom.arena_lt ha) _⟩

/-! ## Arrays -/

/-- Looking at an array: a plain value is none, and what is linked holds related elements. -/
theorem steps_viewArray {α β : Type} {R : α → β → Prop} {f : Host → Value → Except Fault α}
    {g : Host → Value → Except Fault β} (h : Relates links (some .array) v w)
    (hplain : ∀ h h' v, v.isPlain = true → ResultMatch R (f h v) (g h' v))
    (hlinked : ∀ hd he a r n xs ys, hd.heap.get? r = some (.array xs) →
      he.module? = .ok (.arena a) → a.get? n = some (.array ys) →
      List.Forall₂ (Relates links none) xs ys → ResultMatch R (f hd (.ref r)) (g he (.handle n))) :
    Steps links R (view fun h => f h v) (view fun h => g h w) := by
  refine steps_view fun hd he hagree => ?_
  cases h with
  | plain hv => exact hplain hd he v hv
  | @linked l hl hk =>
    obtain ⟨a, hm, -, hstores⟩ := hagree.module?
    obtain ⟨xs, ys, hget, hget', hitems⟩ := hstores.array hl (hk _ rfl)
    exact hlinked hd he a l.ref l.handle xs ys hget hm hget' hitems

theorem arrayLength_plain (h : Host) (hv : v.isPlain = true) :
    h.arrayLength v = .error (v.notA "array") := by
  cases v with
  | ref | handle => cases hv
  | null | int | long | float | double => rfl

theorem arrayGet_plain (h : Host) (hv : v.isPlain = true) (i : Nat) :
    h.arrayGet v i = .error (v.notA "array") := by
  cases v with
  | ref | handle => cases hv
  | null | int | long | float | double => rfl

theorem arrayValues_plain (h : Host) (hv : v.isPlain = true) :
    h.arrayValues v = .error (v.notA "array") := by
  cases v with
  | ref | handle => cases hv
  | null | int | long | float | double => rfl

theorem steps_arrayLength (h : Relates links (some .array) v w) :
    Steps links Eq (arrayLength v) (arrayLength w) := by
  refine steps_viewArray (f := Host.arrayLength) (g := Host.arrayLength) h ?_ ?_
  · intro h h' v hv
    rw [arrayLength_plain h hv, arrayLength_plain h' hv]
    exact .error (.same _)
  · intro hd he a r n xs ys hget hm hget' hitems
    simp only [Host.arrayLength, Heap.array_eq_ok.2 hget, hm, bind, Except.bind,
      Module.arrayLength, Arena.array_eq_ok.2 hget', Except.map]
    exact .ok hitems.length_eq

theorem steps_arrayValues (h : Relates links (some .array) v w) :
    Steps links (List.Forall₂ (Relates links none)) (arrayValues v) (arrayValues w) := by
  refine steps_viewArray (f := Host.arrayValues) (g := Host.arrayValues) h ?_ ?_
  · intro h h' v hv
    rw [arrayValues_plain h hv, arrayValues_plain h' hv]
    exact .error (.same _)
  · intro hd he a r n xs ys hget hm hget' hitems
    simp only [Host.arrayValues, Heap.array_eq_ok.2 hget, hm, bind, Except.bind,
      arrayValues_arena hget']
    exact .ok hitems

theorem steps_arrayGet (h : Relates links (some .array) v w) (i : Nat) :
    Steps links (Relates links none) (arrayGet v i) (arrayGet w i) := by
  refine steps_viewArray (f := fun h v => h.arrayGet v i) (g := fun h v => h.arrayGet v i) h ?_ ?_
  · intro h h' v hv
    rw [arrayGet_plain h hv, arrayGet_plain h' hv]
    exact .error (.same _)
  · intro hd he a r n xs ys hget hm hget' hitems
    simp only [Host.arrayGet, Heap.arrayGet, Heap.array_eq_ok.2 hget, hm, bind, Except.bind,
      Module.arrayGet, Arena.arrayGet, Arena.array_eq_ok.2 hget']
    by_cases hi : i < xs.length
    · have hi' : i < ys.length := hitems.length_eq ▸ hi
      rw [List.getElem?_eq_getElem hi, List.getElem?_eq_getElem hi']
      exact .ok (hitems.get hi hi')
    · rw [List.getElem?_eq_none (by omega),
        List.getElem?_eq_none (by rw [← hitems.length_eq]; omega), ← hitems.length_eq]
      exact .error (.index i xs.length)

theorem forall₂_set {R : Value → Value → Prop} {xs ys : List Value} (h : List.Forall₂ R xs ys)
    (i : Nat) (hxy : R x y) : List.Forall₂ R (xs.set i x) (ys.set i y) := by
  induction h generalizing i with
  | nil => exact .nil
  | cons hab hrest ih =>
    cases i with
    | zero => exact .cons hxy hrest
    | succ i => exact .cons hab (ih i)

theorem apply_arraySet_ref (r : Ref) (i : Nat) (h : Host) :
    (arraySet (.ref r) i x).apply h = (updateHeap fun heap => heap.arraySet r i x).apply h := rfl

theorem apply_arraySet_handle (n : UInt32) (i : Nat) (h : Host) :
    (arraySet (.handle n) i y).apply h = (onModule fun m => m.arraySet n i y).apply h := rfl

theorem steps_arraySet (h : Relates links (some .array) v w) (i : Nat)
    (hxy : Relates links none x y) :
    Steps links (fun _ _ => True) (arraySet v i x) (arraySet w i y) := by
  intro hd he hagree
  cases h with
  | plain hv =>
    cases v with
    | ref | handle => cases hv
    | null | int | long | float | double => exact ⟨.error (.same _), hagree, grows_refl⟩
  | @linked l hl hk =>
    obtain ⟨a, hm, ha, hstores⟩ := hagree.module?
    obtain ⟨xs, ys, hget, hget', hitems⟩ := hstores.array hl (hk _ rfl)
    rw [apply_arraySet_ref, apply_arraySet_handle, apply_updateHeap, apply_onModule, hm]
    by_cases hi : i < xs.length
    · have hi' : i < ys.length := hitems.length_eq ▸ hi
      have hnew : l.Agrees links (hd.heap.put l.ref (.array (xs.set i x)))
          (a.put l.handle (.array (ys.set i y))) := by
        rw [Link.Agrees, hk _ rfl]
        exact ⟨_, _, Heap.get?_put_self hget _, Arena.get?_put_self hget' _,
          forall₂_set hitems i hxy⟩
      have hne : l.kind ≠ .stream := by
        rw [hk _ rfl]
        decide
      rw [Heap.arraySet_of_array hget hi]
      simp only [Module.arraySet, Arena.arraySet_of_array hget' hi', Module.ofArena]
      exact ⟨.ok trivial, hagree.of_stores (hstores.put hl hne hnew),
        grows_of_stores ha (Nat.le_of_eq (Heap.size_put _)) (Nat.le_of_eq (Arena.size_put _))⟩
    · have hset : hd.heap.arraySet l.ref i x = .error (.argument (.arrayIndex i xs.length)) := by
        rw [Heap.arraySet, Heap.array_eq_ok.2 hget]
        exact if_neg hi
      have hset' : a.arraySet l.handle i y = .error (.argument (.index i xs.length)) := by
        rw [Arena.arraySet, Arena.array_eq_ok.2 hget', hitems.length_eq]
        exact if_neg (hitems.length_eq ▸ hi)
      rw [hset]
      simp only [Module.arraySet, hset', Module.ofArena]
      exact ⟨.error (.index i xs.length), hagree.of_stores hstores,
        grows_of_stores ha (Nat.le_refl _) (Nat.le_refl _)⟩

/-- Filling an array goes as far on one side as on the other. -/
theorem steps_arrayFill (h : Relates links (some .array) v w) {xs ys : List Value}
    (hitems : List.Forall₂ (Relates links none) xs ys) (i : Nat) :
    Steps links (fun _ _ => True) (arrayFill v i xs) (arrayFill w i ys) := by
  induction hitems generalizing i with
  | nil => exact steps_pure trivial
  | cons hxy _ ih => exact (steps_arraySet h i hxy).bind fun _ _ _ => ih (i + 1)

theorem creates_newArray {xs ys : List Value} (hitems : List.Forall₂ (Relates links none) xs ys) :
    Creates links (fun links' => Relates links' none) (newArray xs) (newArray ys) := by
  intro hd he hagree hroom
  obtain ⟨a, hm, ha, hstores⟩ := hagree.module?
  have hdirect : (newArray xs).apply hd
      = (.ok (.ref (hd.heap.alloc (.array xs)).1),
          { hd with heap := (hd.heap.alloc (.array xs)).2 }) := by
    unfold newArray
    rw [apply_bind, apply_get]
    simp only [hagree.direct]
    rw [apply_bind, apply_allocArray]
    rfl
  have hexported : (newArray ys).apply he
      = (.ok (a.alloc (.array ys)).1,
          { he with attached := some (.arena (a.alloc (.array ys)).2) }) := by
    unfold newArray
    rw [apply_bind, apply_get]
    simp only [hagree.exported]
    rw [apply_onModule, hm]
    rfl
  rw [hdirect, hexported]
  refine creates_alloc .array hagree hroom ha hstores ?_ fun hk => by cases hk
  exact ⟨xs, ys, Heap.get?_alloc_self hroom.heap_lt _, Arena.get?_alloc_next (hroom.arena_lt ha) _,
    forall₂_mono hitems (List.subset_cons_self _ _)⟩

/-! ## Streams -/

theorem steps_descriptor (h : Relates links (some .stream) v w) :
    Steps links Eq (descriptor v) (descriptor w) := by
  refine steps_view fun hd he hagree => ?_
  cases h with
  | plain hv =>
    cases v with
    | ref | handle => cases hv
    | null | int | long | float | double => exact .error (.same _)
  | @linked l hl hk =>
    obtain ⟨a, hm, -, hstores⟩ := hagree.module?
    obtain ⟨n, hn, hget'⟩ := hstores.stream hl (hk _ rfl)
    have hdirect : hd.descriptor (.ref l.ref) = .ok n := hn
    have hexported : he.descriptor (.handle l.handle) = .ok n := by
      simp only [Host.descriptor, hm, bind, Except.bind, Module.stream,
        Arena.stream_eq_ok.2 hget']
    rw [hdirect, hexported]
    exact .ok rfl

/-- Setting a number may create a descriptor in direct mode, but nothing that guest code sees. -/
theorem creates_setDescriptor (h : Relates links (some .stream) v w) (n : Int32) :
    Creates links (fun _ _ _ => True) (setDescriptor v n) (setDescriptor w n) := by
  intro hd he hagree hroom
  cases h with
  | plain hv =>
    cases v with
    | ref | handle => cases hv
    | null | int | long | float | double =>
      exact ⟨links, List.Subset.refl links, .error (.same _), hagree, grows_refl⟩
  | @linked l hl hk =>
    obtain ⟨a, hm, ha, hstores⟩ := hagree.module?
    obtain ⟨m, -, hget'⟩ := hstores.stream hl (hk _ rfl)
    obtain ⟨heap, hset, hsets⟩ := sets_setDescriptor hstores.apart
      (mem_streamsOf.2 ⟨l, hl, hk _ rfl, rfl⟩) hroom.heap_lt n
    have hexported : (setDescriptor (.handle l.handle) n).apply he
        = (.ok (), { he with attached := some (.arena (a.put l.handle (.stream n))) }) := by
      show (onModule fun m => m.setStream l.handle n).apply he = _
      rw [apply_onModule, hm]
      simp only [Module.setStream, Arena.setStream_of_stream hget', Module.ofArena]
    rw [hset, hexported]
    exact ⟨links, List.Subset.refl links, .ok trivial,
      hagree.of_stores (hstores.setNumber hl (hk _ rfl) hsets),
      grows_of_stores ha hsets.size_le (Nat.le_succ_of_le (Nat.le_of_eq (Arena.size_put _)))⟩

/-- A stream without a number, as a new instance of a class on the one side and as an object of the
module on the other. -/
theorem creates_newStream (sort : StreamSort) :
    Creates links (fun links' => Relates links' none) (allocate sort.cls) newStream := by
  intro hd he hagree hroom
  obtain ⟨a, hm, ha, hstores⟩ := hagree.module?
  obtain ⟨c, hc⟩ := hagree.classes sort
  have hdirect : (allocate sort.cls).apply hd
      = (.ok (.ref (hd.heap.allocObject sort.cls .empty).1),
          { hd with heap := (hd.heap.allocObject sort.cls .empty).2 }) := by
    have hrecord : (getClassRecord sort.cls).apply hd = (.ok c, hd) := apply_view_of_ok hc
    unfold allocate
    rw [apply_bind_of_ok hrecord, apply_bind, apply_allocObject]
    rfl
  have hexported : newStream.apply he
      = (.ok (a.alloc (.stream (-1))).1,
          { he with attached := some (.arena (a.alloc (.stream (-1))).2) }) := by
    unfold newStream
    rw [apply_onModule, hm]
  have hget := Heap.get?_alloc_self hroom.heap_lt (.object ⟨sort.cls, .empty, .empty⟩)
  have hfield : (hd.heap.allocObject sort.cls .empty).2.field
      (hd.heap.allocObject sort.cls .empty).1 Host.descriptorField = .ok .null :=
    Heap.field_eq_ok.2 ⟨_, hget, rfl⟩
  have hnone : ∀ d, Value.null ≠ .ref d := fun d hd => by cases hd
  rw [hdirect, hexported]
  refine creates_alloc .stream hagree hroom ha hstores ?_ fun _ => ⟨_, hfield, hnone⟩
  exact ⟨-1, Heap.number_of_none hfield hnone, Arena.get?_alloc_next (hroom.arena_lt ha) _⟩

end GuestHost
