import GuestHost.Host.Startup
import GuestHost.Proofs.Modes.Links

/-!
# Two hosts side by side

A host in direct mode and one in exported mode that hold the same, and actions that keep it so.

* `Agree` — two hosts hold the same objects, and have the same files, source and natives;
* `Steps` — two actions give the same and leave the hosts as much alike as they were;
* `Creates` — they may moreover create an object on both sides, which is then linked;
* `Steps.bind`, `Steps.bind_creates`, `Creates.map` — how a run of several actions is taken apart.

Faults are the same up to the two places in which the modes word one and the same fault differently.
-/

namespace GuestHost

/-! ## Results -/

/-- Two faults of the same kind: they are equal, or they word an index out of bounds or an object in the
wrong place as their mode does. -/
inductive Fault.Matches : Fault → Fault → Prop
  | same (fault : Fault) : Matches fault fault
  | index (i length : Nat) :
    Matches (.argument (.arrayIndex i length)) (.argument (.index i length))
  | object (expected : String) : Matches (.mismatch expected "object") (.mismatch expected "extern")

variable {α β γ δ : Type}

/-- Both results are related values, or faults of the same kind. -/
inductive ResultMatch (R : α → β → Prop) : Except Fault α → Except Fault β → Prop
  | ok {x : α} {y : β} (h : R x y) : ResultMatch R (.ok x) (.ok y)
  | error {f g : Fault} (h : f.Matches g) : ResultMatch R (.error f) (.error g)

theorem ResultMatch.imp {R S : α → β → Prop} {x : Except Fault α} {y : Except Fault β}
    (h : ResultMatch R x y) (hRS : ∀ a b, R a b → S a b) : ResultMatch S x y := by
  cases h with
  | ok h => exact .ok (hRS _ _ h)
  | error h => exact .error h

theorem ResultMatch.rfl' {x : Except Fault α} : ResultMatch Eq x x := by
  cases x with
  | ok => exact .ok rfl
  | error => exact .error (.same _)

theorem ResultMatch.map {R : α → β → Prop} {S : γ → δ → Prop} {x : Except Fault α}
    {y : Except Fault β} {f : α → γ} {g : β → δ} (h : ResultMatch R x y)
    (hfg : ∀ a b, R a b → S (f a) (g b)) : ResultMatch S (x.map f) (y.map g) := by
  cases h with
  | ok h => exact .ok (hfg _ _ h)
  | error h => exact .error h

theorem ResultMatch.bind {R : α → β → Prop} {S : γ → δ → Prop} {x : Except Fault α}
    {y : Except Fault β} {f : α → Except Fault γ} {g : β → Except Fault δ} (h : ResultMatch R x y)
    (hfg : ∀ a b, R a b → ResultMatch S (f a) (g b)) : ResultMatch S (x >>= f) (y >>= g) := by
  cases h with
  | ok h => exact hfg _ _ h
  | error h => exact .error h

/-! ## Hosts -/

/-- What a file stream is for. -/
inductive StreamSort
  | input
  | output
deriving Repr, DecidableEq

/-- The class of the streams of a sort. -/
def StreamSort.cls : StreamSort → ClassId
  | .input => 6
  | .output => 7

/-- A host in direct mode and one in exported mode that hold the same objects, and that have the same
files, the same source of files and the host's own natives. -/
structure Agree (links : List Link) (hd he : Host) : Prop where
  direct : hd.mode = .direct
  exported : he.mode = .exported
  files : he.files = hd.files
  source : he.source = hd.source
  importsDirect : hd.imports = .standard
  importsExported : he.imports = .standard
  classes : ∀ sort : StreamSort, ∃ c, hd.registry.get sort.cls = .ok c
  stores : ∃ a, he.attached = some (.arena a) ∧ Stores links hd.heap a

/-- Number of objects of a module in memory. -/
def Host.objectCount (h : Host) : Nat :=
  match h.attached with
  | some (.arena a) => a.size
  | _ => 0

/-- Room for `n` more objects on both sides: references and handles are 32-bit. -/
structure Room (n : Nat) (hd he : Host) : Prop where
  heap : hd.heap.size + n ≤ 2 ^ 32
  module : he.objectCount + n ≤ 2 ^ 32

/-- Two hosts that have at most `n` objects more, on either side, than two others. -/
structure Grows (n : Nat) (hd he hd' he' : Host) : Prop where
  heap : hd'.heap.size ≤ hd.heap.size + n
  module : he'.objectCount ≤ he.objectCount + n

variable {links links' : List Link} {hd he hd' he' hd'' he'' : Host} {m n : Nat}

theorem grows_refl : Grows n hd he hd he := ⟨Nat.le_add_right _ _, Nat.le_add_right _ _⟩

theorem Grows.mono (h : Grows m hd he hd' he') (hmn : m ≤ n) : Grows n hd he hd' he' :=
  ⟨Nat.le_trans h.heap (Nat.add_le_add_left hmn _),
    Nat.le_trans h.module (Nat.add_le_add_left hmn _)⟩

theorem Grows.trans (h : Grows m hd he hd' he') (h' : Grows n hd' he' hd'' he'') :
    Grows (m + n) hd he hd'' he'' := by
  have hheap := h.heap
  have hmodule := h.module
  have hheap' := h'.heap
  have hmodule' := h'.module
  constructor <;> omega

/-- Objects that were added take up room. -/
theorem Grows.room (h : Grows m hd he hd' he') (hroom : Room (m + n) hd he) : Room n hd' he' := by
  have hheap := h.heap
  have hmodule := h.module
  have hheap' := hroom.heap
  have hmodule' := hroom.module
  constructor <;> omega

theorem Room.one (h : Room (1 + n) hd he) : Room 1 hd he := by
  have hheap := h.heap
  have hmodule := h.module
  constructor <;> omega

theorem Room.heap_lt (h : Room 1 hd he) : hd.heap.size < 2 ^ 32 := by
  have := h.heap
  omega

/-- Two actions that give related values or faults of the same kind, and leave the hosts alike. -/
def Steps (links : List Link) (R : α → β → Prop) (a : Action α) (b : Action β) : Prop :=
  ∀ hd he, Agree links hd he →
    ResultMatch R (a.apply hd).1 (b.apply he).1 ∧ Agree links (a.apply hd).2 (b.apply he).2 ∧
      Grows 0 hd he (a.apply hd).2 (b.apply he).2

/-- Two actions that moreover may create an object, which is linked then. -/
def Creates (links : List Link) (R : List Link → α → β → Prop) (a : Action α) (b : Action β) : Prop :=
  ∀ hd he, Agree links hd he → Room 1 hd he →
    ∃ links', links ⊆ links' ∧ ResultMatch (R links') (a.apply hd).1 (b.apply he).1 ∧
      Agree links' (a.apply hd).2 (b.apply he).2 ∧ Grows 1 hd he (a.apply hd).2 (b.apply he).2

theorem Steps.creates {R : List Link → α → β → Prop} {a : Action α} {b : Action β}
    (h : Steps links (R links) a b) : Creates links R a b := by
  intro hd he hagree _
  obtain ⟨hresult, hagree', hgrows⟩ := h hd he hagree
  exact ⟨links, List.Subset.refl links, hresult, hagree', hgrows.mono (Nat.zero_le 1)⟩

open GuestHost.Action

theorem Steps.bind {R : α → β → Prop} {S : γ → δ → Prop} {a : Action α} {b : Action β}
    {f : α → Action γ} {g : β → Action δ} (h : Steps links R a b)
    (hfg : ∀ x y, R x y → Steps links S (f x) (g y)) : Steps links S (a >>= f) (b >>= g) := by
  intro hd he hagree
  obtain ⟨hresult, hagree', hgrows⟩ := h hd he hagree
  rw [apply_bind, apply_bind]
  rcases ha : a.apply hd with ⟨x, hd'⟩
  rcases hb : b.apply he with ⟨y, he'⟩
  rw [ha, hb] at hresult hagree' hgrows
  cases hresult with
  | ok hxy =>
    obtain ⟨hresult, hagree'', hgrows'⟩ := hfg _ _ hxy hd' he' hagree'
    exact ⟨hresult, hagree'', hgrows.trans hgrows'⟩
  | error hfault => exact ⟨.error hfault, hagree', hgrows⟩

theorem Steps.bind_creates {R : α → β → Prop} {S : List Link → γ → δ → Prop} {a : Action α}
    {b : Action β} {f : α → Action γ} {g : β → Action δ} (h : Steps links R a b)
    (hfg : ∀ x y, R x y → Creates links S (f x) (g y)) : Creates links S (a >>= f) (b >>= g) := by
  intro hd he hagree hroom
  obtain ⟨hresult, hagree', hgrows⟩ := h hd he hagree
  rw [apply_bind, apply_bind]
  rcases ha : a.apply hd with ⟨x, hd'⟩
  rcases hb : b.apply he with ⟨y, he'⟩
  rw [ha, hb] at hresult hagree' hgrows
  cases hresult with
  | ok hxy =>
    obtain ⟨links', hsub, hresult, hagree'', hgrows'⟩ :=
      hfg _ _ hxy hd' he' hagree' (hgrows.room (by rwa [Nat.zero_add]))
    exact ⟨links', hsub, hresult, hagree'', hgrows.trans hgrows'⟩
  | error hfault =>
    exact ⟨links, List.Subset.refl links, .error hfault, hagree', hgrows.mono (Nat.zero_le 1)⟩

/-- A result that is made of a created object. -/
theorem Creates.map {R : List Link → α → β → Prop} {S : List Link → γ → δ → Prop} {a : Action α}
    {b : Action β} {f : α → γ} {g : β → δ} (h : Creates links R a b)
    (hfg : ∀ links', links ⊆ links' → ∀ x y, R links' x y → S links' (f x) (g y)) :
    Creates links S (a >>= fun x => pure (f x)) (b >>= fun y => pure (g y)) := by
  intro hd he hagree hroom
  obtain ⟨links', hsub, hresult, hrest⟩ := h hd he hagree hroom
  refine ⟨links', hsub, ?_⟩
  rw [apply_bind, apply_bind]
  rcases ha : a.apply hd with ⟨x, hd'⟩
  rcases hb : b.apply he with ⟨y, he'⟩
  rw [ha, hb] at hresult hrest
  cases hresult with
  | ok hxy => exact ⟨.ok (hfg links' hsub _ _ hxy), hrest⟩
  | error hfault => exact ⟨.error hfault, hrest⟩

theorem steps_pure {R : α → β → Prop} {x : α} {y : β} (h : R x y) :
    Steps links R (pure x) (pure y) := fun _ _ hagree => ⟨.ok h, hagree, grows_refl⟩

theorem steps_ofResult {R : α → β → Prop} {x : Except Fault α} {y : Except Fault β}
    (h : ResultMatch R x y) : Steps links R (ofResult x) (ofResult y) :=
  fun _ _ hagree => ⟨h, hagree, grows_refl⟩

theorem steps_fail {R : α → β → Prop} (fault : Fault) : Steps links R (fail fault) (fail fault) :=
  fun _ _ hagree => ⟨.error (.same fault), hagree, grows_refl⟩

theorem steps_view {R : α → β → Prop} {f : Host → Except Fault α} {g : Host → Except Fault β}
    (h : ∀ hd he, Agree links hd he → ResultMatch R (f hd) (g he)) :
    Steps links R (view f) (view g) :=
  fun hd he hagree => ⟨h hd he hagree, hagree, grows_refl⟩

/-! ## Files -/

/-- An operation of the file table has the same answer on both sides. -/
theorem steps_onFiles (f : FileTable → α × FileTable) : Steps links Eq (onFiles f) (onFiles f) := by
  intro hd he hagree
  rw [apply_onFiles, apply_onFiles, hagree.files]
  refine ⟨.ok rfl, ?_, ⟨Nat.le_refl _, Nat.le_refl _⟩⟩
  exact { hagree with files := rfl }

theorem steps_openFile (path : String) : Steps links Eq (openFile path) (openFile path) := by
  intro hd he hagree
  rw [apply_openFile, apply_openFile, hagree.files, hagree.source]
  refine ⟨.ok rfl, ?_, ⟨Nat.le_refl _, Nat.le_refl _⟩⟩
  exact { hagree with files := rfl, source := rfl }

theorem steps_available (n : Int32) :
    Steps links (Relates links none) (do return Value.int ((← get).files.available n) : Action Value)
      (do return Value.int ((← get).files.available n) : Action Value) := by
  intro hd he hagree
  refine ⟨?_, hagree, grows_refl⟩
  show ResultMatch (Relates links none) (.ok (Value.int (hd.files.available n)))
    (.ok (Value.int (he.files.available n)))
  rw [hagree.files]
  exact .ok (.plain rfl)

theorem steps_fileExists (path : String) : Steps links Eq (fileExists path) (fileExists path) := by
  intro hd he hagree
  refine ⟨?_, hagree, grows_refl⟩
  show ResultMatch Eq (.ok (hd.files.holds hd.source path)) (.ok (he.files.holds he.source path))
  rw [hagree.files, hagree.source]
  exact .ok rfl

end GuestHost
