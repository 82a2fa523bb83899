import Mathlib.Data.List.Forall2
import GuestHost.Proofs.Streams.Descriptors

/-!
# Two stores of the same objects

In direct mode the texts, arrays and file streams of a guest are entries of the heap, in exported mode
they are objects of the module. A list of links says which entry stands for which object. Objects are
only ever created, so a list of links only grows, and what was related stays related.

* `Relates` — values of the two modes that stand for the same thing: equal primitives, or the two ends
  of a link;
* `Stores` — the links are one-to-one, and the two ends of each hold the same;
* `Stores.put`, `Stores.setNumber`, `Stores.alloc` — how the two stores are changed together.
-/

namespace GuestHost

/-! ## Links -/

/-- What a link links. -/
inductive ObjectKind
  | text
  | array
  | stream
deriving Repr, DecidableEq

/-- A heap entry and the object of a module that stands for the same. -/
structure Link where
  ref : Ref
  handle : UInt32
  kind : ObjectKind
deriving Repr, DecidableEq

/-- Whether a value is null or a primitive. -/
def Value.isPlain : Value → Bool
  | .ref _ | .handle _ => false
  | _ => true

/-- A value in direct mode and one in exported mode that stand for the same: equal plain values, or the
ends of a link; of a link of the given kind, if one is given. -/
inductive Relates (links : List Link) (kind? : Option ObjectKind) : Value → Value → Prop
  | plain {v : Value} (hv : v.isPlain = true) : Relates links kind? v v
  | linked {l : Link} (hl : l ∈ links) (hkind : ∀ k ∈ kind?, l.kind = k) :
      Relates links kind? (.ref l.ref) (.handle l.handle)

/-- Every entry and every object is an end of at most one link. -/
structure OneToOne (links : List Link) : Prop where
  ref : ∀ l ∈ links, ∀ l' ∈ links, l.ref = l'.ref → l = l'
  handle : ∀ l ∈ links, ∀ l' ∈ links, l.handle = l'.handle → l = l'

/-- The entries that are linked. -/
def refsOf (links : List Link) : List Ref := links.map (·.ref)

/-- The streams that are linked. -/
def streamsOf (links : List Link) : List Ref :=
  (links.filter fun l => l.kind = .stream).map (·.ref)

/-- The two ends of a link hold the same. -/
def Link.Agrees (links : List Link) (heap : Heap) (a : Arena) (l : Link) : Prop :=
  match l.kind with
  | .text => ∃ kind contents,
      heap.get? l.ref = some (.object ⟨Action.textClass kind, .empty, .text contents⟩) ∧
        a.get? l.handle = some (.text kind contents)
  | .array => ∃ xs ys, heap.get? l.ref = some (.array xs) ∧ a.get? l.handle = some (.array ys) ∧
      List.Forall₂ (Relates links none) xs ys
  | .stream => ∃ n, heap.number l.ref = .ok n ∧ a.get? l.handle = some (.stream n)

/-- The heap and the module hold the same at the two ends of every link. -/
structure Stores (links : List Link) (heap : Heap) (a : Arena) : Prop where
  oneToOne : OneToOne links
  agrees : ∀ l ∈ links, l.Agrees links heap a
  apart : heap.StreamsApart (refsOf links) (streamsOf links)

variable {links links' : List Link} {heap heap' : Heap} {a a' : Arena} {l : Link} {v w : Value}
  {kind? : Option ObjectKind}

theorem Relates.mono (h : Relates links kind? v w) (hsub : links ⊆ links') :
    Relates links' kind? v w := by
  cases h with
  | plain hv => exact .plain hv
  | linked hl hkind => exact .linked (hsub hl) hkind

/-- Values that are related as ends of some kind are related. -/
theorem Relates.any (h : Relates links kind? v w) : Relates links none v w := by
  cases h with
  | plain hv => exact .plain hv
  | linked hl _ => exact .linked hl fun _ hk => by cases hk

theorem forall₂_mono {xs ys : List Value} (h : List.Forall₂ (Relates links none) xs ys)
    (hsub : links ⊆ links') : List.Forall₂ (Relates links' none) xs ys :=
  h.imp fun _ _ hxy => hxy.mono hsub

theorem Relates.isNull_eq (h : Relates links kind? v w) : v.isNull = w.isNull := by
  cases h <;> rfl

theorem mem_refsOf (hl : l ∈ links) : l.ref ∈ refsOf links := List.mem_map_of_mem hl

theorem mem_streamsOf {r : Ref} :
    r ∈ streamsOf links ↔ ∃ l ∈ links, l.kind = .stream ∧ l.ref = r := by
  simp [streamsOf, and_assoc]

theorem OneToOne.not_mem_streamsOf (h : OneToOne links) (hl : l ∈ links) (hk : l.kind ≠ .stream) :
    l.ref ∉ streamsOf links := by
  intro hmem
  obtain ⟨l', hl', hk', href⟩ := mem_streamsOf.1 hmem
  obtain rfl := h.ref l' hl' l hl href
  exact hk hk'

/-- Stores without links hold whatever they hold. -/
theorem stores_nil : Stores [] heap a := by
  have hnone : ∀ {α : Type} {p : α → Prop}, ∀ x ∈ ([] : List α), p x := fun x hx => by cases hx
  exact ⟨⟨hnone, hnone⟩, hnone, hnone, hnone, hnone, hnone, hnone⟩

namespace Stores

/-! ## Reading the two ends of a link -/

theorem text (hs : Stores links heap a) (hl : l ∈ links) (hk : l.kind = .text) :
    ∃ kind contents,
      heap.get? l.ref = some (.object ⟨Action.textClass kind, .empty, .text contents⟩) ∧
        a.get? l.handle = some (.text kind contents) := by
  have hagrees := hs.agrees l hl
  rw [Link.Agrees, hk] at hagrees
  exact hagrees

theorem array (hs : Stores links heap a) (hl : l ∈ links) (hk : l.kind = .array) :
    ∃ xs ys, heap.get? l.ref = some (.array xs) ∧ a.get? l.handle = some (.array ys) ∧
      List.Forall₂ (Relates links none) xs ys := by
  have hagrees := hs.agrees l hl
  rw [Link.Agrees, hk] at hagrees
  exact hagrees

theorem stream (hs : Stores links heap a) (hl : l ∈ links) (hk : l.kind = .stream) :
    ∃ n, heap.number l.ref = .ok n ∧ a.get? l.handle = some (.stream n) := by
  have hagrees := hs.agrees l hl
  rw [Link.Agrees, hk] at hagrees
  exact hagrees

/-! ## Changing the two ends of a link -/

/-- The ends of a link hold the same if they do in stores that look the same there. -/
theorem agrees_congr (hl : l.Agrees links heap a)
    (hget : l.kind ≠ .stream → heap'.get? l.ref = heap.get? l.ref)
    (hnumber : l.kind = .stream → heap'.number l.ref = heap.number l.ref)
    (harena : a'.get? l.handle = a.get? l.handle) : l.Agrees links heap' a' := by
  unfold Link.Agrees at hl ⊢
  cases hk : l.kind with
  | text =>
    rw [hk] at hl
    simp only [harena, hget (by rw [hk]; decide)]
    exact hl
  | array =>
    rw [hk] at hl
    simp only [harena, hget (by rw [hk]; decide)]
    exact hl
  | stream =>
    rw [hk] at hl
    simp only [harena, hnumber hk]
    exact hl

/-- Replacing the ends of a link that is no stream. -/
theorem put (hs : Stores links heap a) (hl : l ∈ links) (hk : l.kind ≠ .stream) {e : Entry}
    {e' : ArenaEntry} (hnew : l.Agrees links (heap.put l.ref e) (a.put l.handle e')) :
    Stores links (heap.put l.ref e) (a.put l.handle e') := by
  have hsame := Heap.sameStreams_put hs.apart (mem_refsOf hl) (hs.oneToOne.not_mem_streamsOf hl hk) e
  refine ⟨hs.oneToOne, ?_, hsame.apart hs.apart ?_⟩
  · intro l' hl'
    by_cases heq : l = l'
    · exact heq ▸ hnew
    · refine agrees_congr (hs.agrees l' hl') ?_ ?_ ?_
      · intro _
        refine Heap.get?_put_of_ne ?_ e
        intro href
        exact heq (hs.oneToOne.ref l hl l' hl' href)
      · intro hk'
        exact hsame.number_eq (mem_streamsOf.2 ⟨l', hl', hk', rfl⟩)
      · refine Arena.get?_put_of_ne ?_ e'
        intro hhandle
        exact heq (hs.oneToOne.handle l hl l' hl' hhandle)
  · intro p hp
    obtain ⟨e₀, he₀⟩ := hs.apart.live p hp
    by_cases heq : l.ref = p
    · subst heq
      exact ⟨e, Heap.get?_put_self he₀ e⟩
    · exact ⟨e₀, (Heap.get?_put_of_ne heq e).trans he₀⟩

/-- Setting the number of a stream. -/
theorem setNumber (hs : Stores links heap a) (hl : l ∈ links) (hk : l.kind = .stream) {n : Int32}
    (hset : Heap.Sets (refsOf links) (streamsOf links) heap l.ref n heap') :
    Stores links heap' (a.put l.handle (.stream n)) := by
  obtain ⟨m, -, hstream⟩ := hs.stream hl hk
  refine ⟨hs.oneToOne, ?_, hset.apart⟩
  intro l' hl'
  by_cases heq : l = l'
  · subst heq
    rw [Link.Agrees, hk]
    exact ⟨n, hset.number_self, Arena.get?_put_self hstream _⟩
  · have href : l'.ref ≠ l.ref := fun href => heq (hs.oneToOne.ref l hl l' hl' href.symm)
    refine agrees_congr (hs.agrees l' hl') ?_ ?_ ?_
    · intro _
      exact hset.kept l'.ref (mem_refsOf hl') href
    · intro hk'
      exact hset.number_of_ne l'.ref (mem_streamsOf.2 ⟨l', hl', hk', rfl⟩) href
    · refine Arena.get?_put_of_ne ?_ _
      intro hhandle
      exact heq (hs.oneToOne.handle l hl l' hl' hhandle)

/-! ## New links -/

/-- What two stores hold is still the same after an entry was added to both. -/
theorem agrees_alloc (hs : Stores links heap a) (hl : l ∈ links) (e : Entry) (e' : ArenaEntry)
    (hsub : links ⊆ links') : l.Agrees links' (heap.alloc e).2 (a.alloc e').2 := by
  unfold Link.Agrees
  cases hk : l.kind with
  | text =>
    obtain ⟨kind, contents, hget, hget'⟩ := hs.text hl hk
    exact ⟨kind, contents, Heap.get?_alloc_of_some hget e, Arena.get?_alloc_of_some hget' e'⟩
  | array =>
    obtain ⟨xs, ys, hget, hget', hitems⟩ := hs.array hl hk
    exact ⟨xs, ys, Heap.get?_alloc_of_some hget e, Arena.get?_alloc_of_some hget' e',
      forall₂_mono hitems hsub⟩
  | stream =>
    obtain ⟨n, hn, hget'⟩ := hs.stream hl hk
    refine ⟨n, ?_, Arena.get?_alloc_of_some hget' e'⟩
    rw [(Heap.sameStreams_alloc hs.apart e).number_eq (mem_streamsOf.2 ⟨l, hl, hk, rfl⟩)]
    exact hn

/-- Adding an entry to both stores, and the link between them. -/
theorem alloc (hs : Stores links heap a) (hheap : heap.size < 2 ^ 32) (harena : a.size < 2 ^ 32)
    {e : Entry} {e' : ArenaEntry} {kind : ObjectKind}
    (hnew : Link.Agrees (⟨(heap.alloc e).1, a.next, kind⟩ :: links) (heap.alloc e).2 (a.alloc e').2
      ⟨(heap.alloc e).1, a.next, kind⟩)
    (hstream : kind = .stream → ∃ v, (heap.alloc e).2.field (heap.alloc e).1 Host.descriptorField
      = .ok v ∧ ∀ d, v ≠ .ref d) :
    Stores (⟨(heap.alloc e).1, a.next, kind⟩ :: links) (heap.alloc e).2 (a.alloc e').2 := by
  have hapart := hs.apart.alloc hheap e
  have hfresh : ∀ l ∈ links, l.ref ≠ (heap.alloc e).1 ∧ l.handle ≠ a.next := by
    intro l hl
    obtain ⟨e₀, he₀⟩ := hs.apart.live l.ref (mem_refsOf hl)
    refine ⟨Heap.ne_alloc_of_get? hheap he₀ e, ?_⟩
    obtain ⟨e₁, he₁⟩ : ∃ e₁, a.get? l.handle = some e₁ := by
      cases hk : l.kind with
      | text =>
        obtain ⟨_, _, -, h⟩ := hs.text hl hk
        exact ⟨_, h⟩
      | array =>
        obtain ⟨_, _, -, h, -⟩ := hs.array hl hk
        exact ⟨_, h⟩
      | stream =>
        obtain ⟨_, -, h⟩ := hs.stream hl hk
        exact ⟨_, h⟩
    exact Arena.ne_next_of_get? harena he₁
  refine ⟨⟨?_, ?_⟩, ?_, ?_⟩
  · intro l hl l' hl' href
    rcases List.mem_cons.1 hl with rfl | hl <;> rcases List.mem_cons.1 hl' with rfl | hl'
    · rfl
    · exact absurd href.symm (hfresh l' hl').1
    · exact absurd href (hfresh l hl).1
    · exact hs.oneToOne.ref l hl l' hl' href
  · intro l hl l' hl' hhandle
    rcases List.mem_cons.1 hl with rfl | hl <;> rcases List.mem_cons.1 hl' with rfl | hl'
    · rfl
    · exact absurd hhandle.symm (hfresh l' hl').2
    · exact absurd hhandle (hfresh l hl).2
    · exact hs.oneToOne.handle l hl l' hl' hhandle
  · intro l hl
    rcases List.mem_cons.1 hl with rfl | hl
    · exact hnew
    · exact agrees_alloc hs hl e e' (List.subset_cons_self _ _)
  · show (heap.alloc e).2.StreamsApart ((heap.alloc e).1 :: refsOf links) _
    by_cases hk : kind = .stream
    · subst hk
      obtain ⟨v, hv, hnone⟩ := hstream rfl
      exact hapart.cons List.mem_cons_self hv hnone
    · have hstreams : streamsOf (⟨(heap.alloc e).1, a.next, kind⟩ :: links) = streamsOf links := by
        simp [streamsOf, hk]
      rw [hstreams]
      exact hapart

end Stores

end GuestHost
