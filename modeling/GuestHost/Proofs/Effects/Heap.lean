import GuestHost.Proofs.Effects.Calls

/-!
# What stays of a heap

Entries are never taken from a heap, and what a write may make of one is little. An object keeps its
class and an array its length. An object without a payload may come to hold a text; otherwise payloads
stay of their kind, and those that the host trusts by reference do not change at all.

* `Payload.Stays`, `Entry.Stays`, `Heap.Grows` — what stays of a payload, of an entry and of a heap;
* `Effect.grows`, `Effects.grows` — one effect and a run of them see to it;
* `Heap.IsNew` — a reference that one heap does not have and a later one has.
-/

namespace GuestHost

/-! ## Payloads and entries -/

/-- What a payload may become: without a payload, an object may come to hold a text; a text and a host
value may become another text and another host value; anything else stays as it is. -/
def Payload.Stays : Payload → Payload → Prop
  | .empty, p => p = .empty ∨ ∃ contents, p = .text contents
  | .text _, p => ∃ contents, p = .text contents
  | .host _, p => ∃ data, p = .host data
  | p, p' => p' = p

/-- What an entry may become: an object keeps its class, and an array its length. -/
def Entry.Stays : Entry → Entry → Prop
  | .object o, .object o' => o'.cls = o.cls ∧ o.payload.Stays o'.payload
  | .array items, .array items' => items'.length = items.length
  | _, _ => False

namespace Payload.Stays

variable {p p' p'' : Payload}

theorem refl (p : Payload) : p.Stays p := by
  cases p <;> simp [Payload.Stays]

theorem trans (h : p.Stays p') (h' : p'.Stays p'') : p.Stays p'' := by
  cases p with
  | empty =>
    rcases h with rfl | ⟨contents, rfl⟩
    · exact h'
    · exact .inr h'
  | text =>
    obtain ⟨contents, rfl⟩ := h
    exact h'
  | host =>
    obtain ⟨data, rfl⟩ := h
    exact h'
  | mirror | methodHandle | methodType | factory | lambda =>
    obtain rfl := h
    exact h'

/-- What takes no text will never take one. -/
theorem not_takesText (h : p.Stays p') (hp : ¬ p.TakesText) : ¬ p'.TakesText := by
  cases p with
  | empty | text => exact absurd trivial hp
  | host =>
    obtain ⟨data, rfl⟩ := h
    exact hp
  | mirror | methodHandle | methodType | factory | lambda =>
    obtain rfl := h
    exact hp

end Payload.Stays

namespace Entry

variable {e e' e'' : Entry}

theorem Stays.refl (e : Entry) : e.Stays e := by
  cases e with
  | object o => exact ⟨rfl, .refl _⟩
  | array items => rfl

theorem Stays.trans (h : e.Stays e') (h' : e'.Stays e'') : e.Stays e'' := by
  cases e with
  | object o =>
    cases e' with
    | object o' =>
      cases e'' with
      | object o'' => exact ⟨h'.1.trans h.1, h.2.trans h'.2⟩
      | array => cases h'
    | array => cases h
  | array items =>
    cases e' with
    | object => cases h
    | array items' =>
      cases e'' with
      | object => cases h'
      | array items'' =>
        have hlength : items'.length = items.length := h
        have hlength' : items''.length = items'.length := h'
        exact hlength'.trans hlength

/-- An object stays one. -/
theorem Stays.object {o : Object} (h : Stays (.object o) e) :
    ∃ o', e = .object o' ∧ o'.cls = o.cls ∧ o.payload.Stays o'.payload := by
  cases e with
  | object o' => exact ⟨o', rfl, h⟩
  | array => cases h

/-- Writes make of an entry only what it may become. -/
theorem Turns.stays (hturns : e.Turns e') : e.Stays e' := by
  cases hturns with
  | field => exact ⟨rfl, .refl _⟩
  | @text o htakes contents =>
    refine ⟨rfl, ?_⟩
    cases hpayload : o.payload with
    | empty => exact .inr ⟨contents, rfl⟩
    | text => exact ⟨contents, rfl⟩
    | host | mirror | methodHandle | methodType | factory | lambda =>
      rw [hpayload] at htakes
      cases htakes
  | element items i v => simp [Stays]

end Entry

/-! ## Heaps -/

namespace Heap

variable {heap heap' heap'' : Heap} {r : Ref} {e e' : Entry}

/-- All entries of a heap are there in another, as what they may become. -/
structure Grows (heap heap' : Heap) : Prop where
  size : heap.size ≤ heap'.size
  entries : ∀ {r e}, heap.get? r = some e → ∃ e', heap'.get? r = some e' ∧ e.Stays e'

namespace Grows

theorem refl (heap : Heap) : heap.Grows heap where
  size := Nat.le_refl _
  entries hr := ⟨_, hr, .refl _⟩

theorem trans (h : heap.Grows heap') (h' : heap'.Grows heap'') : heap.Grows heap'' where
  size := Nat.le_trans h.size h'.size
  entries hr := by
    obtain ⟨e', hr', hstays⟩ := h.entries hr
    obtain ⟨e'', hr'', hstays'⟩ := h'.entries hr'
    exact ⟨e'', hr'', hstays.trans hstays'⟩

theorem alloc (heap : Heap) (e : Entry) : heap.Grows (heap.alloc e).2 where
  size := by simp
  entries hr := ⟨_, get?_alloc_of_some hr e, .refl _⟩

theorem put (hr : heap.get? r = some e) (hstays : e.Stays e') : heap.Grows (heap.put r e') where
  size := by simp
  entries {r' x} hr' := by
    by_cases heq : r = r'
    · subst heq
      obtain rfl : e = x := Option.some.inj (hr.symm.trans hr')
      exact ⟨e', get?_put_self hr e', hstays⟩
    · exact ⟨x, (get?_put_of_ne heq e').trans hr', .refl x⟩

/-- What takes no text is still there, and takes none. -/
theorem not_takesText {o : Object} (h : heap.Grows heap') (hr : heap.get? r = some (.object o))
    (hp : ¬ o.payload.TakesText) : ∃ o', heap'.get? r = some (.object o') ∧ ¬ o'.payload.TakesText := by
  obtain ⟨e', hr', hstays⟩ := h.entries hr
  obtain ⟨o', rfl, -, hpayload⟩ := hstays.object
  exact ⟨o', hr', hpayload.not_takesText hp⟩

end Grows

/-! ## New references -/

/-- A reference that a heap does not have and another has. -/
def IsNew (heap heap' : Heap) (r : Ref) : Prop := heap.get? r = none ∧ ∃ e, heap'.get? r = some e

/-- A new entry has a new reference, as long as 32-bit references suffice. -/
theorem isNew_alloc (hroom : (heap.alloc e).2.size ≤ 2 ^ 32) :
    heap.IsNew (heap.alloc e).2 (heap.alloc e).1 := by
  rw [size_alloc] at hroom
  refine ⟨?_, e, get?_alloc_self hroom e⟩
  apply Array.getElem?_eq_none
  rw [index_alloc hroom]
  exact Nat.le_refl _

/-- What is new for a later heap is new for an earlier one. -/
theorem IsNew.of_grows (hnew : heap'.IsNew heap'' r) (hgrows : heap.Grows heap') :
    heap.IsNew heap'' r := by
  refine ⟨?_, hnew.2⟩
  cases hr : heap.get? r with
  | none => rfl
  | some e =>
    obtain ⟨e', hr', -⟩ := hgrows.entries hr
    rw [hnew.1] at hr'
    cases hr'

/-- What is new is there ever after. -/
theorem IsNew.grows (hnew : heap.IsNew heap' r) (hgrows : heap'.Grows heap'') :
    heap.IsNew heap'' r := by
  obtain ⟨hnone, e, hr⟩ := hnew
  obtain ⟨e', hr', -⟩ := hgrows.entries hr
  exact ⟨hnone, e', hr'⟩

end Heap

/-! ## Effects -/

namespace Host

variable {h h' : Host} {may : Deed → Prop}

/-- The class of an object, behind its reference. -/
theorem classOf_of_object {r : Ref} {o : Object} (ho : h.heap.get? r = some (.object o)) :
    h.classOf (.ref r) = .ok o.cls := by
  unfold classOf
  simp only [ho]

/-- Linking a site adds an entry to the heap, or none. -/
theorem grows_of_links {site : SiteId} {s : CallSite} (hs : Action.Links h site s h') :
    h.heap.Grows h'.heap := by
  cases hs with
  | before => exact .refl _
  | made hnew hf =>
    cases hf with
    | before | made => exact .alloc h.heap _

/-- **One effect leaves every entry as what it may become.** -/
theorem Effect.grows (heffect : Effect may h h') : h.heap.Grows h'.heap := by
  cases heffect with
  | array | object | mirror => exact .alloc h.heap _
  | write he hturns => exact .put he hturns.stays
  | replace hmay ho hold data =>
    refine .put ho ⟨rfl, ?_⟩
    rw [hold]
    exact ⟨data, rfl⟩
  | bootstrap hf =>
    cases Action.bootstraps_of_ok hf with
    | before | made => exact .refl _
  | link hs => exact grows_of_links (Action.links_of_ok hs)
  | registry | number | files | module | surroundings => exact .refl _

/-- **So does a run of effects.** -/
theorem Effects.grows (heffects : h.Effects may h') : h.heap.Grows h'.heap := by
  induction heffects with
  | refl => exact .refl _
  | tail _ heffect ih => exact ih.trans heffect.grows

end Host

end GuestHost
