import Mathlib.Logic.Function.Basic
import GuestHost.Proofs.Stores
import GuestHost.Proofs.Text.Utf8

/-!
# The texts and the arrays of a store

A heap and a module in memory keep texts and arrays, each in its own form. Seen from outside both are
tables: from keys to lists of scalar values, and from keys to lists of values (`Contents`). On these tables
a store does what its operations say:

* `Heap.setText_of_text`, `Heap.setText_of_none`, `Heap.allocObject_text` — a text is replaced
  where there is one, and a new text is beside all that was there;
* `Arena.setText_of_text`, `Arena.setText_of_none`, `Arena.newText_eq` — the same of a module in memory.
-/

namespace GuestHost

/-- The texts and the arrays that keys lead to. -/
structure Contents (K : Type) where
  texts : K → Option (List Char)
  arrays : K → Option (List Value)

namespace Contents

variable {K E : Type}

/-- The contents after a text was written. -/
def write [DecidableEq K] (c : Contents K) (k : K) (cs : List Char) : Contents K :=
  { c with texts := Function.update c.texts k (some cs) }

/-- The contents of an array of entries, in which a key has a place. -/
def ofEntries (place : K → Nat) (text? : E → Option (List Char)) (items? : E → Option (List Value))
    (entries : Array E) : Contents K where
  texts k := entries[place k]?.bind text?
  arrays k := entries[place k]?.bind items?

variable [DecidableEq K] {place : K → Nat} {text? : E → Option (List Char)}
  {items? : E → Option (List Value)} {entries : Array E} {k : K} {old e : E} {cs : List Char}

/-- Contents that differ in one text only. -/
theorem eq_write {c c' : Contents K} (hself : c'.texts k = some cs)
    (htexts : ∀ j ≠ k, c'.texts j = c.texts j) (harrays : ∀ j, c'.arrays j = c.arrays j) :
    c' = c.write k cs := by
  have heq : c'.texts = Function.update c.texts k (some cs) :=
    Function.eq_update_iff.2 ⟨hself, htexts⟩
  cases c'
  obtain rfl : _ = c.arrays := funext harrays
  exact congrArg (Contents.mk · c.arrays) heq

/-- An entry that is no array is replaced by one that holds a text. -/
theorem ofEntries_set (hplace : place.Injective) (hold : entries[place k]? = some old)
    (hitems : items? old = none) (htext : text? e = some cs) (harray : items? e = none) :
    ofEntries place text? items? (entries.setIfInBounds (place k) e)
      = (ofEntries place text? items? entries).write k cs := by
  have hlt : place k < entries.size := (Array.getElem?_eq_some_iff.1 hold).1
  have hself : (entries.setIfInBounds (place k) e)[place k]? = some e :=
    Array.getElem?_setIfInBounds_self_of_lt hlt
  have hother : ∀ j ≠ k, (entries.setIfInBounds (place k) e)[place j]? = entries[place j]? :=
    fun j hj => Array.getElem?_setIfInBounds_ne fun heq => hj (hplace heq).symm
  refine eq_write ?_ (fun j hj => ?_) fun j => ?_
  · show (entries.setIfInBounds (place k) e)[place k]?.bind text? = _
    rw [hself, Option.bind_some, htext]
  · show (entries.setIfInBounds (place k) e)[place j]?.bind text? = _
    rw [hother j hj]
    rfl
  · show (entries.setIfInBounds (place k) e)[place j]?.bind items? = entries[place j]?.bind items?
    by_cases hj : j = k
    · rw [hj, hself, hold, Option.bind_some, Option.bind_some, harray, hitems]
    · rw [hother j hj]

/-- Only the key of a new entry leads to it. -/
theorem getElem?_push_place (hplace : place.Injective) (hk : place k = entries.size) (e : E) (j : K) :
    (entries.push e)[place j]? = if j = k then some e else entries[place j]? := by
  rw [Array.getElem?_push, ← hk]
  by_cases hj : j = k
  · rw [if_pos hj, if_pos (congrArg place hj)]
  · rw [if_neg hj, if_neg fun heq => hj (hplace heq)]

/-- A new entry that holds a text. -/
theorem ofEntries_push (hplace : place.Injective) (hk : place k = entries.size)
    (htext : text? e = some cs) (harray : items? e = none) :
    ofEntries place text? items? (entries.push e)
      = (ofEntries place text? items? entries).write k cs := by
  refine eq_write ?_ (fun j hj => ?_) fun j => ?_
  · show (entries.push e)[place k]?.bind text? = _
    rw [getElem?_push_place hplace hk, if_pos rfl, Option.bind_some, htext]
  · show (entries.push e)[place j]?.bind text? = _
    rw [getElem?_push_place hplace hk, if_neg hj]
    rfl
  · show (entries.push e)[place j]?.bind items? = entries[place j]?.bind items?
    rw [getElem?_push_place hplace hk]
    by_cases hj : j = k
    · rw [if_pos hj, hj, hk, Array.getElem?_eq_none (Nat.le_refl _), Option.bind_some, harray]
      rfl
    · rw [if_neg hj]

omit [DecidableEq K] in
/-- No key leads behind the last entry. -/
theorem ofEntries_texts_size (hk : place k = entries.size) :
    (ofEntries place text? items? entries).texts k = none := by
  show entries[place k]?.bind text? = none
  rw [hk, Array.getElem?_eq_none (Nat.le_refl _)]
  rfl

end Contents

/-- The text that a reading gives, if it gives one. -/
def readText (r : Except Fault String) : Option (List Char) := r.toOption.map String.toList

@[simp] theorem readText_ok (s : String) : readText (.ok s) = some s.toList := rfl

@[simp] theorem readText_error (fault : Fault) : readText (.error fault) = none := rfl

/-! ## The heap -/

/-- The text of an entry; an object without a payload holds the empty text. -/
def Entry.text? : Entry → Option (List Char)
  | .object ⟨_, _, .text contents⟩ => some contents.toList
  | .object ⟨_, _, .empty⟩ => some []
  | _ => none

/-- The elements of an entry that is an array. -/
def Entry.items? : Entry → Option (List Value)
  | .array items => some items
  | .object _ => none

namespace Heap

variable {h : Heap} {r : Ref}

/-- The texts and the arrays of a heap. -/
def contents (h : Heap) : Contents Ref where
  texts r := readText (h.text r)
  arrays r := (h.array r).toOption

theorem contents_eq (h : Heap) :
    h.contents = .ofEntries (·.index.toNat) Entry.text? Entry.items? h.entries := by
  have htexts : ∀ r, h.contents.texts r = (h.get? r).bind Entry.text? := by
    intro r
    show readText (h.text r) = _
    unfold text object
    rcases h.get? r with _ | ⟨⟨_, _, payload⟩ | _⟩
    · rfl
    · cases payload <;> rfl
    · rfl
  have harrays : ∀ r, h.contents.arrays r = (h.get? r).bind Entry.items? := by
    intro r
    show (h.array r).toOption = _
    unfold array
    rcases h.get? r with _ | ⟨_ | _⟩ <;> rfl
  exact congrArg₂ Contents.mk (funext htexts) (funext harrays)

theorem index_injective : Function.Injective fun r : Ref => r.index.toNat := by
  intro r r' heq
  cases r
  cases r'
  exact congrArg Ref.mk (UInt32.toNat_inj.1 heq)

/-- Where there is a text, it can be replaced. -/
theorem setText_of_text {cs : List Char} (ht : h.contents.texts r = some cs) (s : String) :
    ∃ h', h.setText r s = .ok h' ∧ h'.contents = h.contents.write r s.toList ∧ h'.size = h.size := by
  have hread : readText (h.text r) = some cs := ht
  unfold text at hread
  cases ho : h.object r with
  | error fault =>
    rw [ho] at hread
    cases hread
  | ok o =>
    rw [ho] at hread
    have hget := object_eq_ok.1 ho
    refine ⟨h.put r (.object { o with payload := .text s }), ?_, ?_, size_put _⟩
    · unfold setText
      rw [ho]
      cases hp : o.payload <;> simp_all
    · rw [contents_eq, contents_eq]
      exact Contents.ofEntries_set index_injective hget rfl rfl rfl

/-- Where there is no text, none can be set. -/
theorem setText_of_none (ht : h.contents.texts r = none) (s : String) :
    ∃ fault, h.setText r s = .error fault := by
  have hread : readText (h.text r) = none := ht
  unfold text at hread
  unfold setText
  cases ho : h.object r with
  | error fault => exact ⟨fault, rfl⟩
  | ok o =>
    rw [ho] at hread
    cases hp : o.payload <;> simp_all

/-- A new object with a text is beside all that was there, in a heap that has room for it. -/
theorem allocObject_text (h : Heap) (cls : ClassId) (s : String) :
    ∃ r h', h.allocObject cls (.text s) = (r, h') ∧ h'.size = h.size + 1 ∧
      (h.size < 2 ^ 32 →
        h.contents.texts r = none ∧ h'.contents = h.contents.write r s.toList) := by
  refine ⟨_, _, rfl, size_alloc _, fun hroom => ?_⟩
  have hindex := index_alloc hroom (.object ⟨cls, .empty, .text s⟩)
  rw [contents_eq, contents_eq]
  exact ⟨Contents.ofEntries_texts_size hindex,
    Contents.ofEntries_push index_injective hindex rfl rfl⟩

end Heap

/-! ## Modules in memory -/

/-- The texts and the arrays of a module. -/
def Module.contents (m : Module) : Contents UInt32 where
  texts n := readText (m.text n)
  arrays n := (m.arrayValues n).toOption

theorem toNat_injective : Function.Injective UInt32.toNat := fun _ _ => UInt32.toNat_inj.1

/-- The text of an object of an arena. -/
def ArenaEntry.text? : ArenaEntry → Option (List Char)
  | .text _ contents => some contents.toList
  | _ => none

/-- The elements of an object of an arena that is an array. -/
def ArenaEntry.items? : ArenaEntry → Option (List Value)
  | .array items => some items
  | _ => none

namespace Arena

variable {a : Arena} {n : UInt32}

theorem contents_eq (a : Arena) :
    (Module.arena a).contents
      = .ofEntries UInt32.toNat ArenaEntry.text? ArenaEntry.items? a.entries := by
  have htexts : ∀ n, (Module.arena a).contents.texts n = (a.get? n).bind ArenaEntry.text? := by
    intro n
    show readText (a.text n) = _
    unfold text textEntry
    rcases a.get? n with _ | _ | _ | _ <;> rfl
  have harrays : ∀ n, (Module.arena a).contents.arrays n = (a.get? n).bind ArenaEntry.items? := by
    intro n
    show ((Module.arena a).arrayValues n).toOption = _
    have hnone (hn : a.array n = .error (dead n "array")) :
        (Module.arena a).arrayValues n = .error (dead n "array") :=
      Module.arrayValues_of_error (by simp only [Module.arrayLength, hn, Except.map])
    rcases hget : a.get? n with _ | _ | items | _
    · rw [hnone (by rw [array, hget])]
      rfl
    · rw [hnone (by rw [array, hget])]
      rfl
    · rw [arrayValues_arena hget]
      rfl
    · rw [hnone (by rw [array, hget])]
      rfl
  exact congrArg₂ Contents.mk (funext htexts) (funext harrays)

/-- Where there is a text, it can be replaced. -/
theorem setText_of_text {cs : List Char} (ht : (Module.arena a).contents.texts n = some cs)
    (s : String) : ∃ a', (Module.arena a).setText n s = (.ok (), .arena a') ∧
      (Module.arena a').contents = (Module.arena a).contents.write n s.toList ∧ a'.size = a.size := by
  have hread : readText (a.text n) = some cs := ht
  unfold text at hread
  cases he : a.textEntry n with
  | error fault =>
    rw [he] at hread
    cases hread
  | ok entry =>
    obtain ⟨kind, old⟩ := entry
    have hget : a.get? n = some (.text kind old) := by
      unfold textEntry at he
      split at he
      · cases he
        assumption
      · cases he
    refine ⟨a.put n (.text kind s), ?_, ?_, size_put _⟩
    · simp [Module.setText, Module.ofArena, setText, he]
    · rw [contents_eq, contents_eq]
      exact Contents.ofEntries_set toNat_injective hget rfl rfl rfl

/-- Where there is no text, none can be set. -/
theorem setText_of_none (ht : (Module.arena a).contents.texts n = none) (s : String) :
    ∃ fault, (Module.arena a).setText n s = (.error fault, .arena a) := by
  have hread : readText (a.text n) = none := ht
  unfold text at hread
  cases he : a.textEntry n with
  | error fault => exact ⟨fault, by simp [Module.setText, Module.ofArena, setText, he]⟩
  | ok entry =>
    rw [he] at hread
    cases hread

/-- A new text is beside all that was there, in a module that has room for it. -/
theorem newText_eq (a : Arena) (kind : TextKind) (s : String) :
    ∃ n a', (Module.arena a).newText kind s = (.ok (.handle n), .arena a') ∧ a'.size = a.size + 1 ∧
      (a.size < 2 ^ 32 → (Module.arena a).contents.texts n = none ∧
        (Module.arena a').contents = (Module.arena a).contents.write n s.toList) := by
  refine ⟨a.next, (a.alloc (.text kind s)).2, rfl, size_alloc _, fun hroom => ?_⟩
  rw [contents_eq, contents_eq]
  exact ⟨Contents.ofEntries_texts_size (toNat_next hroom),
    Contents.ofEntries_push toNat_injective (toNat_next hroom) rfl rfl⟩

end Arena

end GuestHost
