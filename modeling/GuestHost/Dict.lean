/-!
# Finite maps in order of insertion

A `Dict κ α` is a list of entries. Setting a key that is present replaces its value in place, setting
a new key appends an entry, so the entries keep the order in which their keys were first set.
The lemmas say what each operation does to `get?`, the only view the rest of the library uses.
-/

namespace GuestHost

/-- A finite map, as its entries in the order in which their keys were first set. -/
structure Dict (κ : Type) (α : Type) where
  entries : List (κ × α)
deriving Repr, DecidableEq

namespace Dict

variable {κ α β : Type}

/-- The map without entries. -/
def empty : Dict κ α := ⟨[]⟩

instance : EmptyCollection (Dict κ α) := ⟨empty⟩
instance : Inhabited (Dict κ α) := ⟨empty⟩

variable [DecidableEq κ]

/-- The value of the first entry with key `k`. -/
def findValue? (k : κ) : List (κ × α) → Option α
  | [] => none
  | e :: rest => if e.1 = k then some e.2 else findValue? k rest

/-- The value stored under `k`. -/
def get? (d : Dict κ α) (k : κ) : Option α := findValue? k d.entries

/-- Whether `k` has a value. -/
def contains (d : Dict κ α) (k : κ) : Bool := (d.get? k).isSome

/-- Replaces the value of the first entry with key `k`, or appends one. -/
def setEntry (k : κ) (a : α) : List (κ × α) → List (κ × α)
  | [] => [(k, a)]
  | e :: rest => if e.1 = k then (k, a) :: rest else e :: setEntry k a rest

/-- Stores `a` under `k`. -/
def set (d : Dict κ α) (k : κ) (a : α) : Dict κ α := ⟨setEntry k a d.entries⟩

/-- Drops every entry with key `k`. -/
def erase (d : Dict κ α) (k : κ) : Dict κ α := ⟨d.entries.filter fun e => decide (e.1 ≠ k)⟩

/-- The map that results from setting the given entries one after the other. -/
def ofList (entries : List (κ × α)) : Dict κ α :=
  entries.foldl (fun d e => d.set e.1 e.2) empty

/-- Number of entries. -/
def size (d : Dict κ α) : Nat := d.entries.length

/-- The keys, in the order in which they were first set. -/
def keys (d : Dict κ α) : List κ := d.entries.map (·.1)

/-! ## Laws -/

@[simp] theorem get?_empty (k : κ) : (empty : Dict κ α).get? k = none := rfl

theorem findValue?_setEntry (k j : κ) (a : α) (l : List (κ × α)) :
    findValue? j (setEntry k a l) = if k = j then some a else findValue? j l := by
  induction l with
  | nil => simp [setEntry, findValue?]
  | cons e rest ih =>
    by_cases he : e.1 = k
    · subst he
      by_cases hj : e.1 = j <;> simp [setEntry, findValue?, hj]
    · by_cases hk : k = j
      · subst hk
        simp [setEntry, findValue?, he, ih]
      · simp [setEntry, findValue?, he, ih, hk]

/-- A map answers with what was last set, key by key. -/
@[simp] theorem get?_set (d : Dict κ α) (k j : κ) (a : α) :
    (d.set k a).get? j = if k = j then some a else d.get? j :=
  findValue?_setEntry k j a d.entries

theorem get?_set_self (d : Dict κ α) (k : κ) (a : α) : (d.set k a).get? k = some a := by simp

theorem get?_set_of_ne (d : Dict κ α) {k j : κ} (a : α) (h : k ≠ j) :
    (d.set k a).get? j = d.get? j := by simp [h]

theorem findValue?_filter (k j : κ) (l : List (κ × α)) :
    findValue? j (l.filter fun e => decide (e.1 ≠ k)) = if k = j then none else findValue? j l := by
  induction l with
  | nil => simp [findValue?]
  | cons e rest ih =>
    by_cases he : e.1 = k
    · rw [List.filter_cons_of_neg (by simp [he]), ih]
      by_cases hk : k = j
      · simp [hk]
      · simp [findValue?, he, hk]
    · rw [List.filter_cons_of_pos (by simp [he])]
      by_cases hk : k = j
      · subst hk
        simpa [findValue?, he] using ih
      · by_cases hj : e.1 = j
        · simp [findValue?, hj, hk]
        · simpa [findValue?, hj, hk] using ih

@[simp] theorem get?_erase (d : Dict κ α) (k j : κ) :
    (d.erase k).get? j = if k = j then none else d.get? j :=
  findValue?_filter k j d.entries

end Dict

end GuestHost
