import GuestHost.Registry

/-!
# Ancestry

The ancestry of a class is the class itself, its superclass chain, and then every interface that can be
reached from the chain by implements links, breadth first and without repetition. Descriptors and
method lookup follow it.
-/

namespace GuestHost.Registry

variable {β : Type}

/-- The superclass of a class. -/
def superclass? (r : Registry β) (id : ClassId) : Option ClassId := (r.get? id).bind (·.superclass)

/-- The interfaces that a class implements directly. -/
def interfaces (r : Registry β) (id : ClassId) : List ClassId :=
  match r.get? id with
  | some c => c.interfaces
  | none => []

/-! ## Termination -/

/-- The registered classes that are not in a list. -/
def unseen (r : Registry β) (seen : List ClassId) : List ClassId :=
  (List.range r.size).filter fun id => decide (id ∉ seen)

/-- Number of implements links that leave classes not in a list. -/
def unseenLinks (r : Registry β) (seen : List ClassId) : Nat :=
  ((r.unseen seen).flatMap r.interfaces).length

theorem filter_cons_seen_length_le (seen : List ClassId) (id : ClassId) (l : List ClassId) :
    (l.filter fun c => decide (c ∉ id :: seen)).length ≤
      (l.filter fun c => decide (c ∉ seen)).length := by
  induction l with
  | nil => simp
  | cons c rest ih =>
    by_cases hs : c ∈ seen
    · simpa [hs] using ih
    · by_cases hc : c = id
      · subst hc
        simpa [hs] using Nat.le_succ_of_le ih
      · simpa [hs, hc] using ih

theorem filter_cons_seen_length_lt {seen : List ClassId} {id : ClassId} (h : id ∉ seen)
    {l : List ClassId} (hl : id ∈ l) :
    (l.filter fun c => decide (c ∉ id :: seen)).length <
      (l.filter fun c => decide (c ∉ seen)).length := by
  induction l with
  | nil => simp at hl
  | cons c rest ih =>
    by_cases hc : c = id
    · subst hc
      simpa [h] using Nat.lt_succ_of_le (filter_cons_seen_length_le seen c rest)
    · have hr : id ∈ rest := by simpa [Ne.symm hc] using hl
      by_cases hs : c ∈ seen
      · simpa [hs] using ih hr
      · simpa [hs, hc] using ih hr

theorem size_gt_of_superclass? {r : Registry β} {id s : ClassId} (h : r.superclass? id = some s) :
    id < r.size := by
  unfold superclass? get? at h
  obtain ⟨c, hc, -⟩ := Option.bind_eq_some_iff.1 h
  exact (Array.getElem?_eq_some_iff.1 hc).1

theorem unseen_cons_length_lt {r : Registry β} {seen : List ClassId} {id s : ClassId}
    (h : id ∉ seen) (hs : r.superclass? id = some s) :
    (r.unseen (id :: seen)).length < (r.unseen seen).length :=
  filter_cons_seen_length_lt h (List.mem_range.2 (size_gt_of_superclass? hs))

theorem length_flatMap_filter_seen_le (f : ClassId → List ClassId) (seen : List ClassId)
    (id : ClassId) (l : List ClassId) :
    ((l.filter fun c => decide (c ∉ id :: seen)).flatMap f).length ≤
      ((l.filter fun c => decide (c ∉ seen)).flatMap f).length := by
  induction l with
  | nil => simp
  | cons c rest ih =>
    by_cases hs : c ∈ seen
    · simpa [hs] using ih
    · by_cases hc : c = id
      · subst hc
        simpa [hs] using Nat.le_trans ih (Nat.le_add_left _ _)
      · simpa [hs, hc] using ih

theorem length_flatMap_filter_seen_add_le (f : ClassId → List ClassId) {seen : List ClassId}
    {id : ClassId} (h : id ∉ seen) {l : List ClassId} (hl : id ∈ l) :
    ((l.filter fun c => decide (c ∉ id :: seen)).flatMap f).length + (f id).length ≤
      ((l.filter fun c => decide (c ∉ seen)).flatMap f).length := by
  induction l with
  | nil => simp at hl
  | cons c rest ih =>
    by_cases hc : c = id
    · subst hc
      have := length_flatMap_filter_seen_le f seen c rest
      simp [h] at this ⊢
      omega
    · have hr : id ∈ rest := by simpa [Ne.symm hc] using hl
      have := ih hr
      by_cases hs : c ∈ seen
      · simpa [hs] using this
      · simp [hs, hc] at this ⊢
        omega

theorem unseenLinks_cons_le {r : Registry β} {seen : List ClassId} {id : ClassId} (h : id ∉ seen) :
    r.unseenLinks (id :: seen) + (r.interfaces id).length ≤ r.unseenLinks seen := by
  by_cases hid : id < r.size
  · exact length_flatMap_filter_seen_add_le r.interfaces h (List.mem_range.2 hid)
  · have hnone : r.get? id = none := Array.getElem?_eq_none (Nat.le_of_not_lt hid)
    have : r.interfaces id = [] := by simp [interfaces, hnone]
    rw [this]
    exact length_flatMap_filter_seen_le r.interfaces seen id (List.range r.size)

/-! ## The walks -/

/-- A class and its superclass chain, up to the first class in `seen`. -/
def chainFrom (r : Registry β) (seen : List ClassId) (id : ClassId) : List ClassId :=
  if _h : id ∈ seen then []
  else
    match _hs : r.superclass? id with
    | none => [id]
    | some s => id :: r.chainFrom (id :: seen) s
termination_by (r.unseen seen).length
decreasing_by exact unseen_cons_length_lt _h _hs

/-- A class and its superclass chain. -/
def superChain (r : Registry β) (id : ClassId) : List ClassId := r.chainFrom [] id

/-- The interfaces of a queue and all that they extend, breadth first, without those in `seen`. -/
def interfaceWalk (r : Registry β) (seen : List ClassId) : List ClassId → List ClassId
  | [] => []
  | id :: queue =>
    if _h : id ∈ seen then r.interfaceWalk seen queue
    else id :: r.interfaceWalk (id :: seen) (queue ++ r.interfaces id)
termination_by queue => queue.length + r.unseenLinks seen
decreasing_by
  · simp
  · have := unseenLinks_cons_le (r := r) _h
    simp only [List.length_append, List.length_cons]
    omega

/-- The class, its superclass chain, and every interface reachable from the chain. -/
def ancestry (r : Registry β) (id : ClassId) : List ClassId :=
  let chain := r.superChain id
  chain ++ r.interfaceWalk chain (chain.flatMap r.interfaces)

/-! ## What follows the ancestry -/

/-- The descriptor of a class, computed afresh: its ancestry and the root class. -/
def freshDescriptor (r : Registry β) (id : ClassId) : Descriptor :=
  let types := r.ancestry id
  ⟨id, if rootClass ∈ types then types else types ++ [rootClass]⟩

/-- The descriptor of a class; it is made when first asked for and kept. -/
def describe (r : Registry β) (id : ClassId) : Except Fault (Descriptor × Registry β) :=
  match r.get id with
  | .error fault => .error fault
  | .ok c =>
    match c.descriptor with
    | some d => .ok (d, r)
    | none =>
      let d := r.freshDescriptor id
      .ok (d, r.update id fun c => { c with descriptor := some d })

/-- The method of a key and a kind that is declared first along the ancestry of a class. -/
def findMethod? (r : Registry β) (id : ClassId) (key : String) (kind : MethodKind) :
    Option (Method β) :=
  (r.ancestry id).findSome? fun c => (r.get? c).bind fun record => record.method? key kind

end GuestHost.Registry
