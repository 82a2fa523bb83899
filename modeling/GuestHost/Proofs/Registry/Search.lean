import Mathlib.Logic.Function.Iterate
import GuestHost.Proofs.Registry.Ancestry

/-!
# The search for an ancestry

An ancestry is found by two loops that share the classes found so far. The first climbs from a class to its
superclass, until there is none or it was found before. The second takes interfaces from the front of a
queue, which holds at first what the classes of the chain implement, and puts behind it what each new one
implements.

* `Search`, `Search.step` — where the search is, and one turn of the loop at hand;
* `Search.iterate_climbing`, `Search.iterate_spreading` — how each of the loops ends;
* `Search.iterate_start` — the search ends with the ancestry, and after how many turns.
-/

namespace GuestHost.Registry

variable {β : Type} {r : Registry β} {a : ClassId} {seen found queue : List ClassId}

/-- Where the search for an ancestry is: the classes found so far, in their order, and what comes next. -/
inductive Search
  /-- Up the superclasses, with the next of them if there is one. -/
  | climbing (found : List ClassId) (next : Option ClassId)
  /-- Along a queue of interfaces. -/
  | spreading (found queue : List ClassId)
deriving Repr, DecidableEq

namespace Search

/-- The search for the ancestry of a class, at its start. -/
def start (c : ClassId) : Search := .climbing [] (some c)

/-- A search at its end: nothing is left in the queue. -/
def finished (found : List ClassId) : Search := .spreading found []

/-- One turn of the loop at hand. A search at its end stays as it is. -/
def step (r : Registry β) : Search → Search
  | .climbing found none => .spreading found (found.flatMap r.interfaces)
  | .climbing found (some id) =>
    if id ∈ found then .spreading found (found.flatMap r.interfaces)
    else .climbing (found ++ [id]) (r.superclass? id)
  | .spreading found [] => .spreading found []
  | .spreading found (id :: queue) =>
    if id ∈ found then .spreading found queue
    else .spreading (found ++ [id]) (queue ++ r.interfaces id)

/-- The walks keep the classes seen in the opposite order of those found. -/
theorem mem_cons_iff_mem_concat (hfound : ∀ x, x ∈ seen ↔ x ∈ found) (x : ClassId) :
    x ∈ a :: seen ↔ x ∈ found ++ [a] := by
  rw [List.mem_cons, List.mem_append, List.mem_singleton, hfound, or_comm]

/-- The first loop takes a turn for each class of the chain, and one to notice that it is at its end. -/
theorem iterate_climbing (hfound : ∀ x, x ∈ seen ↔ x ∈ found) :
    (step r)^[(r.chainFrom seen a).length + 1] (.climbing found (some a))
      = .spreading (found ++ r.chainFrom seen a)
          ((found ++ r.chainFrom seen a).flatMap r.interfaces) := by
  induction seen, a using chainFrom.induct r generalizing found with
  | case1 seen a ha =>
    have ha' : a ∈ found := (hfound a).1 ha
    rw [chainFrom_of_mem ha, Function.iterate_succ_apply, step, if_pos ha', List.append_nil]
    rfl
  | case2 seen a ha hs =>
    have ha' : a ∉ found := mt (hfound a).2 ha
    rw [chainFrom_of_none ha hs, Function.iterate_succ_apply, step, if_neg ha', hs]
    rfl
  | case3 seen a ha s hs ih =>
    have ha' : a ∉ found := mt (hfound a).2 ha
    rw [chainFrom_of_some ha hs, List.length_cons, Function.iterate_succ_apply, step, if_neg ha', hs,
      ih (mem_cons_iff_mem_concat hfound), List.append_assoc]
    rfl

/-- The second loop takes a turn for each interface of the queue, and one for each that is put behind it. -/
theorem iterate_spreading (hfound : ∀ x, x ∈ seen ↔ x ∈ found) :
    (step r)^[queue.length + ((r.interfaceWalk seen queue).flatMap r.interfaces).length]
        (.spreading found queue)
      = finished (found ++ r.interfaceWalk seen queue) := by
  induction seen, queue using interfaceWalk.induct r generalizing found with
  | case1 seen => simp [interfaceWalk, finished]
  | case2 seen id queue hid ih =>
    have hid' : id ∈ found := (hfound id).1 hid
    rw [interfaceWalk, dif_pos hid, List.length_cons, Nat.add_right_comm, Function.iterate_succ_apply,
      step, if_pos hid']
    exact ih hfound
  | case3 seen id queue hid ih =>
    have hid' : id ∉ found := mt (hfound id).2 hid
    have hcount : (id :: queue).length
          + ((id :: r.interfaceWalk (id :: seen) (queue ++ r.interfaces id)).flatMap r.interfaces).length
        = (queue ++ r.interfaces id).length
          + ((r.interfaceWalk (id :: seen) (queue ++ r.interfaces id)).flatMap r.interfaces).length
          + 1 := by
      simp only [List.flatMap_cons, List.length_append, List.length_cons]
      omega
    rw [interfaceWalk, dif_neg hid, hcount, Function.iterate_succ_apply, step, if_neg hid',
      ih (mem_cons_iff_mem_concat hfound), List.append_assoc]
    rfl

/-- **The search for an ancestry ends**, and ends with the ancestry. It takes a turn for each class of the
chain and one at its end, and then a turn for each link that leads from the ancestry to an interface. -/
theorem iterate_start (r : Registry β) (c : ClassId) :
    (step r)^[((r.ancestry c).flatMap r.interfaces).length + ((r.superChain c).length + 1)] (start c)
      = finished (r.ancestry c) := by
  have hclimb : (step r)^[(r.superChain c).length + 1] (start c)
      = .spreading (r.superChain c) ((r.superChain c).flatMap r.interfaces) :=
    iterate_climbing fun _ => Iff.rfl
  rw [Function.iterate_add_apply, hclimb]
  unfold ancestry
  rw [List.flatMap_append, List.length_append]
  exact iterate_spreading fun _ => Iff.rfl

end Search

end GuestHost.Registry
