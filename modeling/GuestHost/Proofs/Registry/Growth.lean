import GuestHost.Proofs.Registry.Answers

/-!
# How a registry grows

Classes are added and never taken away, and the links of a class stay as they are, so what a class can
reach does not change when others are registered. A descriptor may therefore be kept once it is made.

* `Step`, `Reachable` — what is done to a registry, and the registries that come of it;
* `Grows` — what stays of a registry: `Step.grows`, `Reaches.of_grows`;
* `Sound` — what holds of every registry that can come up: `sound_initial`, `Sound.step`,
  `Reachable.sound`.
-/

namespace GuestHost.Registry

open Relation (ReflTransGen)

variable {β : Type} {r r' r'' : Registry β} {a b c id target : ClassId} {kind : AdapterKind}

/-! ## What is done to a registry -/

/-- One change of a registry: a class or an adapter is registered, a descriptor is made, a static field
is set, or a class object is made. -/
inductive Step : Registry β → Registry β → Prop
  | register {r r' : Registry β} {d : Declaration β} {id : ClassId}
    (h : r.register d = .ok (id, r')) : Step r r'
  | adapter {r r' : Registry β} {kind : AdapterKind} {target id : ClassId}
    (h : r.adapter kind target = .ok (id, r')) : Step r r'
  | describe {r r' : Registry β} {id : ClassId} {d : Descriptor}
    (h : r.describe id = .ok (d, r')) : Step r r'
  | setStatic {r : Registry β} (id : ClassId) (name : String) (v : Value) :
    Step r (r.update id fun c => { c with statics := c.statics.set name v })
  | setMirror {r : Registry β} (id : ClassId) (mirror : Ref) :
    Step r (r.update id fun c => { c with mirror := some mirror })

/-- A registry comes of the root class alone. -/
def Reachable (r : Registry β) : Prop := ReflTransGen Step initial r

/-! ## Effects -/

/-- What one change does: nothing, a record that keeps its links, or one more record whose links lead to
classes that are registered, perhaps as an adapter. -/
inductive Change (r : Registry β) : Registry β → Prop
  | same : Change r r
  | record (id : ClassId) (f : ClassRecord β → ClassRecord β)
    (hsuper : ∀ c, (f c).superclass = c.superclass) (hfaces : ∀ c, (f c).interfaces = c.interfaces)
    (hdescriptor : ∀ c, (f c).descriptor = c.descriptor ∨
      (f c).descriptor = some (r.freshDescriptor id)) : Change r (r.update id f)
  | declared (record : ClassRecord β) (numbers : Dict String ClassId)
    (hlinks : ∀ b, record.superclass = some b ∨ b ∈ record.interfaces → b < r.size)
    (hfresh : record.descriptor = none) :
    Change r ⟨r.classes.push record, numbers, r.adapters⟩
  | adapter (record : ClassRecord β) (numbers : Dict String ClassId) (kind : AdapterKind)
    (target : ClassId) (hnew : r.adapters.get? (kind, target) = none)
    (hsuper : record.superclass = some rootClass) (hfaces : record.interfaces = [target])
    (hroot : rootClass < r.size) (htarget : target < r.size) (hfresh : record.descriptor = none) :
    Change r ⟨r.classes.push record, numbers, r.adapters.set (kind, target) r.size⟩

theorem adapter_eq_ok (h : r.adapter kind target = .ok (id, r')) :
    r.adapters.get? (kind, target) = some id ∧ r' = r ∨
      r.adapters.get? (kind, target) = none ∧ id = r.size ∧ Change r r' ∧
        r'.adapters.get? (kind, target) = some id := by
  rcases adapter_eq_ok_iff.1 h with hbefore | ⟨hnew, -, name, made, -, hregister, rfl⟩
  · exact .inl hbefore
  · obtain ⟨-, hlinks, rfl, rfl⟩ := registerAs_eq_ok_iff.1 hregister
    have hsuper := superclass_adapterDeclaration (β := β) kind target name
    have hroot : rootClass < r.size := hlinks _ (.inl hsuper)
    have htarget : target < r.size := hlinks _ (.inr (List.mem_singleton_self target))
    exact .inr ⟨hnew, rfl, .adapter _ _ kind target hnew hsuper rfl hroot htarget rfl,
      Dict.get?_set_self _ _ _⟩

/-- **What a step can do.** -/
theorem Step.change (h : Step r r') : Change r r' := by
  cases h with
  | register h =>
    obtain ⟨-, hlinks, -, rfl⟩ := registerAs_eq_ok_iff.1 h
    exact .declared _ _ hlinks rfl
  | adapter h =>
    rcases adapter_eq_ok h with ⟨-, rfl⟩ | ⟨-, -, hchange, -⟩
    · exact .same
    · exact hchange
  | describe h =>
    obtain ⟨record, -, ⟨-, rfl⟩ | ⟨-, rfl, rfl⟩⟩ := describe_eq_ok h
    · exact .same
    · exact .record _ _ (fun _ => rfl) (fun _ => rfl) fun _ => .inr rfl
  | setStatic => exact .record _ _ (fun _ => rfl) (fun _ => rfl) fun _ => .inl rfl
  | setMirror => exact .record _ _ (fun _ => rfl) (fun _ => rfl) fun _ => .inl rfl

/-- A descriptor that is kept after a step was kept before, or was made afresh. -/
theorem Change.descriptor {record : ClassRecord β} {d : Descriptor} (h : Change r r')
    (hget : r'.get? a = some record) (hd : record.descriptor = some d) :
    ∃ old, r.get? a = some old ∧ (old.descriptor = some d ∨ d = r.freshDescriptor a) := by
  -- A class that is new has no descriptor yet.
  have hpush : ∀ {new : ClassRecord β} {numbers adapters}, new.descriptor = none →
      (Registry.mk (r.classes.push new) numbers adapters).get? a = some record →
        r.get? a = some record := by
    intro new numbers adapters hfresh hget
    rw [get?_push] at hget
    split at hget
    · cases hget
      rw [hfresh] at hd
      cases hd
    · exact hget
  cases h with
  | same => exact ⟨record, hget, .inl hd⟩
  | record id f hsuper hfaces hdescriptor =>
    rw [get?_update] at hget
    split at hget
    · next heq =>
      subst heq
      obtain ⟨old, hold, rfl⟩ := Option.map_eq_some_iff.1 hget
      refine ⟨old, hold, ?_⟩
      rcases hdescriptor old with hsame | hfresh
      · exact .inl (hsame.symm.trans hd)
      · exact .inr (Option.some.inj (hd.symm.trans hfresh))
    · exact ⟨record, hget, .inl hd⟩
  | declared new numbers hlinks hfresh => exact ⟨record, hpush hfresh hget, .inl hd⟩
  | adapter new numbers kind target hnew hsuper hfaces hroot htarget hfresh =>
    exact ⟨record, hpush hfresh hget, .inl hd⟩

/-! ## What stays -/

/-- The classes of a registry are all there in another, with the same links, and so are its adapters. -/
structure Grows (r r' : Registry β) : Prop where
  size : r.size ≤ r'.size
  superclass : ∀ {a}, a < r.size → r'.superclass? a = r.superclass? a
  interfaces : ∀ {a}, a < r.size → r'.interfaces a = r.interfaces a
  adapters : ∀ {key id}, r.adapters.get? key = some id → r'.adapters.get? key = some id

namespace Grows

theorem refl (r : Registry β) : r.Grows r := ⟨Nat.le_refl _, fun _ => rfl, fun _ => rfl, fun h => h⟩

theorem trans (h : r.Grows r') (h' : r'.Grows r'') : r.Grows r'' where
  size := Nat.le_trans h.size h'.size
  superclass ha := (h'.superclass (Nat.lt_of_lt_of_le ha h.size)).trans (h.superclass ha)
  interfaces ha := (h'.interfaces (Nat.lt_of_lt_of_le ha h.size)).trans (h.interfaces ha)
  adapters hkey := h'.adapters (h.adapters hkey)

theorem push (record : ClassRecord β) (numbers : Dict String ClassId)
    {adapters : Dict (AdapterKind × ClassId) ClassId}
    (hadapters : ∀ {key id}, r.adapters.get? key = some id → adapters.get? key = some id) :
    r.Grows ⟨r.classes.push record, numbers, adapters⟩ := by
  have hget : ∀ {a}, a < r.size →
      (Registry.mk (r.classes.push record) numbers adapters).get? a = r.get? a := by
    intro a ha
    rw [get?_push, if_neg (Nat.ne_of_lt ha)]
  refine ⟨?_, fun ha => ?_, fun ha => ?_, hadapters⟩
  · simp [Registry.size]
  · unfold superclass?
    rw [hget ha]
  · unfold Registry.interfaces
    rw [hget ha]

theorem update (id : ClassId) {f : ClassRecord β → ClassRecord β}
    (hsuper : ∀ c, (f c).superclass = c.superclass) (hfaces : ∀ c, (f c).interfaces = c.interfaces) :
    r.Grows (r.update id f) := by
  refine ⟨by simp, fun {a} _ => ?_, fun {a} _ => ?_, fun h => h⟩
  · unfold superclass?
    rw [get?_update]
    cases r.get? a <;> by_cases ha : id = a <;> simp [ha, hsuper]
  · unfold Registry.interfaces
    rw [get?_update]
    cases r.get? a <;> by_cases ha : id = a <;> simp [ha, hfaces]

end Grows

theorem Change.grows (h : Change r r') : r.Grows r' := by
  cases h with
  | same => exact .refl r
  | record id f hsuper hfaces => exact .update id hsuper hfaces
  | declared record numbers => exact .push record numbers fun h => h
  | adapter record numbers kind target hnew =>
    refine .push record numbers fun {key id} hkey => ?_
    have hne : (kind, target) ≠ key := by
      rintro rfl
      rw [hnew] at hkey
      cases hkey
    rwa [Dict.get?_set_of_ne _ _ hne]

theorem Step.grows (h : Step r r') : r.Grows r' := h.change.grows

/-- Over a whole run, nothing is lost. -/
theorem grows_of_run (h : ReflTransGen Step r r') : r.Grows r' := by
  induction h with
  | refl => exact .refl r
  | tail _ hstep ih => exact ih.trans hstep.grows

/-! ## What a class reaches -/

/-- A class reaches the root class and its ancestry. -/
def Reaches (r : Registry β) (a b : ClassId) : Prop := b = rootClass ∨ b ∈ r.ancestry a

theorem supports_freshDescriptor : (r.freshDescriptor a).supports b = true ↔ r.Reaches a b := by
  unfold freshDescriptor Descriptor.supports Reaches
  by_cases hroot : rootClass ∈ r.ancestry a
  · simp only [hroot, if_true, decide_eq_true_eq]
    constructor
    · exact .inr
    · rintro (rfl | hb)
      · exact hroot
      · exact hb
  · simp [hroot, or_comm]

/-- Every link leads to a class that was registered before. -/
def LinksDown (r : Registry β) : Prop := ∀ a b, r.Extends a b ∨ r.Implements a b → b < a

theorem lt_size_of_link (h : r.Extends a b ∨ r.Implements a b) : a < r.size := by
  rcases h with h | h
  · exact size_gt_of_superclass? h
  · unfold Implements interfaces at h
    cases hget : r.get? a with
    | none => simp [hget] at h
    | some record => exact lt_size_iff.2 ⟨record, hget⟩

theorem LinksDown.path (h : r.LinksDown) {link : ClassId → ClassId → Prop}
    (hlink : ∀ {a b}, link a b → r.Extends a b ∨ r.Implements a b) (hpath : ReflTransGen link a b) :
    b ≤ a := by
  induction hpath with
  | refl => exact Nat.le_refl _
  | tail _ hstep ih => exact Nat.le_trans (Nat.le_of_lt (h _ _ (hlink hstep))) ih

/-- Paths between classes that were there stay, and there are no new ones. -/
theorem path_iff_of_grows (links : Registry β → ClassId → ClassId → Prop) (hdown : r.LinksDown)
    (hlink : ∀ {a b}, links r a b → r.Extends a b ∨ r.Implements a b)
    (hsame : ∀ {a b}, a < r.size → (links r' a b ↔ links r a b)) (ha : a < r.size) :
    ReflTransGen (links r') a b ↔ ReflTransGen (links r) a b := by
  constructor
  · intro hpath
    induction hpath with
    | refl => exact .refl
    | tail _ hstep ih => exact ih.tail ((hsame (Nat.lt_of_le_of_lt (hdown.path hlink ih) ha)).1 hstep)
  · intro hpath
    induction hpath with
    | refl => exact .refl
    | tail hinit hstep ih => exact ih.tail ((hsame (Nat.lt_of_le_of_lt (hdown.path hlink hinit) ha)).2 hstep)

theorem Grows.extends_iff (h : r.Grows r') (ha : a < r.size) : r'.Extends a b ↔ r.Extends a b := by
  unfold Extends
  rw [h.superclass ha]

theorem Grows.implements_iff (h : r.Grows r') (ha : a < r.size) :
    r'.Implements a b ↔ r.Implements a b := by
  unfold Implements
  rw [h.interfaces ha]

/-- **What a class reaches stays the same** when others are registered. -/
theorem reaches_iff_of_grows (hgrows : r.Grows r') (hdown : r.LinksDown) (ha : a < r.size) :
    r'.Reaches a b ↔ r.Reaches a b := by
  have hextends : ∀ {d}, ReflTransGen r'.Extends a d ↔ ReflTransGen r.Extends a d :=
    path_iff_of_grows Extends hdown .inl hgrows.extends_iff ha
  unfold Reaches
  rw [mem_ancestry, mem_ancestry]
  refine or_congr_right (exists_congr fun d => ?_)
  rw [hextends]
  refine and_congr_right fun hd => ?_
  have hd' : d < r.size := Nat.lt_of_le_of_lt (hdown.path .inl hd) ha
  exact path_iff_of_grows Implements hdown .inr hgrows.implements_iff hd'

/-! ## What holds of every registry -/

/-- A registry as it can come up: the root class has no links, links lead to classes registered before,
descriptors that are kept list what their classes reach, and an adapter extends the root class and
implements its interface alone. -/
structure Sound (r : Registry β) : Prop where
  root : rootClass < r.size
  root_super : r.superclass? rootClass = none
  root_faces : r.interfaces rootClass = []
  down : r.LinksDown
  described : ∀ {a record d}, r.get? a = some record → record.descriptor = some d →
    ∀ b, d.supports b = true ↔ r.Reaches a b
  adapted : ∀ {kind target id}, r.adapters.get? (kind, target) = some id →
    id < r.size ∧ r.superclass? id = some rootClass ∧ r.interfaces id = [target]

theorem sound_initial : Sound (initial : Registry β) := by
  have hsuper : ∀ a, (initial : Registry β).superclass? a = none := by
    intro a
    rcases a with _ | a
    · simp [superclass?, get?, initial, Declaration.record]
    · rfl
  have hfaces : ∀ a, (initial : Registry β).interfaces a = [] := by
    intro a
    rcases a with _ | a
    · rfl
    · rfl
  refine ⟨Nat.one_pos, hsuper _, hfaces _, ?_, ?_, ?_⟩
  · rintro a b (h | h)
    · rw [Extends, hsuper] at h
      cases h
    · rw [Implements, hfaces] at h
      cases h
  · intro a record d hget hd
    rcases a with _ | a
    · cases hget
      cases hd
    · cases hget
  · intro kind target id h
    cases h

/-- A registry that grows stays sound if what is new in it is. -/
theorem Sound.of_grows (h : r.Sound) (hgrows : r.Grows r')
    (hlinks : ∀ {a b}, r.size ≤ a → r'.Extends a b ∨ r'.Implements a b → b < a)
    (hdescribed : ∀ {a record d}, r'.get? a = some record → record.descriptor = some d →
      ∃ old, r.get? a = some old ∧ (old.descriptor = some d ∨ d = r.freshDescriptor a))
    (hadapted : ∀ {kind target id}, r'.adapters.get? (kind, target) = some id →
      r.adapters.get? (kind, target) = some id ∨
        id < r'.size ∧ r'.superclass? id = some rootClass ∧ r'.interfaces id = [target]) :
    r'.Sound where
  root := Nat.lt_of_lt_of_le h.root hgrows.size
  root_super := (hgrows.superclass h.root).trans h.root_super
  root_faces := (hgrows.interfaces h.root).trans h.root_faces
  down := by
    intro a b hlink
    by_cases ha : a < r.size
    · exact h.down _ _ (hlink.imp (hgrows.extends_iff ha).1 (hgrows.implements_iff ha).1)
    · exact hlinks (Nat.le_of_not_lt ha) hlink
  described := by
    intro a record d hget hd b
    obtain ⟨old, hold, hmade⟩ := hdescribed hget hd
    rw [reaches_iff_of_grows hgrows h.down (lt_size_iff.2 ⟨old, hold⟩)]
    rcases hmade with hkept | rfl
    · exact h.described hold hkept b
    · exact supports_freshDescriptor
  adapted := by
    intro kind target id hmade
    rcases hadapted hmade with hold | hnew
    · obtain ⟨hid, hsuper, hfaces⟩ := h.adapted hold
      exact ⟨Nat.lt_of_lt_of_le hid hgrows.size, (hgrows.superclass hid).trans hsuper,
        (hgrows.interfaces hid).trans hfaces⟩
    · exact hnew

/-- Registering a class keeps a registry sound. -/
theorem Sound.push (h : r.Sound) {record : ClassRecord β} {numbers : Dict String ClassId}
    {adapters : Dict (AdapterKind × ClassId) ClassId}
    (hgrows : r.Grows ⟨r.classes.push record, numbers, adapters⟩)
    (hlinks : ∀ b, record.superclass = some b ∨ b ∈ record.interfaces → b < r.size)
    (hdescribed : ∀ {a record' d},
      (Registry.mk (r.classes.push record) numbers adapters).get? a = some record' →
        record'.descriptor = some d →
          ∃ old, r.get? a = some old ∧ (old.descriptor = some d ∨ d = r.freshDescriptor a))
    (hadapted : ∀ {kind target id}, adapters.get? (kind, target) = some id →
      r.adapters.get? (kind, target) = some id ∨
        id = r.size ∧ record.superclass = some rootClass ∧ record.interfaces = [target]) :
    Sound ⟨r.classes.push record, numbers, adapters⟩ := by
  have hnew : (Registry.mk (r.classes.push record) numbers adapters).get? r.size = some record := by
    rw [get?_push, if_pos rfl]
  refine h.of_grows hgrows ?_ hdescribed ?_
  · intro a b ha hlink
    -- The class is the new one, for there is no other.
    obtain rfl : a = r.size := by
      have hlt := lt_size_of_link hlink
      simp only [Registry.size, Array.size_push] at hlt ha ⊢
      exact Nat.le_antisymm (Nat.le_of_lt_succ hlt) ha
    refine hlinks b (hlink.imp (fun hb => ?_) (fun hb => ?_))
    · rwa [Extends, superclass?_eq hnew] at hb
    · rwa [Implements, interfaces_eq hnew] at hb
  · intro kind target id hmade
    rcases hadapted hmade with hold | ⟨rfl, hsuper, hfaces⟩
    · exact .inl hold
    · refine .inr ⟨?_, ?_, ?_⟩
      · exact lt_size_iff.2 ⟨record, hnew⟩
      · rw [superclass?_eq hnew, hsuper]
      · rw [interfaces_eq hnew, hfaces]

/-- **Every step keeps a registry sound.** -/
theorem Sound.step (h : r.Sound) (hstep : Step r r') : r'.Sound := by
  have hgrows := hstep.grows
  have hchange := hstep.change
  have hdescribed : ∀ {a record d}, r'.get? a = some record → record.descriptor = some d →
      ∃ old, r.get? a = some old ∧ (old.descriptor = some d ∨ d = r.freshDescriptor a) :=
    fun hget hd => hchange.descriptor hget hd
  cases hchange with
  | same => exact h
  | record id f =>
    refine h.of_grows hgrows ?_ hdescribed fun hmade => .inl hmade
    intro a b ha hlink
    have hlt := lt_size_of_link hlink
    rw [size_update] at hlt
    exact absurd hlt (Nat.not_lt.2 ha)
  | declared record numbers hlinks => exact h.push hgrows hlinks hdescribed fun hmade => .inl hmade
  | adapter record numbers kind target hnew hsuper hfaces hroot htarget =>
    refine h.push hgrows ?_ hdescribed ?_
    · rintro b (hb | hb)
      · obtain rfl : rootClass = b := Option.some.inj (hsuper.symm.trans hb)
        exact hroot
      · rw [hfaces, List.mem_singleton] at hb
        exact hb ▸ htarget
    · intro kind' target' id hmade
      rw [Dict.get?_set] at hmade
      split at hmade
      · next heq =>
        cases heq
        cases hmade
        exact .inr ⟨rfl, hsuper, hfaces⟩
      · exact .inl hmade

/-- Over a whole run, a registry stays sound. -/
theorem Sound.run (h : r.Sound) (hrun : ReflTransGen Step r r') : r'.Sound := by
  induction hrun with
  | refl => exact h
  | tail _ hstep ih => exact ih.step hstep

theorem Reachable.sound (h : r.Reachable) : r.Sound := sound_initial.run h

/-- What is registered from the start on can come up. -/
theorem reachable_foldl (ds : List (Declaration β)) (h : r.Reachable) :
    Reachable (ds.foldl (fun r d => match r.register d with
      | .ok (_, r') => r'
      | .error _ => r) r) := by
  induction ds generalizing r with
  | nil => exact h
  | cons d rest ih =>
    rw [List.foldl_cons]
    cases hregister : r.register d with
    | error fault => exact ih h
    | ok result => exact ih (h.tail (.register hregister))

end GuestHost.Registry
