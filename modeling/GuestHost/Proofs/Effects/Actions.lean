import GuestHost.Proofs.Files.Operations
import GuestHost.Proofs.Linkage.Evolution

/-!
# The effects of actions

Everything that runs on a host changes it by effects of a few kinds. An effect says exactly what is added
to the heap and why, what is written where, and which part of the host it is that changes. What holds
over all runs is proved by looking at the effects, one after the other, and at nothing else.

* `Deed` — what happens only if an operation asks for it by name;
* `Host.Effect`, `Host.Effects` — one effect, and a run of them;
* `Action.Acts` — the action changes a host by effects only, whether it meets a fault or not;
* `Op.acts` — every operation does.
-/

namespace GuestHost

open Relation (ReflTransGen)

/-! ## Deeds -/

/-- What is done to a host only if an operation asks for it by name. -/
inductive Deed
  /-- An instance is made of a factory, whether the host made the factory or not. -/
  | instantiate (f : Factory)
  /-- Files may be opened from now on. -/
  | enableFiles
  /-- The host value behind a wrapper is replaced. -/
  | replace (wrapper : Ref)

/-- The deed that an operation asks for. -/
def Op.deed? {β : Type} : Op β → Option Deed
  | .instantiate f _ => some (.instantiate f)
  | .enableFiles => some .enableFiles
  | .setHostData (.ref r) _ => some (.replace r)
  | _ => none

/-! ## Entries -/

/-- The payloads that a text may be written to. -/
def Payload.TakesText : Payload → Prop
  | .empty | .text _ => True
  | _ => False

/-- What a write may make of an entry, other than the replacement of a host value. -/
inductive Entry.Turns : Entry → Entry → Prop
  | field (o : Object) (name : String) (v : Value) :
    Turns (.object o) (.object { o with fields := o.fields.set name v })
  | text {o : Object} (htakes : o.payload.TakesText) (contents : String) :
    Turns (.object o) (.object { o with payload := .text contents })
  | element (items : List Value) (i : Nat) (v : Value) : Turns (.array items) (.array (items.set i v))

/-- The class object of a class, if it was made. -/
def Registry.mirror? {β : Type} (r : Registry β) (cls : ClassId) : Option Ref :=
  (r.get? cls).bind (·.mirror)

namespace Host

/-- A factory that the host made: it is that of a site, or an object carries it. -/
def Knows (h : Host) (f : Factory) : Prop :=
  (∃ site, h.linkage.factories.get? site = some f) ∨
    ∃ r o, h.heap.get? r = some (.object o) ∧ o.payload = .factory f

/-- A class that instances are made of: it is registered, or an adapter. -/
def Offers (h : Host) (cls : ClassId) : Prop :=
  cls < h.registry.size ∨ ∃ key, h.registry.adapters.get? key = some cls

/-- What a new object may be: its class, and its payload. -/
inductive Makes (may : Deed → Prop) (h : Host) : ClassId → Payload → Prop
  | plain {cls : ClassId} (hcls : h.Offers cls) : Makes may h cls .empty
  | descriptor : Makes may h CoreClass.fileDescriptor .empty
  | text (kind : TextKind) (contents : String) : Makes may h (Action.textClass kind) (.text contents)
  | wrapper {cls : ClassId} (hcls : h.Offers cls) (data : HostData) : Makes may h cls (.host data)
  | methodHandle (handle : MethodHandle) : Makes may h CoreClass.methodHandle (.methodHandle handle)
  | methodType (cls : ClassId) : Makes may h CoreClass.methodType (.methodType cls)
  | callSite {f : Factory} (hf : h.Knows f) : Makes may h CoreClass.callSite (.factory f)
  | siteTarget {f : Factory} (hf : h.Knows f) : Makes may h CoreClass.methodHandle (.factory f)
  | lambda {f : Factory} (hf : h.Knows f ∨ may (.instantiate f)) (linking : List Value) :
    Makes may h f.implementing (.lambda ⟨f.handle, linking⟩)

/-- The host with a class object for a class. -/
def withMirror (h : Host) (cls : ClassId) : Host :=
  let (r, heap) := h.heap.allocObject CoreClass.classObject (.mirror cls)
  { h with heap, registry := h.registry.update cls fun c => { c with mirror := some r } }

/-- One effect on a host, where only some deeds are done. -/
inductive Effect (may : Deed → Prop) : Host → Host → Prop
  | array (h : Host) (items : List Value) :
    Effect may h { h with heap := (h.heap.alloc (.array items)).2 }
  | object {h : Host} {cls : ClassId} {payload : Payload} (hmakes : h.Makes may cls payload) :
    Effect may h { h with heap := (h.heap.allocObject cls payload).2 }
  | mirror {h : Host} {cls : ClassId} (hcls : cls < h.registry.size)
    (hnew : h.registry.mirror? cls = none) : Effect may h (h.withMirror cls)
  | write {h : Host} {r : Ref} {e e' : Entry} (he : h.heap.get? r = some e) (hturns : e.Turns e') :
    Effect may h { h with heap := h.heap.put r e' }
  | replace {h : Host} {r : Ref} {o : Object} {old : HostData} (hmay : may (.replace r))
    (ho : h.heap.get? r = some (.object o)) (hold : o.payload = .host old) (data : HostData) :
    Effect may h { h with heap := h.heap.put r (.object { o with payload := .host data }) }
  | registry {h : Host} {registry : Registry Body} (hstep : Registry.Step h.registry registry)
    (hmirrors : ∀ cls, registry.mirror? cls = h.registry.mirror? cls) :
    Effect may h { h with registry }
  | number (h : Host) : Effect may h { h with linkage := h.linkage.anonymousSite.2 }
  | bootstrap {h h' : Host} {site : SiteId} {interface : ClassId} {handle : MethodHandle} {f : Factory}
    (hf : (Action.bootstrapSite site interface handle).apply h = (.ok f, h')) : Effect may h h'
  | link {h h' : Host} {site : SiteId} {request : LinkRequest} {s : CallSite}
    (hs : (Action.link site request).apply h = (.ok s, h')) : Effect may h h'
  | files (h : Host) (op : FileOp) (hop : op = .enable → may .enableFiles) :
    Effect may h { h with files := (op.apply h.files).2 }
  | module (h : Host) (m : Module) : Effect may h { h with attached := some m }
  | surroundings (h : Host) (surroundings : Surroundings) : Effect may h { h with surroundings }

/-- A run of effects, where only some deeds are done. -/
def Effects (may : Deed → Prop) : Host → Host → Prop := ReflTransGen (Effect may)

end Host

/-- A value that must be an object is a reference. -/
theorem Value.expectObject_eq_ok {v : Value} {r : Ref} : v.expectObject = .ok r ↔ v = .ref r := by
  constructor
  · intro hr
    cases v with
    | ref r' =>
      cases hr
      rfl
    | null | int | long | float | double | handle => cases hr
  · rintro rfl
    rfl

/-! ## Class objects in the registry -/

namespace Registry

variable {β : Type} {r r' : Registry β} {id cls : ClassId}

theorem mirror?_update (f : ClassRecord β → ClassRecord β) (hf : ∀ c, (f c).mirror = c.mirror)
    (cls : ClassId) : (r.update id f).mirror? cls = r.mirror? cls := by
  unfold mirror?
  rw [get?_update]
  cases r.get? cls <;> by_cases hcls : id = cls <;> simp [hcls, hf]

/-- A class is registered without a class object. -/
theorem mirror?_push {record : ClassRecord β} (hnew : record.mirror = none)
    (numbers : Dict String ClassId) (adapters : Dict (AdapterKind × ClassId) ClassId) (cls : ClassId) :
    (Registry.mk (r.classes.push record) numbers adapters).mirror? cls = r.mirror? cls := by
  unfold mirror?
  rw [get?_push]
  by_cases hcls : cls = r.size
  · have hnone : r.get? cls = none := Array.getElem?_eq_none (Nat.le_of_eq hcls.symm)
    rw [if_pos hcls, hnone]
    exact hnew
  · rw [if_neg hcls]

theorem mirror?_register {d : Declaration β} (h : r.register d = .ok (id, r')) (cls : ClassId) :
    r'.mirror? cls = r.mirror? cls := by
  obtain ⟨-, -, -, rfl⟩ := registerAs_eq_ok_iff.1 h
  exact mirror?_push rfl _ _ cls

theorem mirror?_adapter {kind : AdapterKind} {target : ClassId}
    (h : r.adapter kind target = .ok (id, r')) (cls : ClassId) : r'.mirror? cls = r.mirror? cls := by
  rcases adapter_eq_ok_iff.1 h with ⟨-, rfl⟩ | ⟨-, -, name, made, -, hregister, rfl⟩
  · rfl
  · obtain ⟨-, -, -, rfl⟩ := registerAs_eq_ok_iff.1 hregister
    exact mirror?_push rfl _ _ cls

theorem mirror?_describe {d : Descriptor} (h : r.describe id = .ok (d, r')) (cls : ClassId) :
    r'.mirror? cls = r.mirror? cls := by
  obtain ⟨-, -, ⟨-, rfl⟩ | ⟨-, -, rfl⟩⟩ := describe_eq_ok h
  · rfl
  · exact mirror?_update (fun c => { c with descriptor := some d }) (fun _ => rfl) cls

end Registry

/-! ## Actions -/

namespace Action

open Host (Effect Effects)

variable {α β : Type} {h : Host} {may : Deed → Prop}

/-- The action changes a host by effects, whether it has a result or meets a fault. -/
def Acts (may : Deed → Prop) (a : Action α) : Prop := ∀ h : Host, h.Effects may (a.apply h).2

/-- Two actions one after the other; the second is only looked at where the first led to. -/
theorem effects_bind {a : Action α} {f : α → Action β} (ha : h.Effects may (a.apply h).2)
    (hf : ∀ x h', a.apply h = (.ok x, h') → h'.Effects may ((f x).apply h').2) :
    h.Effects may ((a >>= f).apply h).2 := by
  rw [apply_bind]
  rcases hx : a.apply h with ⟨fault | x, h'⟩
  · rw [hx] at ha
    exact ha
  · rw [hx] at ha
    exact ha.trans (hf x h' hx)

theorem Acts.bind {a : Action α} {f : α → Action β} (ha : Acts may a) (hf : ∀ x, Acts may (f x)) :
    Acts may (a >>= f) := by
  intro h
  apply effects_bind (ha h)
  intro x h' _
  exact hf x h'

theorem ReadsOnly.acts {a : Action α} (ha : ReadsOnly a) : Acts may a := by
  intro h
  rw [ha h]
  exact .refl

theorem acts_pure (a : α) : Acts may (pure a : Action α) := (readsOnly_pure a).acts

theorem acts_ofResult (r : Except Fault α) : Acts may (ofResult r) := (readsOnly_ofResult r).acts

theorem acts_fail (fault : Fault) : Acts may (fail fault : Action α) := (readsOnly_ofResult _).acts

theorem acts_view (f : Host → Except Fault α) : Acts may (view f) := (readsOnly_view f).acts

theorem acts_get : Acts may (get : Action Host) := readsOnly_get.acts

/-- A result that is only wrapped up has no further effect. -/
theorem Acts.map {a : Action α} (ha : Acts may a) (f : α → β) :
    Acts may (do return f (← a) : Action β) :=
  ha.bind fun x => acts_pure (f x)

/-- What is seen of the host may be made use of. -/
theorem acts_view_bind {g : Host → Except Fault α} {f : α → Action β}
    (hf : ∀ h x, g h = .ok x → h.Effects may ((f x).apply h).2) : Acts may (view g >>= f) := by
  intro h
  apply effects_bind (acts_view g h)
  intro x h' hx
  obtain ⟨hg, rfl⟩ := apply_view_eq_ok.1 hx
  exact hf h x hg

/-! ## Parts of the host -/

theorem effects_allocObject {cls : ClassId} {payload : Payload} (hmakes : h.Makes may cls payload) :
    h.Effects may ((allocObject cls payload).apply h).2 := .single (.object hmakes)

/-- A new object, as the value that refers to it. -/
theorem effects_allocated {cls : ClassId} {payload : Payload} (hmakes : h.Makes may cls payload) :
    h.Effects may ((do return .ref (← allocObject cls payload) : Action Value).apply h).2 := by
  apply effects_bind (effects_allocObject hmakes)
  intro r h' _
  exact acts_pure _ h'

theorem acts_allocArray (items : List Value) : Acts may (allocArray items) := fun h =>
  .single (.array h items)

theorem acts_updateHeap {f : Heap → Except Fault Heap}
    (hf : ∀ heap heap', f heap = .ok heap' →
      ∃ r e e', heap.get? r = some e ∧ e.Turns e' ∧ heap' = heap.put r e') :
    Acts may (updateHeap f) := by
  intro h
  rw [apply_updateHeap]
  cases hheap : f h.heap with
  | error fault => exact .refl
  | ok heap =>
    obtain ⟨r, e, e', he, hturns, rfl⟩ := hf _ _ hheap
    exact .single (.write he hturns)

theorem acts_onFiles (f : FileTable → α × FileTable) (op : FileOp)
    (hop : op = .enable → may .enableFiles) (hf : ∀ t, (f t).2 = (op.apply t).2) :
    Acts may (onFiles f) := by
  intro h
  rw [apply_onFiles, hf]
  exact .single (.files h op hop)

theorem acts_onModule (f : Module → Except Fault α × Module) : Acts may (onModule f) := by
  intro h
  rw [apply_onModule]
  cases h.module? with
  | error fault => exact .refl
  | ok m => exact .single (.module h _)

theorem acts_onRegistry {f : Registry Body → Except Fault (α × Registry Body)}
    (hf : ∀ r a r', f r = .ok (a, r') →
      Registry.Step r r' ∧ ∀ cls, r'.mirror? cls = r.mirror? cls) : Acts may (onRegistry f) := by
  intro h
  rw [apply_onRegistry]
  cases hregistry : f h.registry with
  | error fault => exact .refl
  | ok result =>
    obtain ⟨hstep, hmirrors⟩ := hf _ _ _ hregistry
    exact .single (.registry hstep hmirrors)

end Action

/-! ## Writes -/

namespace Heap

variable {heap heap' : Heap} {r : Ref}

theorem turns_of_setField {name : String} {v : Value} (h : heap.setField r name v = .ok heap') :
    ∃ r e e', heap.get? r = some e ∧ e.Turns e' ∧ heap' = heap.put r e' := by
  unfold setField at h
  cases ho : heap.object r with
  | error fault => simp [ho] at h
  | ok o =>
    simp only [ho] at h
    cases h
    exact ⟨r, _, _, object_eq_ok.1 ho, .field o name v, rfl⟩

theorem turns_of_setText {contents : String} (h : heap.setText r contents = .ok heap') :
    ∃ r e e', heap.get? r = some e ∧ e.Turns e' ∧ heap' = heap.put r e' := by
  unfold setText at h
  cases ho : heap.object r with
  | error fault => simp [ho] at h
  | ok o =>
    simp only [ho] at h
    split at h
    · next hp =>
      cases h
      exact ⟨r, _, _, object_eq_ok.1 ho, .text (by rw [hp]; trivial) contents, rfl⟩
    · next hp =>
      cases h
      exact ⟨r, _, _, object_eq_ok.1 ho, .text (by rw [hp]; trivial) contents, rfl⟩
    · cases h

theorem turns_of_arraySet {i : Nat} {v : Value} (h : heap.arraySet r i v = .ok heap') :
    ∃ r e e', heap.get? r = some e ∧ e.Turns e' ∧ heap' = heap.put r e' := by
  unfold arraySet at h
  cases ha : heap.array r with
  | error fault => simp [ha] at h
  | ok items =>
    simp only [ha] at h
    split at h
    · cases h
      exact ⟨r, _, _, array_eq_ok.1 ha, .element items i v, rfl⟩
    · cases h

end Heap

namespace Action

variable {α β : Type} {h : Host} {may : Deed → Prop}

/-! ## Texts, arrays and file streams -/

theorem acts_text (v : Value) : Acts may (text v) := acts_view _

theorem acts_newText (kind : TextKind) (contents : String) : Acts may (newText kind contents) := by
  apply acts_get.bind
  intro h
  cases h.mode with
  | direct => exact fun h' => effects_allocated (.text kind contents)
  | exported => exact acts_onModule _

theorem acts_newString (contents : String) : Acts may (newString contents) := acts_newText _ _

theorem acts_setText (v : Value) (contents : String) : Acts may (setText v contents) := by
  apply acts_get.bind
  intro h
  split
  · exact acts_updateHeap fun _ _ => Heap.turns_of_setText
  · exact acts_onModule _
  · exact acts_fail _

theorem acts_newArray (items : List Value) : Acts may (newArray items) := by
  apply acts_get.bind
  intro h
  cases h.mode with
  | direct => exact (acts_allocArray _).map Value.ref
  | exported => exact acts_onModule _

theorem acts_arraySet (v : Value) (i : Nat) (value : Value) : Acts may (arraySet v i value) := by
  cases v with
  | ref r => exact acts_updateHeap fun _ _ => Heap.turns_of_arraySet
  | handle n => exact acts_onModule _
  | null | int | long | float | double => exact acts_fail _

theorem acts_arrayFill (v : Value) (i : Nat) (items : List Value) : Acts may (arrayFill v i items) := by
  induction items generalizing i with
  | nil => exact acts_pure _
  | cons x rest ih => exact (acts_arraySet v i x).bind fun _ => ih (i + 1)

theorem acts_descriptorObject (stream : Ref) : Acts may (descriptorObject stream) := by
  apply (acts_view _).bind
  intro field
  cases field with
  | ref d => exact acts_pure _
  | null | int | long | float | double | handle =>
    have halloc : Acts may (allocObject CoreClass.fileDescriptor .empty) := fun h =>
      effects_allocObject .descriptor
    exact halloc.bind fun d =>
      (acts_updateHeap fun _ _ => Heap.turns_of_setField).bind fun _ => acts_pure _

theorem acts_setDescriptor (v : Value) (n : Int32) : Acts may (setDescriptor v n) := by
  cases v with
  | ref r =>
    exact (acts_descriptorObject r).bind fun d => acts_updateHeap fun _ _ => Heap.turns_of_setField
  | handle n => exact acts_onModule _
  | null | int | long | float | double => exact acts_fail _

theorem acts_openFile (path : String) : Acts may (openFile path) := by
  apply acts_get.bind
  intro h
  exact acts_onFiles _ (.openForRead h.source path) nofun fun t => rfl

theorem acts_skip (n : Int32) (amount : Int64) : Acts may (onFiles fun t => t.skip n amount) :=
  acts_onFiles _ (.skip n amount) nofun fun _ => rfl

theorem acts_readByte (n : Int32) : Acts may (onFiles fun t => t.readByte n) :=
  acts_onFiles _ (.readByte n) nofun fun _ => rfl

theorem acts_write (n : Int32) (bytes : Bytes) : Acts may (onFiles fun t => t.write n bytes) :=
  acts_onFiles _ (.write n bytes) nofun fun _ => rfl

theorem acts_release (n : Int32) : Acts may (onFiles fun t => t.release n) :=
  acts_onFiles _ (.release n) nofun fun _ => rfl

theorem acts_fileExists (path : String) : Acts may (fileExists path) :=
  acts_get.bind fun _ => acts_pure _

/-! ## Classes and objects -/

theorem acts_getClassRecord (cls : ClassId) : Acts may (getClassRecord cls) := acts_view _

/-- What comes after the record of a class was read is only looked at if the class is registered. -/
theorem acts_getClassRecord_bind {cls : ClassId} {f : ClassRecord Body → Action β}
    (hf : ∀ (h : Host) (c : ClassRecord Body), h.registry.get? cls = some c →
      h.Effects may ((f c).apply h).2) :
    Acts may (getClassRecord cls >>= f) := by
  apply acts_view_bind
  intro h c hc
  unfold Registry.get at hc
  cases hget : h.registry.get? cls with
  | none =>
    rw [hget] at hc
    cases hc
  | some c' =>
    rw [hget] at hc
    cases hc
    exact hf h _ hget

theorem acts_define (d : Declaration Body) : Acts may (define d) :=
  acts_onRegistry fun _ _ _ h => ⟨.register h, Registry.mirror?_register h⟩

theorem acts_adapter (kind : AdapterKind) (cls : ClassId) : Acts may (adapter kind cls) :=
  acts_onRegistry fun _ _ _ h => ⟨.adapter h, Registry.mirror?_adapter h⟩

theorem acts_describe (cls : ClassId) : Acts may (describe cls) :=
  acts_onRegistry fun _ _ _ h => ⟨.describe h, Registry.mirror?_describe h⟩

theorem acts_setStatic (cls : ClassId) (name : String) (v : Value) :
    Acts may (setStatic cls name v) := fun _ =>
  .single (.registry (.setStatic cls name v) (Registry.mirror?_update _ fun _ => rfl))

theorem acts_classMirror (cls : ClassId) : Acts may (classMirror cls) := by
  apply acts_getClassRecord_bind
  intro h c hc
  cases hmirror : c.mirror with
  | some r => exact .refl
  | none =>
    have hnew : h.registry.mirror? cls = none := by
      unfold Registry.mirror?
      rw [hc]
      exact hmirror
    exact .single (.mirror (Registry.lt_size_iff.2 ⟨c, hc⟩) hnew)

theorem acts_getClass (v : Value) : Acts may (getClass v) :=
  (acts_view _).bind fun cls => acts_classMirror cls

theorem acts_instanceOf (v : Value) (cls : ClassId) : Acts may (instanceOf v cls) := by
  intro h
  show h.Effects may (if v.isNull then (false, h) else _).2
  by_cases hv : v.isNull = true
  · rw [if_pos hv]
    exact .refl
  · rw [if_neg hv]
    cases h.classOf v with
    | error fault => exact .refl
    | ok c =>
      cases hmade : h.registry.describe c with
      | error fault =>
        simp only [hmade]
        exact .refl
      | ok result =>
        simp only [hmade]
        exact .single (.registry (.describe hmade) (Registry.mirror?_describe hmade))

theorem acts_allocate (cls : ClassId) : Acts may (allocate cls) := by
  apply acts_getClassRecord_bind
  intro h c hc
  exact effects_allocated (.plain (.inl (Registry.lt_size_iff.2 ⟨c, hc⟩)))

theorem acts_wrap (cls : ClassId) (data : HostData) : Acts may (wrap cls data) := by
  apply acts_getClassRecord_bind
  intro h c hc
  by_cases hface : c.isInterface = true
  · simp only [hface, if_true]
    apply effects_bind (acts_adapter _ _ h)
    intro concrete h' hmade
    -- The wrapper is an instance of the adapter that was just asked for.
    have hoffers : h'.Offers concrete := by
      unfold adapter at hmade
      rw [apply_onRegistry] at hmade
      cases hadapter : h.registry.adapter .wrapper cls with
      | error fault =>
        rw [hadapter] at hmade
        cases hmade
      | ok result =>
        rw [hadapter] at hmade
        cases hmade
        exact .inr ⟨_, (Registry.grows_of_adapter hadapter).2⟩
    exact effects_allocated (.wrapper hoffers data)
  · simp only [hface]
    exact effects_allocated (.wrapper (.inl (Registry.lt_size_iff.2 ⟨c, hc⟩)) data)

theorem acts_setHostData {v : Value} (hmay : ∀ r, v = .ref r → may (.replace r)) (data : HostData) :
    Acts may (setHostData v data) := by
  apply acts_view_bind
  intro h old hdata
  obtain ⟨r, o, hr, ho, hpayload⟩ := object_of_hostData hdata
  obtain rfl := Value.expectObject_eq_ok.1 hr
  have hwrite : (updateHeap fun heap => do
      let o ← heap.object r
      return heap.put r (.object { o with payload := .host data })).apply h
        = (.ok (), { h with heap := h.heap.put r (.object { o with payload := .host data }) }) := by
    rw [apply_updateHeap_of_ok]
    rw [ho]
    rfl
  show h.Effects may (((ofResult (Value.ref r).expectObject) >>= _).apply h).2
  rw [hr, apply_bind_of_ok (apply_ofResult _), apply_bind_of_ok hwrite]
  exact .single (.replace (hmay r rfl) (Heap.object_eq_ok.1 ho) hpayload data)

theorem acts_getField (v : Value) (name : String) : Acts may (getField v name) :=
  (acts_ofResult _).bind fun _ => acts_view _

theorem acts_setField (v : Value) (name : String) (value : Value) : Acts may (setField v name value) :=
  (acts_ofResult _).bind fun _ => acts_updateHeap fun _ _ => Heap.turns_of_setField

/-! ## Linkage -/

theorem acts_methodHandle (cls : ClassId) (method : String) (kind : UInt8) :
    Acts may (methodHandle cls method kind) := by
  apply (acts_ofResult _).bind
  intro kind
  apply acts_getClassRecord_bind
  intro h c _
  exact effects_allocated (.methodHandle _)

theorem acts_methodType (cls : ClassId) : Acts may (methodType cls) := by
  apply acts_getClassRecord_bind
  intro h c _
  exact effects_allocated (.methodType cls)

theorem acts_anonymousSite : Acts may anonymousSite := fun h => .single (.number h)

theorem acts_bootstrapSite (site : SiteId) (interface : ClassId) (handle : MethodHandle) :
    Acts may (bootstrapSite site interface handle) := by
  intro h
  rcases bootstrapSite_spec site interface handle h with ⟨f, h', hf, -⟩ | ⟨fault, hf⟩
  · rw [hf]
    exact .single (.bootstrap hf)
  · rw [hf]
    exact .refl

theorem acts_link (site : SiteId) (request : LinkRequest) : Acts may (link site request) := by
  intro h
  rcases link_spec site request h with ⟨s, h', hs, -⟩ | ⟨fault, hs⟩
  · rw [hs]
    exact .single (.link hs)
  · rw [hs]
    exact .refl

/-- A factory makes instances where the host knows it, or where it may be used all the same. -/
theorem effects_instantiate {f : Factory} (hf : h.Knows f ∨ may (.instantiate f))
    (linking : List Value) : h.Effects may ((instantiate f linking).apply h).2 := by
  apply effects_bind (effects_allocObject (.lambda hf linking))
  intro r h' _
  exact acts_pure _ h'

/-- The host knows a factory that it just made. -/
theorem knows_of_bootstrapSite {site : SiteId} {interface : ClassId} {handle : MethodHandle}
    {f : Factory} {h' : Host} (hf : (bootstrapSite site interface handle).apply h = (.ok f, h')) :
    h'.Knows f := by
  cases bootstraps_of_ok hf with
  | before hmade => exact .inl ⟨site, hmade⟩
  | made => exact .inl ⟨site, Dict.get?_set_self _ _ _⟩

end Action

open GuestHost.Action

/-! ## Operations -/

/-- **Every operation** changes a host by effects, with the deed that it asks for. -/
theorem Op.acts {may : Deed → Prop} (op : Op Body) (hmay : ∀ d, op.deed? = some d → may d) :
    Acts may op.apply := by
  cases op with
  | lookup => exact (acts_view _).map Reply.cls
  | define d => exact (acts_define d).map Reply.cls
  | adapter kind cls => exact (acts_adapter kind cls).map Reply.cls
  | describe cls => exact (acts_describe cls).map Reply.descriptor
  | getStatic cls name => exact (acts_getClassRecord cls).map fun c => Reply.value (c.static name)
  | setStatic cls name v => exact (acts_setStatic cls name v).map Reply.truth
  | enumConstants => exact (acts_view _).map Reply.values
  | classOf => exact (acts_view _).map Reply.cls
  | getClass v => exact (acts_getClass v).map Reply.value
  | classMirror cls => exact (acts_classMirror cls).map Reply.value
  | mirroredClass => exact (acts_view _).map Reply.cls
  | instanceOf v cls => exact (acts_instanceOf v cls).map Reply.truth
  | allocate cls => exact (acts_allocate cls).map Reply.value
  | getField v name => exact (acts_getField v name).map Reply.value
  | setField v name value => exact (acts_setField v name value).map fun _ => Reply.done
  | wrap cls data => exact (acts_wrap cls data).map Reply.value
  | hostData => exact (acts_view _).map Reply.host
  | setHostData v data =>
    have hreplace : ∀ r, v = .ref r → may (.replace r) := by
      rintro r rfl
      exact hmay _ rfl
    exact (acts_setHostData hreplace data).map Reply.host
  | newText kind contents => exact (acts_newText kind contents).map Reply.value
  | text v => exact (acts_text v).map Reply.text
  | setText v contents => exact (acts_setText v contents).map fun _ => Reply.done
  | newArray items => exact (acts_newArray items).map Reply.value
  | arrayLength => exact (acts_view _).map fun n : Nat => Reply.number n
  | arrayValues => exact (acts_view _).map fun vs => Reply.values (some vs)
  | arrayGet => exact (acts_view _).map Reply.value
  | arraySet v i value => exact (acts_arraySet v i value).map fun _ => Reply.done
  | descriptor => exact (acts_view _).map fun n : Int32 => Reply.number n.toInt
  | setDescriptor v n => exact (acts_setDescriptor v n).map fun _ => Reply.done
  | newStream => exact (acts_onModule _).map Reply.value
  | enableFiles =>
    exact (acts_onFiles (fun t => ((), t.enable)) .enable (fun _ => hmay _ rfl) fun _ => rfl).map
      fun _ => Reply.done
  | openFile path => exact (acts_openFile path).map fun n : Int32 => Reply.number n.toInt
  | fileExists path => exact (acts_fileExists path).map Reply.truth
  | skip n amount => exact (acts_skip n amount).map fun n : Int64 => Reply.number n.toInt
  | available => exact acts_get.map fun h => Reply.number (h.files.available _).toInt
  | readByte n => exact (acts_readByte n).map fun n : Int32 => Reply.number n.toInt
  | readBytes n length => exact acts_onFiles _ (.readBytes n length) nofun fun _ => rfl
  | write n bytes => exact (acts_write n bytes).map Reply.truth
  | flush =>
    exact (acts_onFiles (fun t => ((), t.flush)) .flush nofun fun _ => rfl).map fun _ => Reply.done
  | release n => exact (acts_release n).map Reply.truth
  | methodHandle cls method kind => exact (acts_methodHandle cls method kind).map Reply.value
  | methodType cls => exact (acts_methodType cls).map Reply.value
  | link site request => exact (acts_link site request).map Reply.site
  | bootstrapSite site interface handle =>
    exact (acts_bootstrapSite site interface handle).map Reply.factory
  | instantiate f linking =>
    have hinstantiate : Acts may (Action.instantiate f linking) := fun h =>
      effects_instantiate (.inr (hmay _ rfl)) linking
    exact hinstantiate.map Reply.site

end GuestHost
