import GuestHost.Host.Startup
import GuestHost.Proofs.Actions

/-!
# Static calls and calls with a receiver

Methods and natives are declared to be called with a receiver or without one. Declared methods are looked
for by key and kind, so a call runs none of the other kind. Natives are looked for by key alone: the first
class along an ancestry that owns a native for the key decides, whatever the kind of the native is.

* `found?` — what a call of a kind finds from a class;
* `apply_static`, `apply_special`, `apply_virtual` — that is what calls run;
* `native?_eq_some_iff` — which class the native of a key is taken from;
* `crosses_iff` — when a call runs a body of the other kind;
* `dispatch_kinds` — the two together, for every host.
-/

namespace GuestHost

variable {h : Host} {cls : ClassId} {key : String} {kind : MethodKind} {args : List Value}

/-! ## Declared methods -/

/-- A method that is declared with a kind is of that kind. -/
theorem ClassRecord.kind_of_method? {β : Type} {c : ClassRecord β} {m : Method β}
    (hm : c.method? key kind = some m) : m.kind = kind := by
  unfold ClassRecord.method? at hm
  obtain ⟨-, hkind⟩ := Option.filter_eq_some_iff.1 hm
  exact of_decide_eq_true hkind

/-- **A method that is found for a kind is of that kind.** -/
theorem Registry.kind_of_findMethod? {β : Type} {r : Registry β} {m : Method β}
    (hm : r.findMethod? cls key kind = some m) : m.kind = kind := by
  unfold Registry.findMethod? at hm
  obtain ⟨c, -, hc⟩ := List.exists_of_findSome?_eq_some hm
  obtain ⟨record, -, hrecord⟩ := Option.bind_eq_some_iff.1 hc
  exact ClassRecord.kind_of_method? hrecord

namespace Dispatch

variable {call : Caller}

/-! ## What calls run -/

/-- The native of the first class along the ancestry of a class that owns one for a key. -/
def native? (h : Host) (cls : ClassId) (key : String) : Option (Import NativeCode) :=
  (h.registry.ancestry cls).findSome? fun c =>
    (h.registry.get? c).bind fun record => h.imports.find? record.name key

/-- What a call of a kind finds from a class: a declared method of that kind, or else a native. -/
def found? (h : Host) (cls : ClassId) (key : String) (kind : MethodKind) :
    Option (Import NativeCode) :=
  match h.registry.findMethod? cls key kind with
  | some m => some ⟨m.kind, .body m.body⟩
  | none => native? h cls key

/-- What is left for a call with a receiver that finds nothing: the target of a lambda. -/
def forward (call : Caller) (cls : ClassId) (receiver : Value) (key : String) (args : List Value) :
    Process Value := do
  match ← outcome (target? (← get) receiver) with
  | some t => call (.target t args)
  | none => (missing cls key).toProcess

/-- The owner of a native that is looked for owns the one that is found. -/
theorem bind_nativeOwner? :
    ((nativeOwner? h cls key).bind fun owner => h.imports.find? owner key) = native? h cls key := by
  unfold nativeOwner? native?
  induction h.registry.ancestry cls with
  | nil => rfl
  | cons c rest ih =>
    cases hc : h.registry.get? c with
    | none => simpa [hc] using ih
    | some record =>
      cases he : h.imports.find? record.name key with
      | none => simpa [hc, he, Imports.contains] using ih
      | some e => simp [hc, he, Imports.contains]

theorem native?_of_nativeOwner? {owner : String} (howner : nativeOwner? h cls key = some owner) :
    ∃ e, h.imports.find? owner key = some e ∧ native? h cls key = some e := by
  have hcontains : h.imports.contains owner key = true :=
    List.find?_some (p := fun name => h.imports.contains name key) howner
  obtain ⟨e, he⟩ := Option.isSome_iff_exists.1 hcontains
  refine ⟨e, he, ?_⟩
  rw [← bind_nativeOwner?, howner]
  exact he

theorem native?_eq_none_of_nativeOwner? (howner : nativeOwner? h cls key = none) :
    native? h cls key = none := by
  rw [← bind_nativeOwner?, howner]
  rfl

theorem apply_callPlainNative {owner : String} {e : Import NativeCode}
    (he : h.imports.find? owner key = some e) :
    (callPlainNative call owner key args).apply h = (runCode call e.code args).apply h := by
  have hresolve : h.imports.resolve owner key = .ok e := by
    unfold Imports.resolve
    rw [he]
  unfold callPlainNative
  rw [Process.apply_bind, Process.apply_toProcess, Action.apply_view, hresolve]

/-- The call of a native that the table has runs its code. -/
theorem apply_native {owner : String} {e : Import NativeCode} (he : h.imports.find? owner key = some e) :
    (step call (.native owner key args)).apply h
      = (runCode call e.code (nativeArguments h.mode e.kind args)).apply h := by
  have hresolve : (Action.view fun h => h.imports.resolve owner key).toProcess.apply h
      = some (.ok e, h) := by
    rw [Process.apply_toProcess, Action.apply_view, Imports.resolve, he]
  show (callNative call owner key args).apply h = _
  unfold callNative
  rw [Process.apply_bind_of_ok hresolve, Process.apply_bind_of_ok Process.apply_get]

/-- A call without a receiver runs what it finds with its arguments. -/
theorem apply_static : (step call (.static cls key args)).apply h
    = match found? h cls key .static with
      | some e => (runCode call e.code args).apply h
      | none => ((missing cls key : Action Value).toProcess).apply h := by
  show (callStatic call cls key args).apply h = _
  unfold callStatic found?
  rw [Process.apply_bind_of_ok Process.apply_get]
  cases hm : h.registry.findMethod? cls key .static with
  | some m => rfl
  | none =>
    cases howner : nativeOwner? h cls key with
    | none =>
      rw [native?_eq_none_of_nativeOwner? howner]
    | some owner =>
      obtain ⟨e, he, hnative⟩ := native?_of_nativeOwner? howner
      simp only [hnative]
      exact apply_callPlainNative he

/-- A call with a receiver runs what it finds with the receiver before its arguments, and forwards to
the target of a lambda if it finds nothing. -/
theorem apply_special {receiver : Value} : (step call (.special cls receiver key args)).apply h
    = match found? h cls key .onInstance with
      | some e => (runCode call e.code (receiver :: args)).apply h
      | none => (forward call cls receiver key args).apply h := by
  show (callOn call cls receiver key args).apply h = _
  unfold callOn found?
  rw [Process.apply_bind_of_ok Process.apply_get]
  cases hm : h.registry.findMethod? cls key .onInstance with
  | some m => rfl
  | none =>
    cases howner : nativeOwner? h cls key with
    | none =>
      rw [native?_eq_none_of_nativeOwner? howner]
      rfl
    | some owner =>
      obtain ⟨e, he, hnative⟩ := native?_of_nativeOwner? howner
      simp only [hnative]
      exact apply_callPlainNative he

/-- A call on the receiver's class is one from that class. -/
theorem apply_virtual {receiver : Value} : (step call (.virtual receiver key args)).apply h
    = match h.classOf receiver with
      | .ok own => (step call (.special own receiver key args)).apply h
      | .error fault => some (.error fault, h) := by
  show (callVirtual call receiver key args).apply h = _
  unfold callVirtual
  rw [Process.apply_bind, Process.apply_toProcess, Action.apply_view]
  cases h.classOf receiver <;> rfl

/-! ## When kinds are crossed -/

/-- A native is owned for a key by a class of the ancestry of a class, and no class before it along the
ancestry owns one. -/
def FirstNative (h : Host) (cls : ClassId) (key : String) (e : Import NativeCode) : Prop :=
  ∃ before c after record, h.registry.ancestry cls = before ++ c :: after ∧
    h.registry.get? c = some record ∧ h.imports.find? record.name key = some e ∧
      ∀ b ∈ before, ∀ record, h.registry.get? b = some record →
        h.imports.find? record.name key = none

theorem native?_eq_some_iff {e : Import NativeCode} :
    native? h cls key = some e ↔ FirstNative h cls key e := by
  unfold native? FirstNative
  rw [List.findSome?_eq_some_iff]
  simp only [Option.bind_eq_some_iff, Option.bind_eq_none_iff]
  constructor
  · rintro ⟨before, c, after, hsplit, ⟨record, hc, he⟩, hbefore⟩
    exact ⟨before, c, after, record, hsplit, hc, he, hbefore⟩
  · rintro ⟨before, c, after, record, hsplit, hc, he, hbefore⟩
    exact ⟨before, c, after, hsplit, ⟨record, hc, he⟩, hbefore⟩

/-- A call of a kind runs a body of the other kind. -/
def Crosses (h : Host) (cls : ClassId) (key : String) (kind : MethodKind) : Prop :=
  ∃ e, found? h cls key kind = some e ∧ e.kind ≠ kind

/-- **A call crosses kinds exactly if no method of its kind is declared for the key along the ancestry,
and the first class along it that owns a native for the key owns one of the other kind.** -/
theorem crosses_iff : Crosses h cls key kind ↔
    h.registry.findMethod? cls key kind = none ∧ ∃ e, FirstNative h cls key e ∧ e.kind ≠ kind := by
  unfold Crosses found?
  cases hm : h.registry.findMethod? cls key kind with
  | some m => simpa using Registry.kind_of_findMethod? hm
  | none =>
    simp only [true_and]
    exact exists_congr fun e => and_congr_left fun _ => native?_eq_some_iff

/-- **What calls run, and when a call crosses kinds.** A call without a receiver runs what it finds from
its class with its arguments; a call with one runs what it finds with the receiver in front, and forwards
only if it finds nothing; a call on a receiver is one from the receiver's own class. What is found for a
kind is of the other kind exactly if no method of that kind is declared along the ancestry, and the first
class along it that owns a native for the key owns one of the other kind. -/
theorem dispatch_kinds (h : Host) (call : Caller) (cls : ClassId) (key : String) :
    (∀ args, (step call (.static cls key args)).apply h
      = match found? h cls key .static with
        | some e => (runCode call e.code args).apply h
        | none => ((missing cls key : Action Value).toProcess).apply h) ∧
    (∀ receiver args, (step call (.special cls receiver key args)).apply h
      = match found? h cls key .onInstance with
        | some e => (runCode call e.code (receiver :: args)).apply h
        | none => (forward call cls receiver key args).apply h) ∧
    (∀ receiver args, (step call (.virtual receiver key args)).apply h
      = match h.classOf receiver with
        | .ok own => (step call (.special own receiver key args)).apply h
        | .error fault => some (.error fault, h)) ∧
    ∀ kind, Crosses h cls key kind ↔
      h.registry.findMethod? cls key kind = none ∧ ∃ e, FirstNative h cls key e ∧ e.kind ≠ kind := by
  exact ⟨fun args => apply_static, fun receiver args => apply_special,
    fun receiver args => apply_virtual, fun kind => crosses_iff⟩

/-- On the host's own library, a call without a receiver runs the length of a string, which is for calls
with one, and a call with a receiver runs the lookup of a class by its name, which is for calls without. -/
theorem dispatch_crosses :
    let setup : Setup :=
      { config := {}, source := some (.staged (.ofList [])), imports := .standard, attached := none,
        outside := .nothing, surroundings := { millis := 0, seed := 0 } }
    ∃ start, setup.build = .ok start ∧
      (∃ e : Import NativeCode, e.kind = .onInstance ∧ ∀ call args,
        (step call (.static CoreClass.string "I$length$$" args)).apply start
          = (runCode call e.code args).apply start) ∧
      ∃ e : Import NativeCode, e.kind = .static ∧ ∀ call receiver args,
        (step call (.special CoreClass.classObject receiver
            "Ljava$lang$Class$$forName$Ljava$lang$String$$Z$Ljava$lang$ClassLoader$" args)).apply start
          = (runCode call e.code (receiver :: args)).apply start := by
  intro setup
  let start : Host :=
    { config := {}, heap := .empty, registry := CoreClass.registry, linkage := .empty,
      files := FileTable.empty.enable, source := .staged (.ofList []), imports := .standard,
      attached := none, surroundings := { millis := 0, seed := 0 } }
  have hlength : (found? start CoreClass.string "I$length$$" .static).map (·.kind)
      = some .onInstance := by
    decide +kernel
  have hforName : (found? start CoreClass.classObject
      "Ljava$lang$Class$$forName$Ljava$lang$String$$Z$Ljava$lang$ClassLoader$" .onInstance).map
        (·.kind) = some .static := by
    decide +kernel
  obtain ⟨length, hlength, hwith⟩ := Option.map_eq_some_iff.1 hlength
  obtain ⟨forName, hforName, hwithout⟩ := Option.map_eq_some_iff.1 hforName
  refine ⟨start, rfl, ⟨length, hwith, fun call args => ?_⟩,
    ⟨forName, hwithout, fun call receiver args => ?_⟩⟩
  · rw [apply_static, hlength]
  · rw [apply_special, hforName]

end Dispatch

end GuestHost
