import GuestHost.Host.Startup
import GuestHost.Proofs.Dispatch.Kinds
import GuestHost.Proofs.Modes.Natives

/-!
# Calls of natives side by side

A native is called by its owner and its key. In exported mode a native without a receiver is called with
a placeholder in front of its arguments. Natives of the owners that work on texts, characters, numbers,
character sets and file streams do the same in both modes, whatever the placeholder is.

* `Runs` — two processes end with the same, and may create an object on both sides;
* `exists_listing_of_find?` — every native of the host's import table is one that it lists;
* `runs_native` — the call of a native in both modes.
-/

namespace GuestHost

variable {α β γ δ : Type} {links : List Link} {args args' : List Value} {owner key : String}

/-! ## Processes -/

/-- Two processes end, on two hosts, with related values or faults of the same kind, and leave the hosts
alike; an object that they create is linked. -/
def EndAlike (links : List Link) (R : List Link → α → β → Prop) (p : Process α) (q : Process β)
    (hd he : Host) : Prop :=
  ∃ links' x hd' y he', p.apply hd = some (x, hd') ∧ q.apply he = some (y, he') ∧
    links ⊆ links' ∧ ResultMatch (R links') x y ∧ Agree links' hd' he' ∧ Grows 1 hd he hd' he'

/-- Two processes end alike on all hosts that are alike and have room for an object. -/
def Runs (links : List Link) (R : List Link → α → β → Prop) (p : Process α) (q : Process β) : Prop :=
  ∀ hd he, Agree links hd he → Room 1 hd he → EndAlike links R p q hd he

theorem Creates.runs {R : List Link → α → β → Prop} {a : Action α} {b : Action β}
    (h : Creates links R a b) : Runs links R a.toProcess b.toProcess := by
  intro hd he hagree hroom
  obtain ⟨links', hsub, hresult, hagree', hgrows⟩ := h hd he hagree hroom
  exact ⟨links', _, _, _, _, rfl, rfl, hsub, hresult, hagree', hgrows⟩

theorem Runs.map {R : List Link → α → β → Prop} {S : List Link → γ → δ → Prop} {p : Process α}
    {q : Process β} {f : α → γ} {g : β → δ} (h : Runs links R p q)
    (hfg : ∀ links' x y, R links' x y → S links' (f x) (g y)) :
    Runs links S (p >>= fun x => pure (f x)) (q >>= fun y => pure (g y)) := by
  intro hd he hagree hroom
  obtain ⟨links', x, hd', y, he', hp, hq, hsub, hresult, hrest⟩ := h hd he hagree hroom
  unfold EndAlike
  rw [Process.apply_bind, Process.apply_bind, hp, hq]
  cases hresult with
  | ok hxy => exact ⟨links', _, _, _, _, rfl, rfl, hsub, .ok (hfg links' _ _ hxy), hrest⟩
  | error hfault => exact ⟨links', _, _, _, _, rfl, rfl, hsub, .error hfault, hrest⟩

/-! ## The import table -/

/-- A native that is found after several were added is one of them, or was there before. -/
theorem find?_foldl_add {ν : Type} {code : Builtin → ν} {e : Import ν}
    (listings : List Builtin.Listing) (t : Imports ν)
    (h : (listings.foldl (fun t l => t.add l.1 l.2.1 l.2.2.1 (code l.2.2.2)) t).find? owner key
      = some e) :
    (∃ l ∈ listings, l.1 = owner ∧ l.2.1 = key ∧ e = ⟨l.2.2.1, code l.2.2.2⟩) ∨
      t.find? owner key = some e := by
  induction listings generalizing t with
  | nil => exact .inr h
  | cons l rest ih =>
    rcases ih _ h with ⟨l', hl', hrest⟩ | hfound
    · exact .inl ⟨l', List.mem_cons_of_mem _ hl', hrest⟩
    · simp only [Imports.find?, Imports.add, Dict.get?_set] at hfound
      by_cases heq : (l.1, l.2.1) = (owner, key)
      · rw [if_pos heq] at hfound
        obtain ⟨howner, hkey⟩ := Prod.mk.inj heq
        exact .inl ⟨l, List.mem_cons_self, howner, hkey, (Option.some.inj hfound).symm⟩
      · rw [if_neg heq] at hfound
        exact .inr hfound

/-- **Every native of the host's import table** is one that it lists. -/
theorem exists_listing_of_find? {e : Import NativeCode}
    (h : Imports.standard.find? owner key = some e) :
    ∃ l ∈ Builtin.listings, l.1 = owner ∧ l.2.1 = key ∧ e = ⟨l.2.2.1, .builtin l.2.2.2⟩ := by
  rcases find?_foldl_add _ _ h with hlisted | hnone
  · exact hlisted
  · cases hnone

/-! ## Natives that work on guest objects and primitives only -/

namespace Builtin

/-- The owners of natives that work on texts, characters, numbers, character sets and file streams. -/
def commonOwners : List String :=
  ["java.lang.String", "java.lang.StringBuilder", "java.lang.StringBuffer", "java.lang.Character",
    "java.lang.Float", "java.lang.Double", "java.lang.Byte", "java.lang.Short", "java.lang.Integer",
    "java.lang.Long", "bytelink.classlib.CharsetDecoder", "bytelink.classlib.CharsetEncoder",
    "java.io.FileInputStream", "java.io.FileOutputStream", "java.io.UnixFileSystem"]

/-- The kinds of objects that a native expects at each place; none if the native is not one of those that
do the same in both modes. -/
def kindAt? : Builtin → Option (Nat → Option ObjectKind)
  | .text n => some n.kindAt
  | .character _ => some fun _ => none
  | .number n => some n.kindAt
  | .charset _ => some CharsetNative.kindAt
  | .stream n => some n.kindAt
  | _ => none

theorem exists_kindAt_of_mem :
    ∀ l ∈ listings, l.1 ∈ commonOwners → l.2.2.2.kindAt?.isSome = true := by
  decide +kernel

/-- **A native that the host provides** does the same in both modes, if it is one of those. -/
theorem runs_runBuiltin {native : Builtin} {expected : Nat → Option ObjectKind}
    (hnative : native.kindAt? = some expected) (h : ArgsRelate links expected args args')
    (call call' : Caller) :
    Runs links (fun links' => Relates links' none) (Dispatch.runBuiltin call native args)
      (Dispatch.runBuiltin call' native args') := by
  cases native with
  | text n =>
    obtain rfl : n.kindAt = expected := Option.some.inj hnative
    exact (n.creates_run h).runs
  | character n => exact (n.creates_run h).runs
  | number n =>
    obtain rfl : n.kindAt = expected := Option.some.inj hnative
    exact (n.creates_run h).runs
  | charset n =>
    obtain rfl : CharsetNative.kindAt = expected := Option.some.inj hnative
    exact (n.creates_run h).runs
  | stream n =>
    obtain rfl : n.kindAt = expected := Option.some.inj hnative
    exact (n.creates_run h).runs
  | constant | clock | math | reflection | linkage | wrapper | newInstance | invokeHandle =>
    cases hnative

end Builtin

/-- The kinds of objects that the native with an owner and a key expects at each place. -/
def nativeKindAt (owner key : String) : Nat → Option ObjectKind :=
  match Imports.standard.find? owner key with
  | some ⟨_, .builtin native⟩ => native.kindAt?.getD fun _ => none
  | _ => fun _ => none

/-! ## Calls -/

namespace Host

/-- The arguments that a native is called with: in exported mode a placeholder stands in front of those
of a native without a receiver. -/
def passed (h : Host) (owner key : String) (placeholder : Value) (args : List Value) : List Value :=
  match h.mode, h.imports.find? owner key with
  | .exported, some ⟨.static, _⟩ => placeholder :: args
  | _, _ => args

variable {h : Host} {e : Import NativeCode}

/-- A native runs with its arguments, in either mode. -/
theorem nativeArguments_passed (he : h.imports.find? owner key = some e) (placeholder : Value)
    (args : List Value) :
    Dispatch.nativeArguments h.mode e.kind (h.passed owner key placeholder args) = args := by
  unfold passed Dispatch.nativeArguments
  rw [he]
  obtain ⟨kind, code⟩ := e
  cases h.mode <;> cases kind <;> rfl

/-- The call of a native that the table has. -/
theorem apply_call_native (he : h.imports.find? owner key = some e) (args : List Value) :
    (Host.call (.native owner key args)).apply h
      = (Dispatch.runCode (Dispatch.enter 9999) e.code
          (Dispatch.nativeArguments h.mode e.kind args)).apply h := by
  show (Dispatch.step (Dispatch.enter 9999) (.native owner key args)).apply h = _
  exact Dispatch.apply_native he

/-- The call of a native that the table lacks. -/
theorem apply_call_unresolved (he : h.imports.find? owner key = none) (args : List Value) :
    (Host.call (.native owner key args)).apply h = some (.error (.unresolved owner key), h) := by
  have hresolve : (Action.view fun h => h.imports.resolve owner key).toProcess.apply h
      = some (.error (.unresolved owner key), h) := by
    rw [Process.apply_toProcess, Action.apply_view, Imports.resolve, he]
  show (Dispatch.callNative (Dispatch.enter 9999) owner key args).apply h = _
  unfold Dispatch.callNative
  rw [Process.apply_bind_of_error hresolve]

/-- Calls a native with a placeholder where the mode wants one. -/
def callPassing (owner key : String) (placeholder : Value) (args : List Value) : Process Value := do
  let h ← get
  Host.call (.native owner key (h.passed owner key placeholder args))

theorem apply_callPassing (placeholder : Value) (args : List Value) :
    (callPassing owner key placeholder args).apply h
      = (Host.call (.native owner key (h.passed owner key placeholder args))).apply h := by
  unfold callPassing
  rw [Process.apply_bind, Process.apply_get]

end Host

/-- **The call of a native** does the same in both modes, whatever the placeholder. -/
theorem runs_native (howner : owner ∈ Builtin.commonOwners)
    (h : ArgsRelate links (nativeKindAt owner key) args args') (p p' : Value) :
    Runs links (fun links' => Relates links' none) (Host.callPassing owner key p args)
      (Host.callPassing owner key p' args') := by
  intro hd he hagree hroom
  unfold EndAlike
  rw [Host.apply_callPassing, Host.apply_callPassing]
  rcases hfind : Imports.standard.find? owner key with _ | e
  · have hd? : hd.imports.find? owner key = none := by rw [hagree.importsDirect, hfind]
    have he? : he.imports.find? owner key = none := by rw [hagree.importsExported, hfind]
    rw [Host.apply_call_unresolved hd?, Host.apply_call_unresolved he?]
    exact ⟨links, _, _, _, _, rfl, rfl, List.Subset.refl links, .error (.same _), hagree, grows_refl⟩
  · have hd? : hd.imports.find? owner key = some e := by rw [hagree.importsDirect, hfind]
    have he? : he.imports.find? owner key = some e := by rw [hagree.importsExported, hfind]
    obtain ⟨l, hl, rfl, rfl, rfl⟩ := exists_listing_of_find? hfind
    obtain ⟨expected, hexpected⟩ :=
      Option.isSome_iff_exists.1 (Builtin.exists_kindAt_of_mem l hl howner)
    have hkinds : nativeKindAt l.1 l.2.1 = expected := by
      unfold nativeKindAt
      rw [hfind]
      simp only [hexpected, Option.getD_some]
    rw [Host.apply_call_native hd?, Host.apply_call_native he?, Host.nativeArguments_passed hd?,
      Host.nativeArguments_passed he?]
    exact Builtin.runs_runBuiltin hexpected (hkinds ▸ h) _ _ hd he hagree hroom

end GuestHost
