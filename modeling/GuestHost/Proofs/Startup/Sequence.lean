import GuestHost.Proofs.Effects.Allocation
import GuestHost.Proofs.Effects.Moments
import GuestHost.Proofs.Files.Closed

/-!
# The start of a module

Files are enabled last, after a module is loaded, linked and initialized. Whatever the two phases do on
the way, in methods that they call and natives that they ask for, nothing is opened and no path exists,
as long as none of it enables files.

* `Host.OpensNothing` — what a host answers whose files are closed;
* `Phase.Does`, `Guest.Script` — phases that do programs; `CompiledModule.script` — so do the entry
  points of a compiled module;
* `Setup.Passes`, `Setup.Ends` — the moments that a start passes, and how it ends;
* `files_enabled_last` — files are closed at all of these moments, and enabled in the end.
-/

namespace GuestHost

/-! ## Closed files -/

namespace Host

variable {h h' : Host} {args : List Value}

/-- The second of some arguments is a text. -/
def HasPath (h : Host) (args : List Value) : Prop :=
  ∃ receiver p rest path, args = receiver :: p :: rest ∧ h.text p = .ok path

/-- Nothing is opened, whether by an operation or by a native, no path exists, and no file is open. A
native that lacks a path meets a fault. -/
structure OpensNothing (h : Host) : Prop where
  openFile : ∀ path, (Op.openFile path).apply.apply h = (.ok (.number (-1)), h)
  fileExists : ∀ path, (Op.fileExists path).apply.apply h = (.ok (.truth false), h)
  openStream : ∀ args, h.HasPath args →
    (StreamNative.openFile.run args).apply h = (.ok (.int (-1)), h)
  attributes : ∀ args, h.HasPath args →
    (StreamNative.attributes.run args).apply h = (.ok (.int 0), h)
  pathless : ∀ args, ¬ h.HasPath args →
    Action.Refuses (StreamNative.openFile.run args) h ∧
      Action.Refuses (StreamNative.attributes.run args) h
  none_open : h.files.openCount = 0

theorem files_of_bootstraps {site : SiteId} {f : Factory} (hf : Action.Bootstraps h site f h') :
    h'.files = h.files := by
  cases hf with
  | before | made => rfl

/-- **One effect** leaves closed files closed, unless it enables them. -/
theorem closed_of_effect (hfiles : h.files.Closed) (heffect : Effect (· ≠ .enableFiles) h h') :
    h'.files.Closed := by
  cases heffect with
  | files op hop => exact hfiles.apply fun heq => hop heq rfl
  | bootstrap hf =>
    rw [files_of_bootstraps (Action.bootstraps_of_ok hf)]
    exact hfiles
  | link hs =>
    cases Action.links_of_ok hs with
    | before => exact hfiles
    | made hnew hf hmade =>
      show FileTable.Closed _
      rw [files_of_bootstraps hf]
      exact hfiles
  | array | object | mirror | write | replace | registry | number | module | surroundings =>
    exact hfiles

/-- **A run of effects** does so too. -/
theorem closed_of_effects (hfiles : h.files.Closed) (heffects : h.Effects (· ≠ .enableFiles) h') :
    h'.files.Closed := by
  induction heffects with
  | refl => exact hfiles
  | tail _ heffect ih => exact closed_of_effect ih heffect

/-- An opening that does not open changes nothing. -/
theorem apply_openFile_of_closed (hfiles : h.files.Closed) (path : String) :
    (Action.openFile path).apply h = (.ok (-1), h) := by
  rw [Action.apply_openFile, hfiles.openForRead]

theorem apply_fileExists_of_closed (hfiles : h.files.Closed) (path : String) :
    (Action.fileExists path).apply h = (.ok false, h) := by
  show (Except.ok (h.files.holds h.source path), h) = _
  rw [hfiles.holds]

theorem hasPath_of_get {p : Value} {path : String} (hp : Args.get args 1 = .ok p)
    (htext : h.text p = .ok path) : h.HasPath args := by
  match args with
  | [] | [_] => cases hp
  | receiver :: p' :: rest =>
    cases hp
    exact ⟨receiver, p, rest, path, rfl, htext⟩

theorem openStream_of_closed (hfiles : h.files.Closed) (hpath : h.HasPath args) :
    (StreamNative.openFile.run args).apply h = (.ok (.int (-1)), h) := by
  obtain ⟨stream, p, rest, path, rfl, htext⟩ := hpath
  show (StreamNative.runOpen (stream :: p :: rest)).apply h = _
  rw [StreamNative.runOpen_eq rfl rfl htext]
  unfold StreamNative.openAt
  rw [Action.apply_bind_of_ok (apply_openFile_of_closed hfiles path)]
  rfl

theorem attributes_of_closed (hfiles : h.files.Closed) (hpath : h.HasPath args) :
    (StreamNative.attributes.run args).apply h = (.ok (.int 0), h) := by
  obtain ⟨receiver, p, rest, path, rfl, htext⟩ := hpath
  have hread : (Action.text p).apply h = (.ok path, h) := Action.apply_view_of_ok htext
  show (Action.text p >>= _).apply h = _
  rw [Action.apply_bind_of_ok hread, Action.apply_bind_of_ok (apply_fileExists_of_closed hfiles path)]
  rfl

/-- A native that lacks a path meets a fault before it opens anything. -/
theorem refuses_openStream (hpath : ¬ h.HasPath args) :
    Action.Refuses (StreamNative.openFile.run args) h := by
  rcases StreamNative.runOpen_cases args h with
    ⟨fault, hrun, -⟩ | ⟨stream, p, path, -, hp, htext, -⟩
  · exact ⟨fault, hrun⟩
  · exact absurd (hasPath_of_get hp htext) hpath

theorem refuses_attributes (hpath : ¬ h.HasPath args) :
    Action.Refuses (StreamNative.attributes.run args) h := by
  refine (Action.readsOnly_ofResult (Args.get args 1)).bind_refuses fun p hp => ?_
  refine (Action.readsOnly_view fun h => h.text p).bind_refuses fun path htext => ?_
  rw [Action.apply_ofResult_eq_ok] at hp
  rw [Action.apply_view_eq_ok] at htext
  exact absurd (hasPath_of_get hp.1 htext.1) hpath

/-- **A host whose files are closed** opens nothing. -/
theorem opensNothing_of_closed (hfiles : h.files.Closed) : h.OpensNothing where
  openFile path := by
    show (Action.openFile path >>= _).apply h = _
    rw [Action.apply_bind_of_ok (apply_openFile_of_closed hfiles path)]
    rfl
  fileExists path := by
    show (Action.fileExists path >>= _).apply h = _
    rw [Action.apply_bind_of_ok (apply_fileExists_of_closed hfiles path)]
    rfl
  openStream args hpath := openStream_of_closed hfiles hpath
  attributes args hpath := attributes_of_closed hfiles hpath
  pathless args hpath := ⟨refuses_openStream hpath, refuses_attributes hpath⟩
  none_open := hfiles.none_open

end Host

/-! ## Phases that do programs -/

/-- A phase does a program, chosen by the state that it keeps: it ends as a run of the program does, and
leaves the host that the run leaves. -/
def Phase.Does {σ : Type} (p : Phase σ) (code : σ → Program) : Prop :=
  ∀ state h, (p state h).map (fun (result, _, h') => (result, h'))
    = ((Host.runProgram (code state)).apply h).map fun (result, h') => (result.map fun _ => (), h')

/-- The phase that does a program and keeps its state. -/
def Phase.doing {σ : Type} (p : Program) : Phase σ := fun state h =>
  ((Host.runProgram p).apply h).map fun (result, h') => (result.map fun _ => (), state, h')

theorem Phase.does_doing {σ : Type} (p : Program) : (Phase.doing p : Phase σ).Does fun _ => p := by
  intro state h
  unfold Phase.doing
  rw [Option.map_map]
  rfl

theorem Phase.does_skip {σ : Type} : (Phase.skip : Phase σ).Does fun _ => .done (.ok .null) :=
  fun _ _ => rfl

/-- What the phases of a guest do. -/
structure Guest.Script {σ : Type} (g : Guest σ) where
  link : σ → Program
  initStatics : σ → Program
  does_link : g.link.Does link
  does_initStatics : g.initStatics.Does initStatics

/-! ## Compiled modules -/

namespace EntryProgram

/-- What a module does after it is entered, as a program: it makes the calls that its requests ask for,
and ends with success or with the last fault that a request met. -/
def code (name : String) (last : Option Fault) : EntryProgram → Program
  | .exit code =>
    .done (if code = 0 then .ok .null else .error (last.getD (.inModule (.entry name code))))
  | .request r next =>
    match r.call with
    | .error fault => (next none).code name (some fault)
    | .ok c => .call c fun
      | .ok v => (next (some (Word.ofValue v))).code name last
      | .error fault => (next none).code name (some fault)

/-- How an entry point ends that leaves a code and a callback. -/
def outcome (name : String) (code : Int32) (c : Callback) : Except Fault Unit :=
  if code = 0 then .ok () else .error (c.lastFault.getD (.inModule (.entry name code)))

/-- While an entry point runs, its callback makes the calls that the program makes. -/
theorem run_eq_code (name : String) (p : EntryProgram) (c : Callback) (h : Host)
    (hactive : c.active = true) :
    (p.run c h).map (fun (code, c', h') => (outcome name code c', h'))
      = ((Host.runProgram (p.code name c.lastFault)).apply h).map
          fun (result, h') => (result.map fun _ => (), h') := by
  induction p generalizing c h with
  | exit code =>
    show some (outcome name code c, h) = some ((if code = 0 then Except.ok Value.null
      else .error (c.lastFault.getD (.inModule (.entry name code)))).map fun _ => (), h)
    unfold outcome
    split <;> rfl
  | request r next ih =>
    unfold run EntryProgram.code NativeRequest.make
    simp only [hactive, if_true]
    cases hcall : r.call with
    | error fault => exact ih none (c.refuse fault) h hactive
    | ok call =>
      show _ = ((Dispatch.runProgram Host.call (.call call _)).apply h).map _
      rw [Dispatch.apply_runProgram_call]
      simp only
      rcases (Host.call call).apply h with _ | ⟨fault | v, h'⟩
      · rfl
      · exact ih none (c.refuse fault) h' hactive
      · exact ih (some (Word.ofValue v)) (c.answer (Word.ofValue v)) h' hactive

/-- **The entry point of a compiled module** does a program. -/
theorem does_enter (p : EntryProgram) (name : String) :
    Phase.Does (p.enter name) fun _ => p.code name none := by
  intro c h
  rw [← run_eq_code name p { c with active := true, lastFault := none } h rfl]
  unfold enter
  rcases p.run { c with active := true, lastFault := none } h with _ | ⟨code, c', h'⟩
  · rfl
  · show Option.map _ (if code = 0 then _ else _) = some (outcome name code c', h')
    unfold outcome
    split <;> rfl

end EntryProgram

/-- What the phases of a compiled module do. -/
def CompiledModule.script (m : CompiledModule) : m.guest.Script where
  link _ := m.link.code "bytelink_link" none
  initStatics _ := m.bootstrap.code "bytelink_bootstrap" none
  does_link := m.link.does_enter "bytelink_link"
  does_initStatics := m.bootstrap.does_enter "bytelink_bootstrap"

/-! ## The start -/

namespace Setup

variable {σ : Type} {s : Setup} {g : Guest σ} {script : g.Script} {state : σ}

/-- The moments that the start of a guest passes: those of its link, and if that succeeds, those of its
static initialization. -/
inductive Passes (s : Setup) {g : Guest σ} (script : g.Script) (state : σ) : Moment → Prop
  | linking {h : Host} {m : Moment} (hbuild : (s.around g.attached).build = .ok h)
    (hpasses : Moment.Passes ⟨Host.depth, .program (script.link state), h⟩ m) :
    Passes s script state m
  | initializing {h h' : Host} {state' : σ} {m : Moment}
    (hbuild : (s.around g.attached).build = .ok h)
    (hlink : g.link state h = some (.ok (), state', h'))
    (hpasses : Moment.Passes ⟨Host.depth, .program (script.initStatics state'), h'⟩ m) :
    Passes s script state m

/-- How a start ends: with the fault of the first phase that fails and the state that it leaves, whatever
the phases after it are, or with a host if none does. -/
inductive Ends (s : Setup) (state : σ) :
    Except LoadFault (Guest σ) → Except StartFault Host → σ → Prop
  | notLoaded (fault : LoadFault) : Ends s state (.error fault) (.error (.load fault)) state
  | notBuilt {m : Module} (link initStatics : Phase σ) {fault : Fault}
    (hbuild : (s.around m).build = .error fault) :
    Ends s state (.ok ⟨m, link, initStatics⟩) (.error (.link fault)) state
  | notLinked {m : Module} {link : Phase σ} (initStatics : Phase σ) {h h' : Host} {fault : Fault}
    {state' : σ} (hbuild : (s.around m).build = .ok h)
    (hlink : link state h = some (.error fault, state', h')) :
    Ends s state (.ok ⟨m, link, initStatics⟩) (.error (.link fault)) state'
  | notInitialized {m : Module} {link initStatics : Phase σ} {h h₁ h₂ : Host} {fault : Fault}
    {state₁ state₂ : σ} (hbuild : (s.around m).build = .ok h)
    (hlink : link state h = some (.ok (), state₁, h₁))
    (hinit : initStatics state₁ h₁ = some (.error fault, state₂, h₂)) :
    Ends s state (.ok ⟨m, link, initStatics⟩) (.error (.staticInit fault)) state₂
  | started {m : Module} {link initStatics : Phase σ} {h h₁ h₂ : Host} {state₁ state₂ : σ}
    (hbuild : (s.around m).build = .ok h)
    (hlink : link state h = some (.ok (), state₁, h₁))
    (hinit : initStatics state₁ h₁ = some (.ok (), state₂, h₂)) :
    Ends s state (.ok ⟨m, link, initStatics⟩) (.ok { h₂ with files := h₂.files.enable }) state₂

/-- **How a start ends.** -/
theorem start_eq_some_iff {guest : Except LoadFault (Guest σ)} {result : Except StartFault Host}
    {state' : σ} :
    s.start guest state = some (result, state') ↔ s.Ends state guest result state' := by
  constructor
  · intro hstart
    unfold start at hstart
    cases guest with
    | error fault =>
      cases hstart
      exact .notLoaded fault
    | ok g =>
      obtain ⟨m, link, initStatics⟩ := g
      simp only at hstart
      cases hbuild : (s.around m).build with
      | error fault =>
        rw [hbuild] at hstart
        cases hstart
        exact .notBuilt link initStatics hbuild
      | ok h =>
        rw [hbuild] at hstart
        rcases hlink : link state h with _ | ⟨fault | _, state₁, h₁⟩
        · simp [hlink] at hstart
        · simp only [hlink] at hstart
          cases hstart
          exact .notLinked initStatics hbuild hlink
        · simp only [hlink] at hstart
          rcases hinit : initStatics state₁ h₁ with _ | ⟨fault | _, state₂, h₂⟩
          · simp [hinit] at hstart
          · simp only [hinit] at hstart
            cases hstart
            exact .notInitialized hbuild hlink hinit
          · simp only [hinit] at hstart
            cases hstart
            exact .started hbuild hlink hinit
  · intro hends
    unfold start
    cases hends with
    | notLoaded fault => rfl
    | notBuilt link initStatics hbuild => simp only [hbuild]
    | notLinked initStatics hbuild hlink => simp only [hbuild, hlink]
    | notInitialized hbuild hlink hinit => simp only [hbuild, hlink, hinit]
    | started hbuild hlink hinit => simp only [hbuild, hlink, hinit]

/-! ## What is done on the way -/

/-- The host that is built around a module is in exported mode, and its files are closed. -/
theorem closed_of_build_around {m : Module} {h : Host} (hbuild : (s.around m).build = .ok h) :
    h.mode = .exported ∧ h.files.Closed := by
  obtain ⟨source, -, rfl⟩ := exists_of_build hbuild
  exact ⟨rfl, FileTable.closed_empty⟩

/-- A phase that does a program changes the host as the moments that it passes do. -/
theorem effects_of_phase {p : Phase σ} {code : σ → Program} (hdoes : p.Does code)
    {may : Deed → Prop} {h h' : Host} {result : Except Fault Unit} {state' : σ}
    (hasks : ∀ m, Moment.Passes ⟨Host.depth, .program (code state), h⟩ m → m.Asks may)
    (hrun : p state h = some (result, state', h')) : h.Effects may h' := by
  have hprogram := hdoes state h
  rw [hrun] at hprogram
  obtain ⟨⟨r, _⟩, houtcome, hpair⟩ := Option.map_eq_some_iff.1 hprogram.symm
  cases hpair
  exact Moment.effects_of_run ⟨Host.depth, .program (code state), h⟩ hasks r _ houtcome

/-- No operation that a start asks for enables files. -/
def NeverEnables (s : Setup) (script : g.Script) (state : σ) : Prop :=
  ∀ m op next, s.Passes script state m → m.task = .program (.perform op next) → op ≠ .enableFiles

theorem asks_of_never {m : Moment}
    (hnever : ∀ op next, m.task = .program (.perform op next) → op ≠ .enableFiles) :
    m.Asks (· ≠ .enableFiles) := by
  rintro op next htask d hd rfl
  apply hnever op next htask
  cases op with
  | enableFiles => rfl
  | setHostData v data => cases v <;> cases hd
  | _ => cases hd

/-- **After the link**, files are closed, and so is the host in exported mode. -/
theorem closed_of_link (hnever : s.NeverEnables script state) {h h' : Host} {state' : σ}
    (hbuild : (s.around g.attached).build = .ok h)
    (hlink : g.link state h = some (.ok (), state', h')) : h'.mode = .exported ∧ h'.files.Closed := by
  obtain ⟨hmode, hclosed⟩ := closed_of_build_around hbuild
  have heffects : h.Effects (· ≠ .enableFiles) h' := by
    apply effects_of_phase script.does_link _ hlink
    intro m hpasses
    exact asks_of_never fun op next => hnever m op next (.linking hbuild hpasses)
  exact ⟨(Host.Effects.mode heffects).trans hmode,
    Host.closed_of_effects hclosed heffects⟩

/-- **After the static initialization**, likewise. -/
theorem closed_of_initStatics (hnever : s.NeverEnables script state) {h h₁ h₂ : Host}
    {state₁ state₂ : σ}
    (hbuild : (s.around g.attached).build = .ok h)
    (hlink : g.link state h = some (.ok (), state₁, h₁))
    (hinit : g.initStatics state₁ h₁ = some (.ok (), state₂, h₂)) :
    h₂.mode = .exported ∧ h₂.files.Closed := by
  obtain ⟨hmode, hclosed⟩ := closed_of_link hnever hbuild hlink
  have heffects : h₁.Effects (· ≠ .enableFiles) h₂ := by
    apply effects_of_phase script.does_initStatics _ hinit
    intro m hpasses
    exact asks_of_never fun op next => hnever m op next (.initializing hbuild hlink hpasses)
  exact ⟨(Host.Effects.mode heffects).trans hmode,
    Host.closed_of_effects hclosed heffects⟩

/-- **At every moment that a start passes**, files are closed. -/
theorem closed_of_passes (hnever : s.NeverEnables script state) {m : Moment}
    (hpasses : s.Passes script state m) : m.host.files.Closed := by
  cases hpasses with
  | linking hbuild hpasses =>
    refine Host.closed_of_effects (closed_of_build_around hbuild).2
      (Moment.effects_of_passes (fun m' hpasses' => ?_) hpasses)
    exact asks_of_never fun op next => hnever m' op next (.linking hbuild hpasses')
  | initializing hbuild hlink hpasses =>
    refine Host.closed_of_effects (closed_of_link hnever hbuild hlink).2
      (Moment.effects_of_passes (fun m' hpasses' => ?_) hpasses)
    exact asks_of_never fun op next => hnever m' op next (.initializing hbuild hlink hpasses')

/-- **Files are enabled last.** Take a guest whose phases do programs, and suppose that its start never
asks for files to be enabled, neither in these programs nor in the methods and natives that they enter.

At every moment that the start passes, nothing is opened, no path exists, and no file is open.

A start ends with the fault of the first phase that fails, whatever the phases after it are; it ends with
a host exactly if no phase fails. That host is in exported mode, its files are enabled, and none is
open. -/
theorem files_enabled_last (s : Setup) (script : g.Script) (state : σ)
    (hnever : s.NeverEnables script state) :
    (∀ m, s.Passes script state m → m.host.OpensNothing) ∧
    (∀ guest result state', s.start guest state = some (result, state') ↔
      s.Ends state guest result state') ∧
    ∀ h state', s.start (.ok g) state = some (.ok h, state') →
      h.mode = .exported ∧ h.files.enabled = true ∧ h.files.openCount = 0 := by
  refine ⟨fun m hpasses => ?_, fun guest result state' => start_eq_some_iff, ?_⟩
  · exact Host.opensNothing_of_closed (closed_of_passes hnever hpasses)
  · intro h state' hstart
    cases start_eq_some_iff.1 hstart with
    | started hbuild hlink hinit =>
      obtain ⟨hmode, hclosed⟩ := closed_of_initStatics hnever hbuild hlink hinit
      exact ⟨hmode, rfl, hclosed.none_open⟩

/-- A guest in memory that opens a staged file while it is initialized, in vain; the host that it leaves
opens the file. -/
theorem files_enabled_last_for_reader :
    let s : Setup :=
      { config := {}, source := some (.staged (.ofList [("boot.txt", [111, 107])])),
        imports := .standard, attached := none, outside := .nothing,
        surroundings := { millis := 0, seed := 0 } }
    let p : Program := .perform (.openFile "boot.txt") fun _ => .done (.ok .null)
    let g : Guest Unit := .inMemory (.empty "guest") (.doing p)
    ∃ (script : g.Script) (built started : Host),
      s.Passes script () ⟨Host.depth, .program p, built⟩ ∧
      (Op.openFile "boot.txt").apply.apply built = (.ok (.number (-1)), built) ∧
      s.start (.ok g) () = some (.ok started, ()) ∧ started.mode = .exported ∧
      started.files.enabled = true ∧ started.files.openCount = 0 ∧
      ((Op.openFile "boot.txt").apply.apply started).1 = .ok (.number 3) := by
  intro s p g
  let script : g.Script :=
    ⟨fun _ => .done (.ok .null), fun _ => p, Phase.does_skip, Phase.does_doing p⟩
  let built : Host :=
    { config := { mode := .exported }, heap := .empty, registry := CoreClass.registry,
      linkage := .empty, files := .empty, source := .staged (.ofList [("boot.txt", [111, 107])]),
      imports := .standard, attached := some (.arena (.empty "guest")),
      surroundings := { millis := 0, seed := 0 } }
  have hbuild : (s.around g.attached).build = .ok built := rfl
  have hpasses : s.Passes script () ⟨Host.depth, .program p, built⟩ :=
    .initializing hbuild rfl .refl
  have hnever : s.NeverEnables script () := by
    intro m op next hpasses htask
    cases hpasses with
    | linking hbuild hpasses =>
      rw [Moment.passes_done_iff] at hpasses
      subst hpasses
      cases htask
    | initializing hbuild hlink hpasses =>
      rw [Moment.passes_perform_iff, Moment.passes_done_iff] at hpasses
      rcases hpasses with rfl | rfl
      · cases htask
        nofun
      · cases htask
  obtain ⟨hopens, -, hstarted⟩ := files_enabled_last s script () hnever
  have hstart : s.start (.ok g) () = some (.ok { built with files := FileTable.empty.enable }, ()) := rfl
  obtain ⟨hmode, henabled, hnone⟩ := hstarted _ _ hstart
  exact ⟨script, built, _, hpasses, (hopens _ hpasses).openFile "boot.txt", hstart, hmode, henabled,
    hnone, by decide +kernel⟩

end Setup

end GuestHost
