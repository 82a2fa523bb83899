import GuestHost.Config.Validity
import GuestHost.Files.Outside
import GuestHost.Host.Entry

/-!
# Starting a host

A host is built from a setup. In direct mode its files are enabled at once; in exported mode it needs a
module. A module is started in fixed order: it is loaded, a host in exported mode is built around it,
it is linked, its static initialization runs, and at last its files are enabled.
-/

namespace GuestHost

/-- What a host is built from. -/
structure Setup where
  config : Config
  /-- The source of files, if it is not the one that the configuration names. -/
  source : Option FileSource
  imports : Imports NativeCode
  attached : Option Module
  outside : Outside
  surroundings : Surroundings

/-- The natives that the host provides, as an import table. -/
def Imports.standard : Imports NativeCode := Builtin.standard .builtin

namespace Setup

/-- The setup of a configuration and nothing else. -/
def ofConfig (config : Config) (outside : Outside) (surroundings : Surroundings) : Setup :=
  { config, source := none, imports := .standard, attached := none, outside, surroundings }

/-- The source of files of a setup. -/
def fileSource (s : Setup) : Except Fault FileSource :=
  match s.source with
  | some source => .ok source
  | none =>
    match s.config.files.source s.outside with
    | .ok source => .ok source
    | .error fault => .error (.argument (.setting fault.message))

/-- Builds a host. -/
def build (s : Setup) : Except Fault Host :=
  match s.config.validate with
  | .error flaw => .error (.argument (.setting flaw.message))
  | .ok () =>
    match s.fileSource with
    | .error fault => .error fault
    | .ok source =>
      let files := match s.config.mode with
        | .direct => FileTable.empty.enable
        | .exported => FileTable.empty
      if s.config.mode = .exported ∧ s.attached.isNone then .error (.inModule .required)
      else
        .ok { config := s.config, heap := .empty, registry := CoreClass.registry, linkage := .empty,
              files, source, imports := s.imports, attached := s.attached,
              surroundings := s.surroundings }

end Setup

/-! ## Modules -/

/-- A phase of the start of a module. It may keep a state of its own. -/
abbrev Phase (σ : Type) := σ → Host → Option (Except Fault Unit × σ × Host)

/-- The phase that does nothing. -/
def Phase.skip {σ : Type} : Phase σ := fun s h => some (.ok (), s, h)

/-- A module that is loaded: what is attached to the host, how it is linked, and its static
initialization. -/
structure Guest (σ : Type) where
  attached : Module
  link : Phase σ
  initStatics : Phase σ

/-- A module in memory; its static initialization is the embedder's. -/
def Guest.inMemory {σ : Type} (a : Arena) (init : Phase σ) : Guest σ := ⟨.arena a, .skip, init⟩

/-- A compiled module with its two entry points. -/
structure CompiledModule where
  library : Library
  link : EntryProgram
  bootstrap : EntryProgram

/-- A compiled module as a guest; the state of its phases is the callback's. -/
def CompiledModule.guest (m : CompiledModule) : Guest Callback where
  attached := .library m.library
  link := m.link.enter "bytelink_link"
  initStatics := m.bootstrap.enter "bytelink_bootstrap"

/-- Why a module is not loaded. -/
inductive LoadFault
  | notFound (path : String)
  /-- It lacks an entry point. -/
  | symbolNotFound (symbol path : String)
deriving Repr, DecidableEq

/-- The wording of a load fault. -/
def LoadFault.message : LoadFault → String
  | .notFound path => s!"Library not found: {path}"
  | .symbolNotFound symbol path => s!"Symbol not found: {symbol} in {path}"

/-- Why a module does not start. -/
inductive StartFault
  | load (fault : LoadFault)
  | link (fault : Fault)
  | staticInit (fault : Fault)
deriving Repr, DecidableEq

/-- The wording of a failed start. -/
def StartFault.message : StartFault → String
  | .load fault => "Failed to instantiate module: " ++ fault.message
  | .link fault => "Failed to link module: " ++ fault.message
  | .staticInit fault => "Static initialization failed: " ++ fault.message

namespace Setup

/-- The setup for a module: always exported mode. -/
def around (s : Setup) (m : Module) : Setup :=
  { s with config := { s.config with mode := .exported }, attached := some m }

/-- Starts a module: the host, and the state that the phases of the start leave. -/
def start {σ : Type} (s : Setup) (guest : Except LoadFault (Guest σ)) (state : σ) :
    Option (Except StartFault Host × σ) :=
  match guest with
  | .error fault => some (.error (.load fault), state)
  | .ok g =>
    match (s.around g.attached).build with
    | .error fault => some (.error (.link fault), state)
    | .ok h =>
      match g.link state h with
      | none => none
      | some (.error fault, state, _) => some (.error (.link fault), state)
      | some (.ok (), state, h) =>
        match g.initStatics state h with
        | none => none
        | some (.error fault, state, _) => some (.error (.staticInit fault), state)
        | some (.ok (), state, h) => some (.ok { h with files := h.files.enable }, state)

end Setup

end GuestHost
