import GuestHost.Config
import GuestHost.Url

/-!
# Valid configurations

A server must be given by an address of plain HTTP and a positive patience, and both console targets
must be named. `Config.validate` reports the first flaw, those of the server before those of the
console; `Config.IsValid` says what a configuration without flaw is, and `Config.validate_eq_ok_iff` that
these are accepted and no others.
-/

namespace GuestHost

/-- What is wrong with a configuration. -/
inductive ConfigFlaw
  /-- The address of the server cannot be read. -/
  | address (url : String) (flaw : Url.Flaw)
  | otherScheme (name : String)
  | noPatience
  | emptyTarget
deriving Repr, DecidableEq

/-- The wording of a flaw. -/
def ConfigFlaw.message : ConfigFlaw → String
  | .address url flaw => s!"Invalid config: Invalid base_url {url}: " ++ flaw.message
  | .otherScheme name => s!"Invalid config: Unsupported scheme {name} (use http)"
  | .noPatience => "Invalid config: timeout_ms must be greater than zero"
  | .emptyTarget => "Invalid config: Console targets cannot be empty"

/-- Why a text gives no configuration. -/
inductive ConfigFault
  /-- The text cannot be had. -/
  | unreadable
  /-- The text does not describe a configuration. -/
  | malformed
  | invalid (flaw : ConfigFlaw)
deriving Repr, DecidableEq

/-- The flaw of a source of files, if it has one. -/
def SourceConfig.flaw? : SourceConfig → Option ConfigFlaw
  | .memory => none
  | .directory _ => none
  | .http baseUrl timeout =>
    match Url.parse baseUrl with
    | .error flaw => some (.address baseUrl flaw)
    | .ok url =>
      if url.scheme ≠ "http" then some (.otherScheme url.scheme)
      else if timeout = 0 then some .noPatience
      else none

namespace Config

/-- The first flaw of a configuration, if it has one. -/
def flaw? (c : Config) : Option ConfigFlaw :=
  match c.files.flaw? with
  | some flaw => some flaw
  | none => if c.console.stdout = "" ∨ c.console.stderr = "" then some .emptyTarget else none

/-- Accepts a configuration without flaw. -/
def validate (c : Config) : Except ConfigFlaw Unit :=
  match c.flaw? with
  | some flaw => .error flaw
  | none => .ok ()

/-- A configuration without flaw. -/
structure IsValid (c : Config) : Prop where
  /-- A server has an address of plain HTTP and a positive patience. -/
  source : ∀ baseUrl timeout, c.files = .http baseUrl timeout →
    (∃ url, Url.parse baseUrl = .ok url ∧ url.scheme = "http") ∧ 0 < timeout
  /-- Both console targets are named. -/
  targets : c.console.stdout ≠ "" ∧ c.console.stderr ≠ ""

end Config

/-- A source has no flaw exactly if it is no server, or one with an address of plain HTTP and a positive
patience. -/
theorem SourceConfig.flaw?_eq_none_iff (s : SourceConfig) : s.flaw? = none ↔
    ∀ baseUrl timeout, s = .http baseUrl timeout →
      (∃ url, Url.parse baseUrl = .ok url ∧ url.scheme = "http") ∧ 0 < timeout := by
  cases s with
  | memory | directory => simp [flaw?]
  | http baseUrl timeout =>
    simp only [flaw?]
    cases hparse : Url.parse baseUrl with
    | error flaw => simp [hparse]
    | ok url =>
      by_cases hscheme : url.scheme = "http"
      · by_cases hpatience : timeout = 0 <;> simp [hparse, hscheme, hpatience, Nat.pos_iff_ne_zero]
      · simp [hparse, hscheme]

namespace Config

variable {c : Config}

/-- **The configurations that are accepted are those without flaw.** -/
theorem validate_eq_ok_iff : c.validate = .ok () ↔ c.IsValid := by
  have hvalid : c.IsValid ↔ c.files.flaw? = none ∧ c.console.stdout ≠ "" ∧ c.console.stderr ≠ "" := by
    rw [SourceConfig.flaw?_eq_none_iff]
    exact ⟨fun h => ⟨h.source, h.targets⟩, fun h => ⟨h.1, h.2⟩⟩
  rw [hvalid]
  unfold validate flaw?
  cases c.files.flaw? with
  | some flaw => simp
  | none =>
    by_cases htargets : c.console.stdout = "" ∨ c.console.stderr = ""
    · simp [← not_or, htargets]
    · simp [← not_or, htargets]

example : ({} : Config).validate = .ok () := rfl

end Config

end GuestHost
