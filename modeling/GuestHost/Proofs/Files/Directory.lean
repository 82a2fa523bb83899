import Mathlib.Data.List.Infix
import GuestHost.Files.Directory

/-!
# Paths below a directory

A path is made relative, taken apart into steps, looked at step by step and followed from the root. What
comes of it can be said by the components of the path as it was given: one double dot among them, and
the path is refused; otherwise the names among them are the way, and the way goes on from the root. So
what lies anywhere else makes no difference.

* `components_relative`, `mem_steps_up`, `mem_steps_start` — what components and steps say of a path;
* `foldl_follow` — where steps lead that go from name to name;
* `resolve_eq_error_iff`, `resolve_eq_ok_iff` — when a path is refused, and where it leads otherwise;
* `paths_stay_below_root` — paths, files and what is below the root.
-/

namespace GuestHost

namespace Location

/-! ## Components and steps -/

/-- The name that a step goes to. -/
def Step.name? : Step → Option String
  | .into name => some name
  | .start | .stay | .up => none

theorem split_slash (s : List Char) :
    Text.split (· == '/') ('/' :: s) = [] :: Text.split (· == '/') s := by
  have h : Text.split (· == '/') ('/' :: s)
      = Text.consPiece (· == '/') '/' (Text.split (· == '/') s) := rfl
  rw [h]
  cases hs : Text.split (· == '/') s with
  | nil => exact absurd hs (Text.split_ne_nil _ s)
  | cons piece rest => simp [Text.consPiece]

/-- The slashes in front of a path make empty components. -/
theorem components_relative (path : String) :
    ∃ n, components path = List.replicate n "" ++ components (Directory.relative path) := by
  unfold components Directory.relative
  rw [String.toList_ofList]
  induction path.toList with
  | nil => exact ⟨0, rfl⟩
  | cons c s ih =>
    by_cases hc : c = '/'
    · subst hc
      obtain ⟨n, hn⟩ := ih
      refine ⟨n + 1, ?_⟩
      rw [split_slash, List.map_cons, hn]
      simp [List.replicate_succ]
    · exact ⟨0, by simp [hc]⟩

theorem mem_components_relative {c : String} (hc : c ≠ "") {path : String} :
    c ∈ components (Directory.relative path) ↔ c ∈ components path := by
  obtain ⟨n, hn⟩ := components_relative path
  simp [hn, hc]

theorem names_relative (path : String) :
    (components (Directory.relative path)).filter isName = (components path).filter isName := by
  obtain ⟨n, hn⟩ := components_relative path
  have hempty : (List.replicate n "").filter isName = [] := by simp [isName]
  rw [hn, List.filter_append, hempty, List.nil_append]

/-- A path without the slashes in front of it starts with none. -/
theorem head?_relative (path : String) :
    (Directory.relative path).toList.head? ≠ some '/' := by
  unfold Directory.relative
  rw [String.toList_ofList]
  intro h
  have hslash := List.head?_dropWhile_not (· == '/') path.toList
  rw [h] at hslash
  simp at hslash

theorem ofComponent?_eq_up {c : String} : Step.ofComponent? c = some .up ↔ c = ".." := by
  unfold Step.ofComponent?
  split <;> simp_all

/-- **A path goes up exactly if it has a double dot for a component.** -/
theorem mem_steps_up {path : String} : Step.up ∈ steps path ↔ ".." ∈ components path := by
  have hnamed : Step.up ∈ (components path).filterMap Step.ofComponent? ↔ ".." ∈ components path := by
    simp [ofComponent?_eq_up]
  unfold steps
  simp only
  split
  · simpa using hnamed
  · split
    · simpa using hnamed
    · exact hnamed

theorem ofComponent?_ne_start {c : String} : Step.ofComponent? c ≠ some .start := by
  unfold Step.ofComponent?
  split
  · simp
  · split <;> simp

/-- A path goes to the start exactly if it is absolute. -/
theorem mem_steps_start {path : String} : Step.start ∈ steps path ↔ path.toList.head? = some '/' := by
  have hnamed : Step.start ∉ (components path).filterMap Step.ofComponent? := by
    simp [ofComponent?_ne_start]
  unfold steps
  simp only
  split
  · next habsolute => simpa using habsolute
  · next hrelative =>
    split <;> simp [hnamed, hrelative]

/-- The names that a path goes to are those among its components. -/
theorem filterMap_name?_steps (path : String) :
    (steps path).filterMap Step.name? = (components path).filter isName := by
  have hnamed : ∀ cs : List String,
      (cs.filterMap Step.ofComponent?).filterMap Step.name? = cs.filter isName := by
    intro cs
    induction cs with
    | nil => rfl
    | cons c cs ih =>
      by_cases hup : c = ".."
      · subst hup
        simpa [List.filterMap_cons, Step.ofComponent?, Step.name?, isName] using ih
      · by_cases hname : isName c = true
        · simpa [Step.ofComponent?, Step.name?, hup, hname] using ih
        · simpa [Step.ofComponent?, hup, hname] using ih
  unfold steps
  simp only
  split
  · simpa [List.filterMap_cons, Step.name?] using hnamed _
  · split
    · simpa [List.filterMap_cons, Step.name?] using hnamed _
    · exact hnamed _

/-- **Where steps lead that go from name to name**: on from where they begin. -/
theorem foldl_follow {l : List Step} (hl : ∀ s ∈ l, Directory.admits s = true) (names : List String) :
    l.foldl Step.follow names = names ++ l.filterMap Step.name? := by
  induction l generalizing names with
  | nil => simp
  | cons s l ih =>
    have hrest : ∀ s ∈ l, Directory.admits s = true := fun s hs => hl s (List.mem_cons_of_mem _ hs)
    cases s with
    | into name => simp [Step.follow, Step.name?, ih hrest]
    | stay => simp [List.filterMap_cons, Step.follow, Step.name?, ih hrest]
    | start | up => simp [Directory.admits] at hl

end Location

namespace Directory

open Location (components isName steps)

variable {d : Directory} {path : String}

/-! ## Paths -/

/-- The steps of a relative path are admitted exactly if none goes up. -/
theorem admits_steps_iff :
    (steps (relative path)).all admits = true ↔ ".." ∉ components path := by
  have hup : Location.Step.up ∈ steps (relative path) ↔ ".." ∈ components path := by
    rw [Location.mem_steps_up, Location.mem_components_relative (by decide)]
  have hstart : Location.Step.start ∉ steps (relative path) := fun h =>
    Location.head?_relative path (Location.mem_steps_start.1 h)
  rw [List.all_eq_true, ← hup]
  constructor
  · intro h hmem
    cases h _ hmem
  · intro h s hs
    cases s with
    | stay | into name => rfl
    | up => exact absurd hs h
    | start => exact absurd hs hstart

/-- **A path is refused exactly if it has a double dot for a component.** -/
theorem resolve_eq_error_iff {fault : FetchFault} :
    d.resolve path = .error fault ↔ ".." ∈ components path ∧ fault = .invalidPath path := by
  unfold resolve
  split
  · next h => simp [admits_steps_iff.1 h]
  · next h =>
    rw [admits_steps_iff, not_not] at h
    simp [h, eq_comm]

/-- **Where a path leads otherwise**: on from the root, by the names among its components. -/
theorem resolve_eq_ok_iff {l : Location} :
    d.resolve path = .ok l ↔ ".." ∉ components path ∧
      l = ⟨d.root ++ (components path).filter isName, Location.endsInDirectory (relative path)⟩ := by
  unfold resolve
  split
  · next h =>
    have hnames := Location.foldl_follow (List.all_eq_true.1 h) d.root
    rw [Location.filterMap_name?_steps, Location.names_relative] at hnames
    simp [admits_steps_iff.1 h, Location.join, hnames, eq_comm]
  · next h =>
    rw [admits_steps_iff, not_not] at h
    simp [h]

/-! ## Files -/

/-- A path that ends in a name goes to some name. -/
theorem names_ne_nil (hends : Location.endsInDirectory (relative path) = false) :
    (components path).filter isName ≠ [] := by
  unfold Location.endsInDirectory at hends
  cases hlast : (components (relative path)).getLast? with
  | none => simp [hlast] at hends
  | some c =>
    have hname : isName c = true := by simpa [hlast] using hends
    have hmem : c ∈ (components (relative path)).filter isName :=
      List.mem_filter.2 ⟨List.mem_of_getLast? hlast, hname⟩
    rw [Location.names_relative] at hmem
    exact List.ne_nil_of_mem hmem

/-- The files that a path may lead to are those below the root. -/
theorem file?_congr {disk : Disk} {l : Location}
    (hbelow : ∀ names, names ≠ [] → disk.get? (d.root ++ names) = d.disk.get? (d.root ++ names))
    (hl : d.resolve path = .ok l) : l.file? disk = l.file? d.disk := by
  obtain ⟨-, rfl⟩ := resolve_eq_ok_iff.1 hl
  unfold Location.file?
  split
  · rfl
  · next hends => exact hbelow _ (names_ne_nil (Bool.eq_false_iff.2 hends))

/-- What is fetched, and whether there is a file, has to do with what is below the root only. -/
theorem answers_congr {disk : Disk}
    (hbelow : ∀ names, names ≠ [] → disk.get? (d.root ++ names) = d.disk.get? (d.root ++ names))
    (path : String) :
    ({ d with disk } : Directory).fetch path = d.fetch path ∧
      ({ d with disk } : Directory).holds path = d.holds path := by
  have hresolve : ({ d with disk } : Directory).resolve path = d.resolve path := rfl
  unfold fetch holds
  rw [hresolve]
  cases hl : d.resolve path with
  | error fault => exact ⟨rfl, rfl⟩
  | ok l => simp only [file?_congr hbelow hl, and_self]

/-- Where there is a file, it is fetched, unless it cannot be read. -/
theorem fetch_of_holds (h : d.holds path = true) :
    (∃ bytes, d.fetch path = .ok bytes) ∨ d.fetch path = .error .io := by
  unfold holds at h
  unfold fetch
  cases hl : d.resolve path with
  | error fault => simp [hl] at h
  | ok l =>
    simp only [hl] at h ⊢
    cases hfile : l.file? d.disk with
    | none => simp [hfile] at h
    | some file => cases file <;> simp

/-- **Paths stay below the root.** A path is refused exactly if one of its components is a double dot, and
always as an invalid path. Otherwise it leads on from the root, by the components that are names, in
their order.

What is fetched at a path, and whether there is a file at it, has to do with the files below the root
only: it is the same on every disk that has the same files there, whatever else the disk has. Where there
is a file, its path is neither invalid nor one at which nothing is found: the file is fetched, unless it
cannot be read. -/
theorem paths_stay_below_root (d : Directory) (path : String) :
    (∀ fault, d.resolve path = .error fault ↔ ".." ∈ components path ∧ fault = .invalidPath path) ∧
    (".." ∉ components path →
      ∃ l, d.resolve path = .ok l ∧ l.names = d.root ++ (components path).filter isName) ∧
    (∀ disk : Disk,
      (∀ names, names ≠ [] → disk.get? (d.root ++ names) = d.disk.get? (d.root ++ names)) →
        ({ d with disk } : Directory).fetch path = d.fetch path ∧
          ({ d with disk } : Directory).holds path = d.holds path) ∧
    (d.holds path = true → (∃ bytes, d.fetch path = .ok bytes) ∨ d.fetch path = .error .io) :=
  ⟨fun _ => resolve_eq_error_iff, fun h => ⟨_, resolve_eq_ok_iff.2 ⟨h, rfl⟩, rfl⟩,
    fun _ hbelow => answers_congr hbelow path, fetch_of_holds⟩

/-- A file two directories below the root, asked for with more slashes and dots than needed; next to the
root lies another one, which may as well be away. -/
theorem paths_stay_below_root_slashes :
    let disk : Disk := .ofList [(["srv", "root", "sub", "b"], [1, 2]), (["srv", "secret"], [3])]
    let d : Directory := ⟨["srv", "root"], disk⟩
    let path := "//sub/.//b"
    ".." ∉ components path ∧ d.holds path = true ∧
      (∃ l, d.resolve path = .ok l ∧ l.names = ["srv", "root", "sub", "b"]) ∧
      ((∃ bytes, d.fetch path = .ok bytes) ∨ d.fetch path = .error .io) ∧
      ({ d with disk := disk.erase ["srv", "secret"] } : Directory).fetch path = d.fetch path ∧
      d.resolve "/../secret" = .error (.invalidPath "/../secret") := by
  intro disk d path
  have hdots : ".." ∉ components path := by decide +kernel
  have hholds : d.holds path = true := by decide +kernel
  have hbelow : ∀ names, names ≠ [] →
      (disk.erase ["srv", "secret"]).get? (d.root ++ names) = disk.get? (d.root ++ names) := by
    intro names _
    have hne : ["srv", "secret"] ≠ d.root ++ names := by simp [d]
    rw [Dict.get?_erase, if_neg hne]
  obtain ⟨-, hnames, hsame, hfetch⟩ := paths_stay_below_root d path
  obtain ⟨l, hl, hl'⟩ := hnames hdots
  have hway : d.root ++ (components path).filter isName = ["srv", "root", "sub", "b"] := by
    decide +kernel
  obtain ⟨hrefused, -⟩ := paths_stay_below_root d "/../secret"
  exact ⟨hdots, hholds, ⟨l, hl, hl'.trans hway⟩, hfetch hholds, (hsame _ hbelow).1,
    (hrefused _).2 ⟨by decide +kernel, rfl⟩⟩

end Directory

end GuestHost
