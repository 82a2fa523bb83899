import Mathlib.Data.List.Nodup
import GuestHost.Host.Startup

/-!
# Natives under their names

The host's import table is filled listing by listing, and a listing replaces one with the same owner and
key. No two have both in common, so each native is found under the name that it is listed with.
-/

namespace GuestHost

variable {ν : Type} {code : Builtin → ν} {t : Imports ν} {owner key : String}
  {kind : MethodKind} {native : Builtin}

namespace Builtin

/-- The owner and the key of a listing. -/
def Listing.name (l : Listing) : String × String := (l.1, l.2.1)

theorem nodup_listings : (listings.map Listing.name).Nodup := by decide +kernel

/-- What other names are listed for makes no difference. -/
theorem find?_foldl_add_of_not_mem {ls : List Listing} (hname : (owner, key) ∉ ls.map Listing.name) :
    (ls.foldl (fun t l => t.add l.1 l.2.1 l.2.2.1 (code l.2.2.2)) t).find? owner key
      = t.find? owner key := by
  induction ls generalizing t with
  | nil => rfl
  | cons l rest ih =>
    simp only [List.map_cons, List.mem_cons, not_or] at hname
    rw [List.foldl_cons, ih hname.2]
    exact Dict.get?_set_of_ne _ _ (Ne.symm hname.1)

theorem find?_foldl_add_of_mem {ls : List Listing} (hnodup : (ls.map Listing.name).Nodup)
    (hl : (owner, key, kind, native) ∈ ls) :
    (ls.foldl (fun t l => t.add l.1 l.2.1 l.2.2.1 (code l.2.2.2)) t).find? owner key
      = some ⟨kind, code native⟩ := by
  induction ls generalizing t with
  | nil => cases hl
  | cons first rest ih =>
    rw [List.map_cons, List.nodup_cons] at hnodup
    rcases List.mem_cons.1 hl with rfl | hrest
    · rw [List.foldl_cons, find?_foldl_add_of_not_mem hnodup.1]
      exact Dict.get?_set_self _ _ _
    · exact ih hnodup.2 hrest

/-- **A native that the host provides** is found under its name. -/
theorem find?_of_mem_listings (hl : (owner, key, kind, native) ∈ listings) :
    Imports.standard.find? owner key = some ⟨kind, .builtin native⟩ := by
  unfold Imports.standard standard
  exact find?_foldl_add_of_mem nodup_listings hl

theorem mem_listings_of_text {l : Listing} (hl : l ∈ textListings) : l ∈ listings := by
  simp [listings, hl]

theorem mem_listings_of_number {l : Listing} (hl : l ∈ numberListings) : l ∈ listings := by
  simp [listings, hl]

end Builtin

end GuestHost
