import GuestHost.Dict
import GuestHost.Linkage.Target

/-!
# Linked sites

Each lambda expression or method reference is a site. A site gets a factory when it is first
bootstrapped and a call site when it is first linked; neither ever changes.
-/

namespace GuestHost

/-- Number of a site. -/
abbrev SiteId := UInt32

/-- The factories and call sites made so far. Sites without a number of their own take numbers from
the top downwards. -/
structure Linkage where
  factories : Dict SiteId Factory
  callSites : Dict SiteId CallSite
  nextAnonymous : SiteId
deriving Repr, DecidableEq

namespace Linkage

/-- No site is linked. -/
def empty : Linkage := ⟨.empty, .empty, 0xFFFFFFFF⟩

instance : Inhabited Linkage := ⟨empty⟩

/-- Whether a site has a factory. -/
def isLinked (l : Linkage) (site : SiteId) : Bool := l.factories.contains site

/-- Number of sites that have a factory. -/
def size (l : Linkage) : Nat := l.factories.size

/-- Takes a number for a site that has none. -/
def anonymousSite (l : Linkage) : SiteId × Linkage :=
  (l.nextAnonymous, { l with nextAnonymous := l.nextAnonymous - 1 })

end Linkage

end GuestHost
