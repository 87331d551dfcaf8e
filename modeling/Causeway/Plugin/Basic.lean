import Causeway.Provider.Service

/-!
Plugins: named bundles of services, and what a deployment allows of them.
-/

namespace Causeway

structure Plugin where
  name : String
  services : (c : Capability) → List (Service c)

namespace Plugin

def named (name : String) : Plugin := ⟨name, fun _ => []⟩

/-- The capabilities of which the plugin has a service. -/
def capabilities (p : Plugin) : List Capability :=
  Capability.all.filter fun c => !(p.services c).isEmpty

/-- Drops the services of all other capabilities. -/
def restrict (p : Plugin) (allowed : List Capability) : Plugin :=
  { p with services := fun c => if c ∈ allowed then p.services c else [] }

end Plugin

end Causeway
