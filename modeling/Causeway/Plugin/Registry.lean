import Causeway.Plugin.Basic
import Causeway.Tunnel.Call

/-!
Registries: which service answers for which type of data source. Later plugins take over the types of
earlier ones, and remote data sources are served through a tunnel.
-/

namespace Causeway

/-- The services of one capability by the type of data source. -/
structure Registry (c : Capability) where
  services : NameMap (Service c)
  tunnel : Tunnel

namespace Registry

variable {c : Capability}

/-- Registers a service under each of its types. -/
def register (m : NameMap (Service c)) (s : Service c) : NameMap (Service c) :=
  s.tags.names.foldl (fun m tag => m.insert tag s) m

/-- Registers the services of plugins in their order; the last service of a type stays. -/
def ofPlugins (c : Capability) (plugins : List Plugin) (tunnel : Tunnel) : Registry c where
  services := (plugins.flatMap fun p => p.services c).foldl register NameMap.empty
  tunnel

/-- The types that have a service. -/
def provides (r : Registry c) : List String := r.services.names

/-- The service for a data source, behind a tunnel if it is remote. -/
def create (r : Registry c) (ds : DataSource) : Except Error (Service c) :=
  match r.services.get? ds.type with
  | none => .error (.unsupportedDataSource ds.type)
  | some s =>
    if ds.remote then ds.validateRemote.map fun _ => r.tunnel.around s else .ok s

/-- One call on a data source. -/
def serve (r : Registry c) (ds : DataSource) (request : c.Request) : Run c.Answer :=
  match r.create ds with
  | .ok s => s.serve ds request
  | .error e => { outcome := .error e }

end Registry

/-- The types served for each capability by some plugins. -/
def describePlugins (plugins : List Plugin) (tunnel : Tunnel) : List (Capability × List String) :=
  Capability.all.map fun c => (c, (Registry.ofPlugins c plugins tunnel).provides)

end Causeway
