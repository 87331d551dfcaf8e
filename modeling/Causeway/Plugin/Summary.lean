import Causeway.Plugin.Registry
import Causeway.Text.Quoted

/-!
One-line summaries of plugins, registries and tunnels.
-/

namespace Causeway

open Text

def Plugin.summary (p : Plugin) : String :=
  "PluginUnit \x7b name: " ++ quoted p.name ++ ", capabilities: " ++
    braced (p.capabilities.map Capability.title) ++ " \x7d"

def Registry.summary {c : Capability} (r : Registry c) : String :=
  "ProviderRegistry \x7b capability: " ++ c.title ++ ", tags: " ++
    braced (r.provides.map quoted) ++ " \x7d"

def Tunnel.summary (t : Tunnel) : String :=
  "Tunnel \x7b default_user: " ++ quoted t.defaultUser ++ ", .. \x7d"

end Causeway
