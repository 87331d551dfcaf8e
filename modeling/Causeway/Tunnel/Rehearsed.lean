import Causeway.Tunnel.Call

/-!
Connectors that open no connection: sessions succeed or fail as they are told to.
-/

namespace Causeway

/-- Forwards always use the same local port. -/
def Connector.rehearsed (freePort : UInt16) (connectFails forwardFails : Bool) : Connector where
  freePort := .ok freePort
  connect t := if connectFails then .error (.tunnel ("cannot reach " ++ t.gateway) none) else .ok ()
  forward _ _ _ _ := if forwardFails then .error (.tunnel "forward refused" none) else .ok ()

end Causeway
