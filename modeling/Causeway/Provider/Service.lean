import Causeway.Capability
import Causeway.Graph.Request
import Causeway.Metadata
import Causeway.Provider.Run
import Causeway.Sprite.Script
import Causeway.Table

/-!
Services: what a provider of a capability can be asked and what it answers, for data sources of the
types that it names.
-/

namespace Causeway

namespace Capability

/-- What a service of a capability is asked. -/
def Request : Capability → Type
  | graph => Graph.Request
  | index => Unit
  | metadata => Unit
  | table => Table.Request

/-- What a service of a capability answers. -/
def Answer : Capability → Type
  | graph => Graph
  | index => Script
  | metadata => Metadata
  | table => Table

end Capability

/-- An implementation of a capability. -/
structure Service (c : Capability) where
  /-- The types of data sources that it serves. -/
  tags : NameSet
  serve : DataSource → c.Request → Run c.Answer

/-- Feeds the index of a data source to a player. -/
def Service.feed {σ : Type} (s : Service .index) (p : Player σ) (st : σ) (ds : DataSource) :
    Run (σ × Except Error Unit) :=
  (s.serve ds ()).map fun script => Script.playOn script p st

end Causeway
