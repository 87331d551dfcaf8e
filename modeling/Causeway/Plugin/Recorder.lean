import Causeway.Plugin.Manifest
import Causeway.Plugin.Basic

/-!
Plugins that note every descriptor they are given and answer with next to nothing. They show what
reaches a service.
-/

namespace Causeway

structure Recorder where
  name : String
  tags : List String := []
  /-- Whether every call fails. -/
  fails : Bool := false

namespace Recorder

def record {α : Type} (r : Recorder) (ds : DataSource) (a : α) : Run α where
  events := [.received r.name ds]
  outcome := if r.fails then .error (.backend (r.name ++ " failed") none) else .ok a

/-- The one sprite of the index. -/
def sprite (r : Recorder) : Sprite := Sprite.empty.add "@provider" (.string r.name)

def metadata (r : Recorder) : Metadata where
  nodeClasses := NameMap.ofList [(r.name,
    ({ name := r.name, cardinality := 1 : TypeClass }).withProperty "id" .numeric)]

/-- A table of one cell. -/
def table (r : Recorder) : Table where
  columns := [⟨"provider", .text⟩]
  rows := [NameMap.ofList [("provider", .string r.name)]]

def service (r : Recorder) : (c : Capability) → Service c
  | .graph => ⟨.ofList r.tags, fun ds _ => r.record ds Graph.empty⟩
  | .index => ⟨.ofList r.tags, fun ds _ => r.record ds { windows := [[r.sprite]] }⟩
  | .metadata => ⟨.ofList r.tags, fun ds _ => r.record ds r.metadata⟩
  | .table => ⟨.ofList r.tags, fun ds _ => r.record ds r.table⟩

/-- One service for each mention of a capability. -/
def plugin (r : Recorder) (mentioned : List Capability) : Plugin where
  name := r.name
  services c := (mentioned.filter (· == c)).map fun _ => r.service c

/-- A recorder with all capabilities, for the data source types in the settings. -/
def factory (m : Manifest) : Except Error Plugin :=
  let tags := ((m.setting? "tags").bind Yaml.Setting.asTexts?).getD []
  let r : Recorder := { name := m.name, tags, fails := (m.setting? "fail").isSome }
  .ok (r.plugin Capability.all)

end Recorder

end Causeway
