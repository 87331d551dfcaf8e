import Causeway.Memory.Query
import Causeway.Plugin.Basic

/-!
Datasets as providers: the database of a descriptor names the dataset that answers.
-/

namespace Causeway.Memory

abbrev Datasets := NameMap Dataset

namespace Datasets

def find (m : Datasets) (ds : DataSource) : Except Error Dataset :=
  match NameMap.get? m ds.database with
  | some d => .ok d
  | none => .error (.notFound ("dataset '" ++ ds.database ++ "'"))

def tags : NameSet := NameSet.ofList [tag]

def graphService (m : Datasets) : Service .graph where
  tags := tags
  serve ds request := .ofExcept ((m.find ds).bind fun d => d.answer ds request)

def indexService (m : Datasets) : Service .index where
  tags := tags
  serve ds _ := .ofExcept ((m.find ds).map fun d => d.script ds)

def metadataService (m : Datasets) : Service .metadata where
  tags := tags
  serve ds _ := .ofExcept ((m.find ds).map Dataset.metadata)

theorem serve_graphService {m : Datasets} {ds : DataSource} {d : Dataset} (h : m.find ds = .ok d)
    (r : Graph.Request) : m.graphService.serve ds r = .ofExcept (d.answer ds r) := by
  have hanswer : ((m.find ds).bind fun d => d.answer ds r) = d.answer ds r := by
    rw [h]
    rfl
  exact congrArg Run.ofExcept hanswer

theorem serve_metadataService {m : Datasets} {ds : DataSource} {d : Dataset}
    (h : m.find ds = .ok d) : m.metadataService.serve ds () = .ofExcept (.ok d.metadata) := by
  have hmetadata : (m.find ds).map Dataset.metadata = .ok d.metadata := by
    rw [h]
    rfl
  exact congrArg Run.ofExcept hmetadata

/-- Datasets offer graphs, an index and metadata. -/
def plugin (m : Datasets) (name : String) : Plugin where
  name
  services
    | .graph => [m.graphService]
    | .index => [m.indexService]
    | .metadata => [m.metadataService]
    | .table => []

end Datasets

end Causeway.Memory
