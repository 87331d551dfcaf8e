import Causeway.Memory.Provider
import Causeway.Plugin.Manifest

/-!
Plugins of datasets: the settings name the files from which the datasets are read.
-/

namespace Causeway.Memory

def loadDataset (files : FileTree) (path : String) : Except Error Dataset :=
  match files.readText path with
  | .ok text => Dataset.ofText text
  | .error e => .error (toError e)

def fault (m : Manifest) (what : String) : Error := .config ("Plugin '" ++ m.name ++ "': " ++ what)

/-- Reads the dataset of one entry of the settings. -/
def addDataset (files : FileTree) (m : Manifest) (loaded : Datasets) (entry : String × String) :
    Except Error Datasets :=
  let path := m.resolve entry.2
  match loadDataset files path with
  | .ok d => .ok (NameMap.insert loaded entry.1 d)
  | .error e => .error (fault m ("cannot load " ++ path ++ ": " ++ e.message))

/-- The datasets that a manifest names, read in name order. -/
def datasetsOf (files : FileTree) (m : Manifest) : Except Error Datasets :=
  match m.setting? "datasets" with
  | none => .ok NameMap.empty
  | some setting =>
    match setting.asTextMap? with
    | none => .error (fault m "settings.datasets must map names to files: not a map of texts")
    | some paths => paths.entries.foldlM (addDataset files m) NameMap.empty

def factory (files : FileTree) (m : Manifest) : Except Error Plugin :=
  (datasetsOf files m).map (·.plugin m.name)

end Causeway.Memory
