import Causeway.Memory.Factory
import Causeway.Relational.Provider

/-!
Linking manifests against factories, and the catalog of plugins in a folder of manifests.
-/

namespace Causeway

/-- Makes a plugin from its manifest. -/
abbrev Factory := Manifest → Except Error Plugin

/-- Factories by name. -/
abbrev Linker := NameMap Factory

namespace Linker

/-- The factories that are always there. -/
def builtin (files : FileTree) : Linker :=
  NameMap.ofList [("memory", Memory.factory files), ("relational", Relational.factory files)]

/-- Makes the plugin of a manifest, named like it and with no more than it allows. -/
def link (l : Linker) (m : Manifest) : Except Error Plugin :=
  match NameMap.get? l m.factoryName with
  | none =>
    .error (.config ("Plugin '" ++ m.name ++ "' names unknown factory '" ++ m.factoryName ++ "'"))
  | some factory =>
    (factory m).map fun p =>
      let p := { p with name := m.name }
      match m.capabilities with
      | some allowed => p.restrict allowed
      | none => p

end Linker

/-- The plugins of a deployment, in order. -/
abbrev Catalog := List Plugin

namespace Catalog

/-- One plugin of each factory that is always there. -/
def builtin (files : FileTree) : Except Error Catalog :=
  let l := Linker.builtin files
  (NameMap.names l).mapM fun name => l.link (.named name)

def isManifest (file : String) : Bool :=
  (Path.extensionOf? file).any fun e => e == "yaml" || e == "yml"

/-- The names of the manifests in a folder, in order. -/
def manifestsIn (files : FileTree) (folder : String) : List String :=
  (NameSet.ofList ((files.filesIn folder).filter isManifest)).names

/-- Links the enabled manifests among some files of a folder, up to the first fault. -/
def linkFiles (files : FileTree) (l : Linker) (folder : String) : List String → Except Error Catalog
  | [] => .ok []
  | file :: r => do
    let m ← Manifest.ofFile files folder file
    if m.enabled then do
      let p ← l.link m
      let rest ← linkFiles files l folder r
      pure (p :: rest)
    else linkFiles files l folder r

/-- The plugins of the manifests in a folder, in the order of their file names. -/
def scan (files : FileTree) (l : Linker) (folder : String) : Except Error Catalog :=
  if files.isFolder folder then
    linkFiles files l folder (manifestsIn files folder)
  else .error (.config ("Plugin directory not found: " ++ folder))

end Catalog

end Causeway
