import Causeway.Capability
import Causeway.Document.Yaml
import Causeway.Error
import Causeway.File.Tree

/-!
Manifests: files that name a plugin, the factory that makes it, and its settings.
-/

namespace Causeway

open Yaml (Setting)

structure Manifest where
  name : String
  /-- The factory, if it is not named like the plugin. -/
  factory : Option String := none
  enabled : Bool := true
  /-- The only capabilities to offer, where there is a list. -/
  capabilities : Option (List Capability) := none
  settings : NameMap Setting := NameMap.empty
  /-- The folder from which relative paths of the settings are seen. -/
  folder : String := ""

namespace Manifest

/-- A manifest with no settings. -/
def named (name : String) : Manifest := { name }

def factoryName (m : Manifest) : String := m.factory.getD m.name

def setting? (m : Manifest) (key : String) : Option Setting := m.settings.get? key

/-- A path out of the settings. -/
def resolve (m : Manifest) (path : String) : String := Path.join m.folder path

def readCapability (n : Yaml.Node) : Option Capability := n.text.bind Capability.ofName?

/-- The capabilities of a list, each once and in order. -/
def readCapabilities (n : Yaml.Node) : Option (List Capability) :=
  (Yaml.reading.listOf readCapability n).map fun l => Capability.all.filter l.contains

def read (n : Yaml.Node) : Option Manifest := do
  match ← Yaml.reading.fields ["name", "factory", "enabled", "capabilities", "settings"] n with
  | [name, factory, enabled, capabilities, settings] =>
    pure {
      name := ← Reading.required Yaml.Node.text name
      factory := ← Yaml.reading.optional Yaml.Node.text factory
      enabled := ← Reading.withDefault Yaml.Node.bool true enabled
      capabilities := ← Yaml.reading.optional readCapabilities capabilities
      settings :=
        ← Reading.withDefault (Yaml.reading.mapOf Yaml.Node.setting) NameMap.empty settings }
  | _ => none

/-- Reads a manifest from YAML text. -/
def ofText? (s : String) : Option Manifest := Yaml.readDocument read s

def ofText (s : String) : Except Error Manifest :=
  match ofText? s with
  | some m => .ok m
  | none => .error (.yamlParse "not a manifest")

/-- Reads the manifest in a file of a folder. -/
def ofFile (files : FileTree) (folder file : String) : Except Error Manifest := do
  let path := Path.join folder file
  let text ← inContextBy (fun _ => "Failed to read manifest " ++ path) (files.readText path)
  match ofText? text with
  | some m => pure { m with folder }
  | none => throw (.config ("Invalid manifest " ++ path ++ ": not a manifest"))

end Manifest

end Causeway
