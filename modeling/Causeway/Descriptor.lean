import Causeway.DataSource
import Causeway.Document.Json
import Causeway.Document.Yaml
import Causeway.File.Tree

/-!
Descriptor files: data sources described in YAML or JSON.
-/

namespace Causeway

inductive Format where
  | yaml
  | json
  deriving DecidableEq, Repr, Inhabited

namespace Format

def name : Format → String
  | .yaml => "yaml"
  | .json => "json"

/-- The format of a file by its extension; whatever is not JSON is YAML. -/
def ofPath (p : String) : Format :=
  if (Path.extension? p).any fun e => e.toList.map Char.toLower == "json".toList then .json
  else .yaml

end Format

namespace DataSource

/-- Reads and validates a descriptor. -/
def ofText (format : Format) (text : String) : Except Error DataSource :=
  let failed (name : String) : Error :=
    .config ("Failed to parse data source " ++ name ++ ": not a descriptor")
  let ds? := match format with
    | .yaml => Yaml.readDocument (read Yaml.reading) text
    | .json => Json.readDocument (read Json.reading) text
  match ds?, format with
  | some ds, _ => ds.validate.map fun _ => ds
  | none, .yaml => .error (failed "YAML")
  | none, .json => .error (failed "JSON")

/-- Reads and validates the descriptor in a file. -/
def ofFile (files : FileTree) (path : String) : Except Error DataSource :=
  match files.readText path with
  | .ok text => ofText (.ofPath path) text
  | .error .missing => .error (.config ("Data source file '" ++ path ++ "' not found"))
  | .error e =>
    .error (.config ("Failed to read data source file '" ++ path ++ "': " ++ e.message))

end DataSource

end Causeway
