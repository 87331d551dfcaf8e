import Causeway.Document.Json
import Causeway.Error

/-!
The kinds of service that a provider may offer.
-/

namespace Causeway

inductive Capability where
  | graph
  | index
  | metadata
  | table
  deriving DecidableEq, Repr, Inhabited

namespace Capability

def all : List Capability := [graph, index, metadata, table]

def name : Capability → String
  | .graph => "graph"
  | .index => "index"
  | .metadata => "metadata"
  | .table => "table"

/-- The name with a capital letter. -/
def title : Capability → String
  | .graph => "Graph"
  | .index => "Index"
  | .metadata => "Metadata"
  | .table => "Table"

def ofName? (s : String) : Option Capability := all.find? fun c => c.name == s

/-- Reads a capability in any case of letters, with white space around it. -/
def parse (s : String) : Except Error Capability :=
  match ofName? (Text.lowered (Text.trimmed s)) with
  | some c => .ok c
  | none => .error (.config ("Unknown capability: " ++ s))

def read (n : Json.Node) : Option Capability := n.caseName.bind ofName?

end Capability

end Causeway
