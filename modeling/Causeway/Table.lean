import Causeway.Graph.Json

/-!
Tabular results: columns with semantic types, and rows as records.
-/

namespace Causeway

structure Column where
  name : String
  type : SemanticType
  deriving DecidableEq

/-- The result of a tabular query. -/
structure Table where
  columns : List Column := []
  rows : List (NameMap Value) := []
  truncated : Bool := false
  deriving Inhabited

/-- A query with its parameters. A limit of zero is none. -/
structure Table.Request where
  text : String
  params : List Value := []
  limit : Nat := 0

namespace Column

def toJson (c : Column) : Json := .obj [("name", .string c.name), ("type", c.type.toJson)]

def read (n : Json.Node) : Option Column := do
  match ← Json.reading.fields ["name", "type"] n with
  | [name, type] =>
    pure {
      name := ← Reading.required Json.Node.text name
      type := ← Reading.required SemanticType.read type }
  | _ => none

end Column

namespace Table

def toJson (t : Table) : Json := .obj [
  ("columns", .array (t.columns.map Column.toJson)),
  ("rows", .array (t.rows.map fun row => row.toJson Value.serialize)),
  ("truncated", .bool t.truncated)]

def read (n : Json.Node) : Option Table := do
  match ← Json.reading.fields ["columns", "rows", "truncated"] n with
  | [columns, rows, truncated] =>
    pure {
      columns := ← Reading.required (Json.reading.listOf Column.read) columns
      rows := ← Reading.required (Json.reading.listOf (Json.reading.mapOf Json.Node.value)) rows
      truncated := ← Reading.required Json.Node.bool truncated }
  | _ => none

end Table

end Causeway
