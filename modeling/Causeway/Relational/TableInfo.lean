import Causeway.Relational.Engine
import Causeway.SemanticType

/-!
Tables of an attached database: their columns, the names they go by, and the queries that read them
page by page.
-/

namespace Causeway.Relational

/-- The name under which the data source is attached. -/
def catalogName : String := "source_db"

/-- The most rows of one page of the index. -/
def pageSize : Nat := 1000

/-- One column as the database lists it. -/
structure ColumnRow where
  schema : String
  table : String
  column : String
  type : String
  deriving DecidableEq, Repr

structure TableInfo where
  schema : String
  name : String
  /-- Names and declared types, in order. -/
  columns : List (String × String)
  deriving DecidableEq, Repr

namespace TableInfo

/-- The name of the table in metadata and in the index. -/
def className (t : TableInfo) (e : Engine) : String :=
  if e.impliesSchema t.schema then t.name else t.schema ++ "." ++ t.name

/-- The full name, catalog first. -/
def qualified (t : TableInfo) : List Char :=
  catalogName.toList ++ '.' :: quoteName t.schema ++ '.' :: quoteName t.name

/-- One page of the table in the order of all its columns. -/
def pageQuery (t : TableInfo) (offset : Nat) : String :=
  String.ofList (
    "SELECT * FROM ".toList ++ t.qualified ++ " ORDER BY ".toList ++
      Text.joinWith ", ".toList (t.columns.map fun c => quoteName c.1) ++
      " LIMIT ".toList ++ (toString pageSize).toList ++ " OFFSET ".toList ++
      (toString offset).toList)

/-- Puts a column in front of tables of which the first may be its own. -/
def addColumn (r : ColumnRow) : List TableInfo → List TableInfo
  | t :: ts =>
    if r.schema = t.schema ∧ r.table = t.name then
      { t with columns := (r.column, r.type) :: t.columns } :: ts
    else ⟨r.schema, r.table, [(r.column, r.type)]⟩ :: t :: ts
  | [] => [⟨r.schema, r.table, [(r.column, r.type)]⟩]

/-- Groups neighbouring columns of one table. -/
def group (rows : List ColumnRow) : List TableInfo := rows.foldr addColumn []

end TableInfo

end Causeway.Relational
