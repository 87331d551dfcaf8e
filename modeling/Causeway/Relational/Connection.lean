import Causeway.Metadata
import Causeway.Relational.Cell
import Causeway.Relational.TableInfo
import Causeway.Sprite.Script
import Causeway.Table

/-!
Queries over a connection: limited results, metadata and the index. A connection is what the engine
answers; nothing here depends on how it does.
-/

namespace Causeway.Relational

/-- What the engine answers to a query. -/
structure Answer where
  columns : List String
  rows : List (List Cell)
  deriving Inhabited

structure Connection where
  /-- All columns of the attached database, by schema, table and position. -/
  columns : List ColumnRow
  rowCount : TableInfo → Except Error Nat
  select : String → List Cell → Except Error Answer

/-- The greatest limit that there is. -/
def greatestLimit : Nat := UInt64.size - 1

/-- The query without white space around it and without semicolons at its end. -/
def trimQuery (s : String) : String :=
  let cs := Text.trim s.toList
  String.ofList (cs.reverse.dropWhile (· == ';')).reverse

/-- The query asks for one row more than the limit, which tells a full result from a cut one. -/
def limitedQuery (query : String) (limit : Nat) : String :=
  if 0 < limit ∧ limit < greatestLimit then
    "SELECT * FROM (" ++ query ++ ") AS q LIMIT " ++ toString (limit + 1)
  else query

/-- Of columns of one name the last one stays. -/
def record (names : List String) (row : List Cell) : NameMap Value :=
  NameMap.ofList (names.zip (row.map Cell.toValue))

/-- The type of the first value in a column that is not null. -/
def columnType (name : String) (rows : List (NameMap Value)) : SemanticType :=
  match (rows.filterMap (·.get? name)).find? fun v => !v.isNull with
  | some v => .ofValue v
  | none => .text

/-- The rows of an answer up to the limit, with the types that they show. -/
def tableOf (a : Answer) (limit : Nat) : Table :=
  let kept := if limit = 0 then a.rows else a.rows.take limit
  let rows := kept.map (record a.columns)
  { columns := a.columns.map fun name => ⟨name, columnType name rows⟩
    rows
    truncated := kept.length < a.rows.length }

namespace Connection

/-- The result of a query, with `limit` rows at most; a limit of zero is none. -/
def query (c : Connection) (r : Table.Request) : Except Error Table :=
  (c.select (limitedQuery (trimQuery r.text) r.limit) (r.params.map Cell.ofValue)).map
    (tableOf · r.limit)

def tables (c : Connection) : List TableInfo := TableInfo.group c.columns

/-- The class of a table, with the types of its declared columns. -/
def typeClass (e : Engine) (t : TableInfo) (cardinality : Nat) : TypeClass :=
  t.columns.foldl (fun cls (name, type) => cls.withProperty name (.ofName type))
    { name := t.className e, cardinality }

def metadata (c : Connection) (e : Engine) : Except Error Metadata := do
  let classes ← c.tables.mapM fun t => (c.rowCount t).map (typeClass e t)
  pure { nodeClasses := NameMap.ofList (classes.map fun cls => (cls.name, cls)) }

/-- The field that names the table of a sprite. -/
def tableField : String := "@table"

def rowSprite (className : String) (row : NameMap Value) : Sprite :=
  (Sprite.empty.add tableField (.string className)).load row.entries

/-- How far the index of a table has come. -/
structure Paging where
  windows : List (List Sprite) := []
  offset : Nat := 0

/-- Asks for the next page, which goes behind the windows so far. A page that is not full ends the
index, and so does a failure. -/
def nextPage (c : Connection) (e : Engine) (t : TableInfo) (p : Paging) : Paging ⊕ Script :=
  match c.query { text := t.pageQuery p.offset } with
  | .error failure => .inr { windows := p.windows, failure }
  | .ok page =>
    if page.rows.isEmpty then .inr { windows := p.windows }
    else
      let windows := p.windows ++ [page.rows.map (rowSprite (t.className e))]
      if page.rows.length < pageSize then .inr { windows }
      else .inl { windows, offset := p.offset + page.rows.length }

/-- The index of one table, page by page to the last. -/
def tableScript (c : Connection) (e : Engine) (t : TableInfo) : Option Script :=
  repeatM (fun p => some (c.nextPage e t p)) {}

/-- The index of tables one after the other, up to the first that fails. -/
def scriptOf (c : Connection) (e : Engine) : List TableInfo → Option Script
  | [] => some {}
  | t :: r => do
    let first ← c.tableScript e t
    match first.failure with
    | some _ => some first
    | none => do
      let rest ← scriptOf c e r
      some { rest with windows := first.windows ++ rest.windows }

/-- The index of all tables. -/
def script (c : Connection) (e : Engine) : Option Script := c.scriptOf e c.tables

end Connection

end Causeway.Relational
