import Causeway.File.Tree
import Causeway.Plugin.Manifest
import Causeway.Plugin.Basic
import Causeway.Relational.Evaluation

/-!
Relational data sources as providers: every call attaches the database anew and answers from it.
-/

namespace Causeway.Relational

/-- The query that checks a connection. -/
def probeQuery : String := "SELECT 1"

/-- How an engine's databases are attached. -/
def Engine.attachOptions (e : Engine) : String :=
  match e.scanner? with
  | some (_, kind) => "(TYPE " ++ kind ++ ", READ_ONLY)"
  | none => "(READ_ONLY)"

/-- The statement that attaches a target as `catalogName`. -/
def attachStatement (e : Engine) (target : String) : String :=
  "ATTACH " ++ quoteLiteral target ++ " AS " ++ catalogName ++ " " ++ e.attachOptions ++ ";"

/-- The database in the file that a statement attaches. -/
def attached? (files : FileTree) (statement : String) : Option Store :=
  match SqlToken.lex statement.toList with
  | some (.word "ATTACH" :: .literal target :: .word "AS" :: _) => files.database? target
  | _ => none

/-- Attaches the database that a descriptor names. Databases behind extensions are out of reach. -/
def connect (files : FileTree) (ds : DataSource) : Except Error Connection := do
  let engine ← Engine.ofTag ds.type
  let target ← connectionString engine ds
  match engine.scanner? with
  | some (extension, _) =>
    .error (.backend ("Failed to load " ++ extension ++ " extension") (some "not available"))
  | none =>
    match attached? files (attachStatement engine target) with
    | some store => .ok store.connection
    | none => .error (.backend ("Failed to attach " ++ ds.name) (some "not a database"))

def check (files : FileTree) (ds : DataSource) : Except Error Unit := do
  let c ← connect files ds
  let _ ← c.select probeQuery []
  pure ()

def query (files : FileTree) (ds : DataSource) (r : Table.Request) : Except Error Table := do
  let c ← connect files ds
  c.query r

def metadata (files : FileTree) (ds : DataSource) : Except Error Metadata := do
  let engine ← Engine.ofTag ds.type
  let c ← connect files ds
  c.metadata engine

/-- The index of a data source. There is always one, since the pages of a stored table end. -/
def script (files : FileTree) (ds : DataSource) : Except Error Script := do
  let engine ← Engine.ofTag ds.type
  let c ← connect files ds
  pure ((c.script engine).getD {})

def tags : NameSet := NameSet.ofList (Engine.all.map Engine.tag)

/-- Relational data sources offer tables, metadata and an index. -/
def plugin (files : FileTree) (name : String) : Plugin where
  name
  services
    | .graph => []
    | .index => [{ tags, serve := fun ds _ => .ofExcept (script files ds) }]
    | .metadata => [{ tags, serve := fun ds _ => .ofExcept (metadata files ds) }]
    | .table => [{ tags, serve := fun ds r => .ofExcept (query files ds r) }]

def factory (files : FileTree) (_ : Manifest) : Except Error Plugin := .ok (plugin files "relational")

end Causeway.Relational
