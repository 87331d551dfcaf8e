import Causeway.DataSource
import Causeway.Text.Search

/-!
The engines behind relational data sources, and the connection strings with which they are attached.
-/

namespace Causeway.Relational

inductive Engine where
  | duckdb
  | sqlite
  | postgres
  | mysql
  deriving DecidableEq, Repr, Inhabited

namespace Engine

def all : List Engine := [duckdb, sqlite, postgres, mysql]

/-- The type of data source that the engine serves. -/
def tag : Engine → String
  | .duckdb => "duckdb"
  | .sqlite => "sqlite"
  | .postgres => "postgresql"
  | .mysql => "mysql"

def ofTag (s : String) : Except Error Engine :=
  match all.find? fun e => e.tag == s with
  | some e => .ok e
  | none => .error (.unsupportedDataSource s)

def defaultPort : Engine → UInt16
  | .postgres => 5432
  | .mysql => 3306
  | .duckdb | .sqlite => 0

/-- The extension through which the engine's data are read, and the kind of attachment. -/
def scanner? : Engine → Option (String × String)
  | .duckdb => none
  | .sqlite => some ("sqlite", "SQLITE")
  | .postgres => some ("postgres", "POSTGRES")
  | .mysql => some ("mysql", "MYSQL")

/-- Whether tables of the schema are named without it. -/
def impliesSchema (e : Engine) (schema : String) : Bool :=
  schema == "main" || schema == "public" || (e == .mysql && schema == "")

end Engine

/-- A text between two marks, each mark in it written twice. -/
def enclosed (mark : Char) (s : String) : List Char :=
  mark :: (Text.replaceChar mark [mark, mark] s.toList ++ [mark])

/-- A text as an SQL literal. -/
def quoteLiteral (s : String) : String := String.ofList (enclosed '\'' s)

/-- A name as an SQL identifier. -/
def quoteName (s : String) : List Char := enclosed '"' s

/-- A value of a connection string: in quotes, its backslashes doubled and a backslash put in front of its
quotes. -/
def quoteValue (s : String) : List Char :=
  let doubled := Text.replaceChar '\\' ['\\', '\\'] s.toList
  '\'' :: (Text.replaceChar '\'' ['\\', '\''] doubled ++ ['\''])

/-- One part of a connection string. -/
def quotedPart (key value : String) : List Char := key.toList ++ '=' :: quoteValue value

/-- The keys of the database and the password. -/
def Engine.keys : Engine → String × String
  | .mysql => ("database", "passwd")
  | _ => ("dbname", "password")

/-- The security of a connection, where the descriptor asks for any. -/
def sslPart (e : Engine) (ds : DataSource) : List (List Char) :=
  if e = .postgres ∧ ds.enableSsl then
    ["sslmode=".toList ++ (if ds.skipCertValidation then "require" else "verify-full").toList]
  else []

/-- The parts of the connection string of a server. -/
def serverParts (e : Engine) (ds : DataSource) : List (List Char) :=
  let host := if ds.server = "" then "localhost" else ds.server
  let port := if ds.port = 0 then e.defaultPort else ds.port
  [quotedPart "host" host, "port=".toList ++ (toString port.toNat).toList,
    quotedPart e.keys.1 ds.database] ++
  (if ds.username = "" then [] else [quotedPart "user" ds.username]) ++
  (if ds.password = "" then [] else [quotedPart e.keys.2 ds.password]) ++
  sslPart e ds

/-- What is attached: a file, or a server with everything needed to log in. -/
def connectionString (e : Engine) (ds : DataSource) : Except Error String :=
  match e with
  | .duckdb | .sqlite =>
    if Text.isBlankText ds.database then
      .error (.config ("Data source '" ++ ds.name ++ "' needs a database file"))
    else .ok ds.database
  | .postgres | .mysql => .ok (String.ofList (Text.joinWith [' '] (serverParts e ds)))

end Causeway.Relational
