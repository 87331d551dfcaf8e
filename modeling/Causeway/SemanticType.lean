import Causeway.Text.Search
import Causeway.Value.Basic

/-!
Semantic property types. Data sources name their types in many ways; `SemanticType.ofName` folds the
names into a handful of kinds and keeps the ones it does not know.
-/

namespace Causeway

inductive SemanticType where
  | text
  | numeric
  | date
  | boolean
  /-- A type with no kind of its own, by its normalized name. -/
  | other (name : String)
  deriving DecidableEq, Repr, Inhabited

namespace SemanticType

def name : SemanticType → String
  | .text => "String"
  | .numeric => "Numeric"
  | .date => "Date"
  | .boolean => "Boolean"
  | .other n => n

def textNames : List String := [
  "string", "str", "text", "varchar", "char", "character", "character varying", "nvarchar",
  "nchar", "ntext", "clob", "uuid", "enum", "bpchar", "tinytext", "mediumtext", "longtext",
  "normalizedstring", "token", "anyuri"]

def numericNames : List String := [
  "int", "integer", "long", "short", "byte", "tinyint", "smallint", "mediumint", "bigint",
  "hugeint", "uhugeint", "utinyint", "usmallint", "uinteger", "ubigint", "float", "double",
  "double precision", "real", "decimal", "numeric", "number", "money", "serial", "bigserial",
  "smallserial", "int2", "int4", "int8", "float4", "float8", "unsignedint", "unsignedlong",
  "unsignedshort", "unsignedbyte", "positiveinteger", "negativeinteger", "nonnegativeinteger",
  "nonpositiveinteger"]

def dateNames : List String := [
  "date", "datetime", "datetime2", "smalldatetime", "timestamp", "timestamptz",
  "timestamp with time zone", "timestamp without time zone", "time", "time with time zone",
  "time without time zone", "datetimeoffset"]

def booleanNames : List String := ["boolean", "bool", "bit"]

/-- Names of XML Schema types stand after this. -/
def schemaMarker : List Char := "xmlschema#".toList

/-- Words in lower case with single blanks between them, without a schema's address in front and
without a parenthesis and what follows it. -/
def normalize (name : String) : String :=
  let cs := Text.lower (Text.joinWith [' '] (Text.words name.toList))
  let cs := (Text.afterLast? schemaMarker cs).getD cs
  String.ofList (Text.trimEnd (cs.takeWhile (· ≠ '(')))

/-- The type that a data source calls `name`. -/
def ofName (name : String) : SemanticType :=
  let n := normalize name
  if n ∈ textNames then .text
  else if n ∈ numericNames then .numeric
  else if n ∈ dateNames then .date
  else if n ∈ booleanNames then .boolean
  else .other n

/-- The type of a value of which no type is declared. -/
def ofValue : Value → SemanticType
  | .bool _ => .boolean
  | .int _ | .float _ => .numeric
  | .date _ => .date
  | .list _ => .other "list"
  | .map _ => .other "map"
  | .null | .string _ | .raw _ => .text

end SemanticType

end Causeway
