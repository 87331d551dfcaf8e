import Causeway.Relational.TableInfo
import Causeway.Relational.Cell

/-!
Databases as values: typed tables with their rows, and the casting of literals to column types.
-/

namespace Causeway.Relational

open Number Time

inductive ColumnType where
  | boolean
  | integer (kind : IntegerKind)
  | float
  | double
  | decimal (width scale : Nat)
  | text
  | blob
  | timestamp (unit : TimeUnit)
  | date
  deriving DecidableEq, Repr, Inhabited

namespace ColumnType

/-- The types without parameters by their names; the first name of each is the one shown. -/
def names : List (String × ColumnType) := [
  ("BOOLEAN", .boolean), ("BOOL", .boolean), ("LOGICAL", .boolean),
  ("TINYINT", .integer .int8), ("INT1", .integer .int8),
  ("SMALLINT", .integer .int16), ("INT2", .integer .int16), ("SHORT", .integer .int16),
  ("INTEGER", .integer .int32), ("INT", .integer .int32), ("INT4", .integer .int32),
  ("SIGNED", .integer .int32),
  ("BIGINT", .integer .int64), ("INT8", .integer .int64), ("LONG", .integer .int64),
  ("HUGEINT", .integer .int128),
  ("UTINYINT", .integer .uint8), ("USMALLINT", .integer .uint16),
  ("UINTEGER", .integer .uint32), ("UBIGINT", .integer .uint64),
  ("FLOAT", .float), ("FLOAT4", .float), ("REAL", .float),
  ("DOUBLE", .double), ("FLOAT8", .double),
  ("VARCHAR", .text), ("TEXT", .text), ("STRING", .text), ("CHAR", .text), ("BPCHAR", .text),
  ("BLOB", .blob), ("BYTEA", .blob), ("BINARY", .blob), ("VARBINARY", .blob),
  ("TIMESTAMP", .timestamp .microsecond), ("DATETIME", .timestamp .microsecond),
  ("TIMESTAMP_S", .timestamp .second), ("TIMESTAMP_MS", .timestamp .millisecond),
  ("TIMESTAMP_NS", .timestamp .nanosecond), ("DATE", .date),
  ("DECIMAL", .decimal 18 3), ("NUMERIC", .decimal 18 3)]

def name : ColumnType → String
  | .decimal width scale => "DECIMAL(" ++ toString width ++ "," ++ toString scale ++ ")"
  | t => ((names.find? fun e => e.2 == t).map (·.1)).getD ""

end ColumnType

structure StoredTable where
  schema : String := "main"
  name : String
  columns : List (String × ColumnType)
  rows : List (List Cell) := []
  deriving Inhabited

/-- A database. -/
structure Store where
  tables : List StoredTable := []
  deriving Inhabited

namespace Store

/-- The nearest integer to `d * 10 ^ scale`, a half going away from zero. -/
def scaledInteger (d : Decimal) (scale : Nat) : Int :=
  let n : Nat := match d.exponent + scale with
    | .ofNat e => d.coefficient * tenPow e
    | .negSucc e => (2 * d.coefficient + tenPow (e + 1)) / (2 * tenPow (e + 1))
  if d.negative then -(n : Int) else n

/-- A date: year, month and day with dashes between them. -/
def readDate (s : List Char) : Option Int := do
  let (negative, s) := match s with
    | '-' :: r => (true, r)
    | r => (false, r)
  match Text.splitAt ['-'] s with
  | [y, m, d] => do
    let y ← readNat y
    let m ← readNat m
    let d ← readNat d
    let date : Date := ⟨if negative then -(y : Int) else y, m, d⟩
    if date.IsValid then some date.dayNumber else none
  | _ => none

/-- A time of day: nanoseconds since midnight. -/
def readTimeOfDay (s : List Char) : Option Nat := do
  let whole := s.takeWhile (· ≠ '.')
  let fraction := (s.dropWhile (· ≠ '.')).drop 1
  if !fraction.all isDigit ∨ 9 < fraction.length then none
  else
    let nanos := ofDigits fraction * tenPow (9 - fraction.length)
    match (Text.splitAt [':'] whole).mapM readNat with
    | some [h, m, sec] =>
      if h < 24 ∧ m < 60 ∧ sec < 60 then some (((h * 60 + m) * 60 + sec) * billion + nanos) else none
    | some [h, m] => if h < 24 ∧ m < 60 then some ((h * 60 + m) * 60 * billion) else none
    | _ => none

/-- A date with or without a time of day, in units of a second. -/
def readTimestamp (perSecond : Nat) (s : List Char) : Option Int := do
  let isGap (c : Char) : Bool := c == ' ' || c == 'T'
  let s := Text.trim s
  let day ← readDate (s.takeWhile (!isGap ·))
  let nanos ← match (s.dropWhile (!isGap ·)).drop 1 with
    | [] => some 0
    | r => readTimeOfDay (if r.getLast? = some 'Z' then r.dropLast else r)
  pure (day * secondsPerDay * perSecond + (nanos / (billion / perSecond) : Nat))

/-- The number that a literal spells. -/
def readDecimal (s : List Char) : Option Decimal :=
  let (negative, r) := readSign (Text.trim s)
  Decimal.readUnsigned negative r

def numberCell (t : ColumnType) (d : Decimal) : Option Cell :=
  match t with
  | .integer kind =>
    let i := scaledInteger d 0
    if kind.low ≤ i ∧ i ≤ kind.high then some (.integer kind i) else none
  | .float => some (.float (.ofDecimal d))
  | .double => some (.double (.ofDecimal d))
  | .decimal _ scale => some (.decimal (scaledInteger d scale) scale)
  | .boolean => some (.boolean (d.coefficient ≠ 0))
  | _ => none

/-- A literal in quotes as a cell of a type. -/
def textCell (t : ColumnType) (s : String) : Option Cell :=
  let cs := s.toList
  match t with
  | .text => some (.text s)
  | .blob => some (.blob s.toUTF8.toList)
  | .date => (readDate (Text.trim cs)).map .date
  | .timestamp unit => (readTimestamp unit.perSecond cs).map (.timestamp unit)
  | .boolean =>
    let word := String.ofList (cs.map Char.toLower)
    if ["true", "t", "1"].contains word then some (.boolean true)
    else if ["false", "f", "0"].contains word then some (.boolean false)
    else none
  | .double => (Double.read (Text.trim cs)).map .double
  | .float => (Single.read (Text.trim cs)).map .float
  | t => (readDecimal cs).bind (numberCell t)

/-- The columns by schema, table and position. -/
def columnRows (s : Store) : List ColumnRow :=
  let sorted := s.tables.mergeSort fun a b =>
    a.schema < b.schema || (a.schema == b.schema && (a.name < b.name || a.name == b.name))
  sorted.flatMap fun t => t.columns.map fun (column, type) => ⟨t.schema, t.name, column, type.name⟩

def sameName (a b : String) : Bool :=
  a.toList.map Char.toLower == b.toList.map Char.toLower

/-- The table of a name in any case of letters. -/
def table? (s : Store) (schema name : String) : Option StoredTable :=
  s.tables.find? fun t => sameName t.schema schema && sameName t.name name

end Store

end Causeway.Relational
