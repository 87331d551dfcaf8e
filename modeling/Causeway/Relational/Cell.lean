import Causeway.Value.Basic

/-!
Cells: the values of columns and parameters, and how they become property values and back.
-/

namespace Causeway.Relational

open Number Time

/-- The integer types of columns. -/
inductive IntegerKind where
  | int8
  | int16
  | int32
  | int64
  | int128
  | uint8
  | uint16
  | uint32
  | uint64
  deriving DecidableEq, Repr, Inhabited

namespace IntegerKind

def bits : IntegerKind → Nat
  | .int8 | .uint8 => 8
  | .int16 | .uint16 => 16
  | .int32 | .uint32 => 32
  | .int64 | .uint64 => 64
  | .int128 => 128

def isSigned : IntegerKind → Bool
  | .int8 | .int16 | .int32 | .int64 | .int128 => true
  | .uint8 | .uint16 | .uint32 | .uint64 => false

/-- The least number of the type. -/
def low (k : IntegerKind) : Int := if k.isSigned then -(twoPow (k.bits - 1) : Int) else 0

/-- The greatest number of the type. -/
def high (k : IntegerKind) : Int :=
  (twoPow (if k.isSigned then k.bits - 1 else k.bits) : Int) - 1

end IntegerKind

/-- The units in which timestamps count. -/
inductive TimeUnit where
  | second
  | millisecond
  | microsecond
  | nanosecond
  deriving DecidableEq, Repr, Inhabited

def TimeUnit.perSecond : TimeUnit → Nat
  | .second => 1
  | .millisecond => 1000
  | .microsecond => 1000000
  | .nanosecond => 1000000000

inductive Cell where
  | null
  | boolean (b : Bool)
  | integer (kind : IntegerKind) (i : Int)
  | float (x : Single)
  | double (x : Double)
  /-- The number `coefficient / 10 ^ scale`. -/
  | decimal (coefficient : Int) (scale : Nat)
  | text (s : String)
  | blob (bytes : List UInt8)
  | timestamp (unit : TimeUnit) (raw : Int)
  /-- Days since 1970-01-01. -/
  | date (days : Int)
  deriving DecidableEq, Repr, Inhabited

namespace Cell

/-- The cell that is bound for a value; what has no cell of its own is bound as JSON text. -/
def ofValue : Value → Cell
  | .null => .null
  | .bool b => .boolean b
  | .int i => .integer .int64 i.toInt
  | .float d => .double d
  | .string s => .text s
  | .date i => .timestamp .microsecond i.micros
  | v => .text v.toJson.text

/-- An integer, or its digits where 64 bits are not enough. -/
def integerValue (i : Int) : Value :=
  match Value.int64? i with
  | some n => .int n
  | none => .string (toString i)

/-- The instant of a timestamp, or its count where the calendar does not reach it. -/
def timestampValue (unit : TimeUnit) (raw : Int) : Value :=
  match Instant.ofUnits? unit.perSecond raw with
  | some i => .date i
  | none => .int (Int64.ofInt raw)

/-- Midnight at the start of a day, or the day's number where the calendar does not reach it. -/
def dateValue (days : Int) : Value :=
  if Date.firstDay ≤ days ∧ days ≤ Date.lastDay then .date (.ofDayNumber days)
  else .int (Int64.ofInt days)

def decimalValue (coefficient : Int) (scale : Nat) : Double :=
  .ofDecimal ⟨coefficient < 0, coefficient.natAbs, -scale⟩

/-- The property value of a cell. -/
def toValue : Cell → Value
  | .null => .null
  | .boolean b => .bool b
  | .integer _ i => integerValue i
  | .float x => .float x.toDouble
  | .double x => .float x
  | .decimal coefficient scale => .float (decimalValue coefficient scale)
  | .text s => .string s
  | .blob bytes => .raw (.array (bytes.map fun b => .integer b.toNat))
  | .timestamp unit raw => timestampValue unit raw
  | .date days => dateValue days

end Cell

end Causeway.Relational
