import Causeway.Json.Text
import Causeway.Text.Case
import Causeway.Text.Blank
import Causeway.Time.Instant

/-!
Property values. A closed set of variants with one for anything that has no variant of its own;
maps keep their entries in name order.
-/

namespace Causeway

open Number Time

/-- A single property value. -/
inductive Value where
  | null
  | bool (b : Bool)
  | int (i : Int64)
  | float (d : Double)
  | string (s : String)
  | date (i : Instant)
  | list (items : List Value)
  | map (entries : List (String × Value))
  /-- A payload of the data source that is kept as it came. -/
  | raw (j : Json)
  deriving Repr, Inhabited

namespace Value

def ofMap (m : NameMap Value) : Value := .map m.entries

mutual

/-- Equality of values; floats are equal when their bits are. -/
def same : Value → Value → Bool
  | .null, .null => true
  | .bool a, .bool b => a == b
  | .int a, .int b => a == b
  | .float a, .float b => a == b
  | .string a, .string b => a == b
  | .date a, .date b => a == b
  | .list a, .list b => sameItems a b
  | .map a, .map b => sameEntries a b
  | .raw a, .raw b => a.same b
  | _, _ => false

def sameItems : List Value → List Value → Bool
  | [], [] => true
  | a :: as, b :: bs => same a b && sameItems as bs
  | _, _ => false

def sameEntries : List (String × Value) → List (String × Value) → Bool
  | [], [] => true
  | (m, a) :: as, (n, b) :: bs => m == n && same a b && sameEntries as bs
  | _, _ => false

end

instance : BEq Value := ⟨same⟩

def isNull : Value → Bool
  | .null => true
  | _ => false

/-- Null, or a text of white space only. -/
def isBlank : Value → Bool
  | .null => true
  | .string s => Text.isBlankText s
  | _ => false

/-- Neither null nor a list, a map or a raw payload. -/
def isScalar : Value → Bool
  | .bool _ | .int _ | .float _ | .string _ | .date _ => true
  | _ => false

mutual

/-- The value as JSON, dates with a numeric offset. -/
def toJson : Value → Json
  | .null => .null
  | .bool b => .bool b
  | .int i => .integer i.toInt
  | .float d => Json.ofDouble d
  | .string s => .string s
  | .date i => .string (i.text .numeric)
  | .list items => .array (itemsToJson items)
  | .map entries => .object (entriesToJson entries)
  | .raw j => j

def itemsToJson : List Value → List Json
  | [] => []
  | x :: r => toJson x :: itemsToJson r

def entriesToJson : List (String × Value) → List (String × Json)
  | [] => []
  | (n, x) :: r => (n, toJson x) :: entriesToJson r

end

mutual

/-- The value as it is written into documents, dates marked by `Z`. -/
def serialize : Value → Json
  | .null => .null
  | .bool b => .bool b
  | .int i => .integer i.toInt
  | .float d => Json.ofDouble d
  | .string s => .string s
  | .date i => .string (i.text .zulu)
  | .list items => .array (serializeItems items)
  | .map entries => .object (serializeEntries entries)
  | .raw j => j

def serializeItems : List Value → List Json
  | [] => []
  | x :: r => serialize x :: serializeItems r

def serializeEntries : List (String × Value) → List (String × Json)
  | [] => []
  | (n, x) :: r => (n, serialize x) :: serializeEntries r

end

/-- The value as text: scalars as themselves, everything else as compact JSON. -/
def text : Value → String
  | .null => "null"
  | .bool b => if b then "true" else "false"
  | .int i => toString i.toInt
  | .float d => d.plainText
  | .string s => s
  | .date i => i.text .numeric
  | v => v.toJson.text

/-- The integer, if it is one of 64 bits with a sign. -/
def int64? (i : Int) : Option Int64 :=
  if Int64.minValue.toInt ≤ i ∧ i ≤ Int64.maxValue.toInt then some (Int64.ofInt i) else none

/-- An integer where 64 bits with a sign are enough, else the nearest float. -/
def ofInteger (i : Int) : Value :=
  match int64? i with
  | some n => .int n
  | none => .float (Double.ofInt i)

/-- A machine word read as a signed integer. -/
def ofWord (w : UInt64) : Value := .int w.toInt64

mutual

/-- The value of a JSON value. -/
def ofJson : Json → Value
  | .null => .null
  | .bool b => .bool b
  | .integer i => ofInteger i
  | .real d => .float d
  | .string s => .string s
  | .array items => .list (itemsOfJson items)
  | .object members => .map (membersOfJson members)

def itemsOfJson : List Json → List Value
  | [] => []
  | x :: r => ofJson x :: itemsOfJson r

def membersOfJson : List (String × Json) → List (String × Value)
  | [] => []
  | (n, x) :: r => (n, ofJson x) :: membersOfJson r

end

end Value

end Causeway
