import Causeway.NameMap
import Causeway.Number.Double

/-!
JSON values. A number is an integer or a finite double; the members of an object are kept in name
order.
-/

namespace Causeway

open Number

/-- A JSON value. -/
inductive Json where
  | null
  | bool (b : Bool)
  | integer (i : Int)
  | real (d : Double)
  | string (s : String)
  | array (items : List Json)
  | object (members : List (String × Json))
  deriving Repr, Inhabited

namespace Json

/-- The least integer that is kept as an integer. -/
def leastInteger : Int := Int64.minValue.toInt

/-- The greatest integer that is kept as an integer. -/
def greatestInteger : Int := (UInt64.size - 1 : Nat)

/-- An object with the members given; the last one of a name stays. -/
def obj (members : List (String × Json)) : Json := .object (Entries.ofList members)

def ofNames (names : List String) : Json := .array (names.map .string)

/-- A finite number as it is, any other as null. -/
def ofDouble (d : Double) : Json := if d.isFinite then .real d else .null

mutual

/-- Equality of values, numbers compared as numbers of their kind: an integer never equals a real,
and both real zeros are equal. -/
def same : Json → Json → Bool
  | .null, .null => true
  | .bool a, .bool b => a == b
  | .integer a, .integer b => a == b
  | .real a, .real b => a.sameNumber b
  | .string a, .string b => a == b
  | .array a, .array b => sameItems a b
  | .object a, .object b => sameMembers a b
  | _, _ => false

def sameItems : List Json → List Json → Bool
  | [], [] => true
  | a :: as, b :: bs => same a b && sameItems as bs
  | _, _ => false

def sameMembers : List (String × Json) → List (String × Json) → Bool
  | [], [] => true
  | (m, a) :: as, (n, b) :: bs => m == n && same a b && sameMembers as bs
  | _, _ => false

end

end Json

end Causeway
