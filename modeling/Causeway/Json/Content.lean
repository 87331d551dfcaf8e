import Causeway.Json.Reader

/-!
Contents of documents, taken in whole before anything is asked of them. Members are as they were
written: in their order, names perhaps repeated.
-/

namespace Causeway.Json

open Number

inductive Content where
  | null
  | bool (b : Bool)
  | integer (i : Int)
  | real (d : Double)
  | string (s : String)
  | array (items : List Content)
  | object (members : List (String × Content))
  deriving Repr, Inhabited

namespace Content

def ofNumeral (whole : Bool) (d : Decimal) : Option Content :=
  match numberOf whole d with
  | some (.integer i) => some (.integer i)
  | some (.real x) => some (.real x)
  | _ => none

mutual

/-- The content of a document whose arrays and objects nest at most `depth` deep. -/
def ofWritten (depth : Nat) : Written → Option Content
  | .null => some .null
  | .bool b => some (.bool b)
  | .number whole d => ofNumeral whole d
  | .string s => s.map .string
  | .array items =>
    match depth with
    | 0 => none
    | depth + 1 => (itemsOfWritten depth items).map .array
  | .object members =>
    match depth with
    | 0 => none
    | depth + 1 => (membersOfWritten depth members).map .object

def itemsOfWritten (depth : Nat) : List Written → Option (List Content)
  | [] => some []
  | x :: r => do
    let x ← ofWritten depth x
    let r ← itemsOfWritten depth r
    pure (x :: r)

def membersOfWritten (depth : Nat) :
    List (Option String × Written) → Option (List (String × Content))
  | [] => some []
  | (n, x) :: r => do
    let n ← n
    let x ← ofWritten depth x
    let r ← membersOfWritten depth r
    pure ((n, x) :: r)

end

mutual

/-- The JSON value of a content. Of repeated names the last one stays. -/
def toJson : Content → Json
  | .null => .null
  | .bool b => .bool b
  | .integer i => .integer i
  | .real d => .real d
  | .string s => .string s
  | .array items => .array (itemsToJson items)
  | .object members => obj (membersToJson members)

def itemsToJson : List Content → List Json
  | [] => []
  | x :: r => toJson x :: itemsToJson r

def membersToJson : List (String × Content) → List (String × Json)
  | [] => []
  | (n, x) :: r => (n, toJson x) :: membersToJson r

end

end Content

end Causeway.Json
