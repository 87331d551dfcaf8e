import Causeway.Json.Content
import Causeway.Value.Basic

/-!
Reading values straight from JSON documents, without a JSON value in between. The variants are tried
in their order, and the first that fits is taken: a whole number is an integer before it is a float,
and a text is a text before it is a date.
-/

namespace Causeway.Value

open Number Time Json

def asNull? : Content → Option Value
  | .null => some .null
  | _ => none

def asTruth? : Content → Option Value
  | .bool b => some (.bool b)
  | _ => none

def asInteger? : Content → Option Value
  | .integer i => (int64? i).map .int
  | _ => none

/-- Any number is a float. -/
def asFloat? : Content → Option Value
  | .integer i => some (.float (Double.ofInt i))
  | .real d => some (.float d)
  | _ => none

def asString? : Content → Option Value
  | .string s => some (.string s)
  | _ => none

def asDate? : Content → Option Value
  | .string s => (Instant.read s.toList).map .date
  | _ => none

/-- The variants without parts, as they are tried. -/
def scalar? (c : Content) : Option Value :=
  [asNull?, asTruth?, asInteger?, asFloat?, asString?, asDate?].findSome? fun variant => variant c

mutual

/-- The value of a content: a scalar, else a list, else a map, else the content as it came. -/
def ofContent (c : Content) : Option Value :=
  scalar? c <|>
  (match c with
    | .array items => (itemsOfContent items).map .list
    | _ => none) <|>
  (match c with
    | .object members => (membersOfContent members).map fun l => .map (Entries.ofList l)
    | _ => none) <|>
  some (.raw c.toJson)

def itemsOfContent : List Content → Option (List Value)
  | [] => some []
  | c :: r => do
    let v ← ofContent c
    let r ← itemsOfContent r
    pure (v :: r)

def membersOfContent : List (String × Content) → Option (List (String × Value))
  | [] => some []
  | (n, c) :: r => do
    let v ← ofContent c
    let r ← membersOfContent r
    pure ((n, v) :: r)

end

end Causeway.Value
