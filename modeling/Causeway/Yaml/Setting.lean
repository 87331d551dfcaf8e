import Causeway.Document.Reading
import Causeway.Json.Basic
import Causeway.Json.Text
import Causeway.Yaml.Plain
import Causeway.Yaml.Tree

/-!
Settings: values of any shape out of YAML documents.
-/

namespace Causeway.Yaml

open Number

inductive Setting where
  | null
  | bool (b : Bool)
  | integer (i : Int)
  | real (d : Double)
  | text (s : String)
  | list (items : List Setting)
  | map (members : List (Setting × Setting))
  | tagged (tag : String) (value : Setting)
  deriving Repr, Inhabited, BEq

namespace Setting

/-- What a plain scalar denotes. Whole numbers beyond 64 bits are refused up to 128 bits and are floats
from there on. -/
def ofPlain (s : String) : Option Setting :=
  if s = "" ∨ isNullText s then some .null
  else match boolOf? s with
    | some b => some (.bool b)
    | none =>
      let float := match doubleOf? s with
        | some d => Setting.real d
        | none => .text s
      match integerOf? s with
      | some i =>
        if Json.leastInteger ≤ i ∧ i ≤ Json.greatestInteger then some (.integer i)
        else if -(twoPow 127 : Int) ≤ i ∧ i < twoPow 128 then none
        else some float
      | none => some float

def withTag (tag : Option String) (x : Setting) : Setting :=
  match tag with
  | some t => if "!!".toList.isPrefixOf t.toList then x else .tagged t x
  | none => x

mutual

/-- The value of a tree of limited depth. A name that occurs twice in a mapping is refused. -/
def ofTree (depth : Nat) : Tree → Option Setting
  | .scalar plain tag s => (if plain then ofPlain s else some (.text s)).map (withTag tag)
  | .sequence tag items =>
    match depth with
    | 0 => none
    | depth + 1 => (itemsOfTrees depth items).map fun l => withTag tag (.list l)
  | .mapping tag members =>
    match depth with
    | 0 => none
    | depth + 1 => (membersOfTrees depth members).bind fun l =>
      let names := l.map (·.1)
      if names.eraseDups.length = names.length then some (withTag tag (.map l)) else none

def itemsOfTrees (depth : Nat) : List Tree → Option (List Setting)
  | [] => some []
  | x :: r => do
    let x ← ofTree depth x
    let r ← itemsOfTrees depth r
    pure (x :: r)

def membersOfTrees (depth : Nat) : List (Tree × Tree) → Option (List (Setting × Setting))
  | [] => some []
  | (k, x) :: r => do
    let k ← ofTree depth k
    let x ← ofTree depth x
    let r ← membersOfTrees depth r
    pure ((k, x) :: r)

end

/-- The name that a key becomes in JSON. -/
def keyText : Setting → String
  | .text s => s
  | .bool b => if b then "true" else "false"
  | .integer i => toString i
  | .real d => d.jsonText
  | _ => "null"

mutual

def toJson : Setting → Json
  | .null => .null
  | .bool b => .bool b
  | .integer i => .integer i
  | .real d => .ofDouble d
  | .text s => .string s
  | .list items => .array (itemsToJson items)
  | .map members => Json.obj (membersToJson members)
  | .tagged tag x => Json.obj [(tag, toJson x)]

def itemsToJson : List Setting → List Json
  | [] => []
  | x :: r => toJson x :: itemsToJson r

def membersToJson : List (Setting × Setting) → List (String × Json)
  | [] => []
  | (k, x) :: r => (keyText k, toJson x) :: membersToJson r

end

def asText? : Setting → Option String
  | .text s => some s
  | _ => none

/-- A list of texts; nothing is an empty one. -/
def asTexts? : Setting → Option (List String)
  | .null => some []
  | .list items => items.mapM asText?
  | _ => none

/-- A map of texts by name; nothing is an empty one. -/
def asTextMap? : Setting → Option (NameMap String)
  | .null => some NameMap.empty
  | .map members =>
    (members.mapM fun (e : Setting × Setting) => do
      pure (← e.1.asText?, ← e.2.asText?)).map NameMap.ofList
  | _ => none

end Setting

end Causeway.Yaml
