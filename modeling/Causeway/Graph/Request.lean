import Causeway.Direction
import Causeway.Value.Basic

/-!
What a graph data source can be asked for.
-/

namespace Causeway.Graph

/-- The elements whose property has a value. -/
structure PropertyFilter where
  property : String
  value : Value

namespace PropertyFilter

def toJson (f : PropertyFilter) : Json :=
  .obj [("property", .string f.property), ("value", f.value.serialize)]

def read (n : Json.Node) : Option PropertyFilter := do
  match ← Json.reading.fields ["property", "value"] n with
  | [property, value] =>
    pure {
      property := ← Reading.required Json.Node.text property
      value := ← Reading.required Json.Node.value value }
  | _ => none

end PropertyFilter

/-- A request to a graph data source. A limit of zero is none. -/
inductive Request where
  | query (text : String) (limit : Nat)
  /-- The neighbourhood of some elements, `hops` edges far. -/
  | expand (ids : List String) (direction : Direction) (label : Option String) (hops : Nat)
  | load (ids : List String)
  | ofClass (cls : String) (filter : Option PropertyFilter) (limit : Nat)
  /-- The edges from some elements to others; no labels are all labels, no targets all targets. -/
  | between (sources : List String) (labels : List String) (targets : List String)
  /-- Whether the data source answers at all; the answer is an empty graph. -/
  | probe

end Causeway.Graph
